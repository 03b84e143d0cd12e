import Rollout.Pattern.Scanner
import Rollout.Text.CharacterName
import Rollout.Text.Hexadecimal

/-!
# Escapes

An escape stands for a character that is hard to write, for a class of characters, for a position
or for a group. Inside a set of characters only the first two are possible. A letter without a
meaning of its own must not be escaped.
-/

namespace Rollout.Pattern

open Text

/-- Recognise an octal digit. -/
def isOctal (c : Char) : Bool := 48 ≤ c.toNat && c.toNat ≤ 55

/-- The greatest code point that three octal digits may name. -/
def maxOctal : Nat := 255

/-- Classes of characters by their letter; a capital letter negates the class. -/
def category? (c : Char) : Option SetItem :=
  if c == 'd' then some (.category .digit false)
  else if c == 'D' then some (.category .digit true)
  else if c == 's' then some (.category .space false)
  else if c == 'S' then some (.category .space true)
  else if c == 'w' then some (.category .word false)
  else if c == 'W' then some (.category .word true)
  else none

/-- Control characters and the backslash by their letter. -/
def control? (c : Char) : Option Nat :=
  if c == 'a' then some 7
  else if c == 'b' then some 8
  else if c == 'f' then some 12
  else if c == 'n' then some 10
  else if c == 'r' then some 13
  else if c == 't' then some 9
  else if c == 'v' then some 11
  else if c == '\\' then some 92
  else none

/-- Positions by their letter. -/
def anchor? (c : Char) : Option Anchor :=
  if c == 'A' then some .textStart
  else if c == 'b' then some .boundary
  else if c == 'B' then some .nonBoundary
  else if c == 'Z' then some .textEnd
  else none

/-- The count of hexadecimal digits after a letter. -/
def hexCount? (c : Char) : Option Nat :=
  if c == 'x' then some 2
  else if c == 'u' then some 4
  else if c == 'U' then some 8
  else none

/-- The greatest code point. -/
def maxCode : Nat := 0x10ffff

/-- The greatest number that is looked up as a code point. -/
def maxNumber : Nat := Nat.pow 2 31 - 1

/-- Read a code point written in a fixed count of hexadecimal digits. -/
def readHex (count : Nat) (s : Scanner) : Except Issue (Nat × Scanner) := do
  let (ds, s) ← s.takeWhile isHex count
  let n := inBase 16 ds
  if ds.length ≠ count then .error .malformed
  else if maxNumber < n then .error .codePointTooLarge
  else if maxCode < n then .error .malformed
  else return (n, s)

/-- Read a code point given by the name of its character. -/
def readNamed (s : Scanner) : Except Issue (Nat × Scanner) := do
  let s ← s.expect '\x7b'
  let (name, s) ← s.takeName '\x7d'
  match characterNamed? name with
  | some n => return (n, s)
  | none => .error .malformed

/-- Read the code point of an escape that is neither a class, a control character, a position nor
begins with a digit. -/
def readCode (c : Char) (s : Scanner) : Except Issue (Nat × Scanner) :=
  match hexCount? c with
  | some count => readHex count s
  | none =>
    if c == 'N' then readNamed s
    else if isAsciiLetterCode c.toNat then .error .malformed
    else .ok (c.toNat, s)

/-- Read an escape inside a set of characters. -/
def readSetEscape (c : Char) (s : Scanner) : Except Issue (SetItem × Scanner) :=
  match control? c with
  | some n => .ok (.code n, s)
  | none =>
    match category? c with
    | some item => .ok (item, s)
    | none =>
      if isOctal c then do
        let (ds, s) ← s.takeWhile isOctal 2
        let n := inBase 8 (c :: ds)
        if maxOctal < n then .error .malformed else return (.code n, s)
      else if isAsciiDigit c then .error .malformed
      else do
        let (n, s) ← readCode c s
        return (.code n, s)

/-- Read an escape that begins with a digit other than zero: three octal digits are a code point,
anything else is the number of a group. -/
def readDigits (c : Char) (s : Scanner) : Except Issue (Pattern × Scanner) := do
  let (second, s) ← s.takeWhile isAsciiDigit 1
  if isOctal c && second.any isOctal && s.nextHas isOctal then
    let (third, s) ← s.takeWhile isOctal 1
    let n := inBase 8 (c :: second ++ third)
    if maxOctal < n then .error .malformed else return (.code n false, s)
  else
    let p ← s.reference (inBase 10 (c :: second))
    return (p, s)

/-- Read an escape outside a set of characters. -/
def readEscape (c : Char) (s : Scanner) : Except Issue (Pattern × Scanner) :=
  match anchor? c, category? c, control? c with
  | some a, _, _ => .ok (.anchor a, s)
  | none, some item, _ => .ok (.set false [item], s)
  | none, none, some n => .ok (.code n false, s)
  | none, none, none =>
    if c == '0' then do
      let (ds, s) ← s.takeWhile isOctal 2
      return (.code (inBase 8 (c :: ds)) false, s)
    else if isAsciiDigit c then readDigits c s
    else do
      let (n, s) ← readCode c s
      return (.code n false, s)

end Rollout.Pattern
