import Rollout.Number.Binary64
import Rollout.Text.Blank
import Rollout.Text.Digit

/-!
# Numerals

A numeral may be surrounded by blanks, may use the digits of any script, may begin with a sign
and may have single underscores between digits. An integer is a row of digits. A floating-point
number may have a fraction and an exponent, or be one of the words for infinity and for what is
not a number.

## Implementation notes

Both readers share the steps that remove blanks, signs and underscores, so that every integer
numeral is a floating-point numeral of the same value.
-/

namespace Rollout.Numeral

open Text

/-- The most digits that an integer numeral may have. -/
def maxDigits : Nat := 4300

/-- Reasons for which a text is not read as an integer. -/
inductive IntIssue
  | malformed
  | tooLong (digits : Nat)
  deriving DecidableEq, Repr

/-- Bring a character to its plain form: digits of any script become `0` to `9` and wide blanks
become spaces. -/
def plain (c : Char) : Char :=
  if c.toNat < 127 then c
  else if isWideBlank c then ' '
  else
    match digitValue? c with
    | some d => digitChar d
    | none => '?'

/-- The numeral without the blanks around it, in plain characters. -/
def trimmed (s : List Char) : List Char := trimBoth isAsciiBlank (s.map plain)

/-- Take the sign off a numeral; the result says whether it is a minus sign. -/
def splitSign : List Char → Bool × List Char
  | '-' :: rest => (true, rest)
  | '+' :: rest => (false, rest)
  | cs => (false, cs)

/-- A digit comes first. -/
def startsWithDigit : List Char → Bool
  | c :: _ => isAsciiDigit c
  | [] => false

/-- Remove the underscores when each stands between two digits. The flag says whether a digit
comes before. -/
def dropSeparators (afterDigit : Bool) : List Char → Option (List Char)
  | [] => some []
  | c :: rest =>
    if c == '_' then
      if afterDigit && startsWithDigit rest then dropSeparators false rest else none
    else (dropSeparators (isAsciiDigit c) rest).map (c :: ·)

/-- Read an integer numeral. -/
def readInt (s : List Char) : Except IntIssue Int :=
  let (negative, body) := splitSign (trimmed s)
  match dropSeparators false body with
  | none => .error .malformed
  | some ds =>
    if ds.isEmpty || !ds.all isAsciiDigit then .error .malformed
    else if maxDigits < ds.length then .error (.tooLong ds.length)
    else .ok (Binary64.signed negative (digitsToNat ds))

/-- Read an exponent, which ends the numeral; without one the exponent is zero. -/
def readExponent : List Char → Option Int
  | [] => some 0
  | c :: rest =>
    if c == 'e' || c == 'E' then
      let (negative, ds) := splitSign rest
      if ds.isEmpty || !ds.all isAsciiDigit then none
      else some (Binary64.signed negative (digitsToNat ds))
    else none

/-- Read a decimal numeral without sign as digits and a power of ten. -/
def readDecimal (cs : List Char) : Option (Nat × Int) :=
  let whole := cs.takeWhile isAsciiDigit
  let rest := cs.dropWhile isAsciiDigit
  let (fraction, rest) :=
    match rest with
    | '.' :: more => (more.takeWhile isAsciiDigit, more.dropWhile isAsciiDigit)
    | _ => ([], rest)
  if whole.isEmpty && fraction.isEmpty then none
  else
    (readExponent rest).map fun exponent =>
      (digitsToNat (whole ++ fraction), exponent - (fraction.length : Int))

/-- The lower-case form of a plain letter. -/
def lowerPlain (c : Char) : Char :=
  if 65 ≤ c.toNat && c.toNat ≤ 90 then Char.ofNat (c.toNat + 32) else c

/-- Read a word for a number that has no digits. -/
def readWord (negative : Bool) (cs : List Char) : Option Binary64 :=
  let word := String.ofList (cs.map lowerPlain)
  if word == "inf" || word == "infinity" then some (.infinite negative)
  else if word == "nan" then some .nan
  else none

/-- Read a floating-point numeral. -/
def readFloat (s : List Char) : Option Binary64 :=
  let (negative, body) := splitSign (trimmed s)
  match readWord negative body with
  | some x => some x
  | none =>
    (dropSeparators false body).bind fun cs =>
      (readDecimal cs).map fun (digits, exponent) => Binary64.ofDecimal negative digits exponent

end Rollout.Numeral
