import Rollout.Pattern.Basic

/-!
# Tests on one character

A character is tested by its code point: for equality with another one, for membership in a class
or in a set. When letter case is ignored, lower-case forms are compared, together with the
lower-case letters that share their upper-case letter.

## Implementation notes

A set is tested in lower case only when one of its members has two case forms. Members beyond
the first 65536 code points are then compared as they stand, ranges of them also with the
upper-case form of the tested character.
-/

namespace Rollout.Pattern

open Text

/-- The line break that ends a line. -/
def lineBreak : Nat := 10

/-- Membership in a class of characters; without wide letters only the first 128 characters can
belong to one. -/
def Category.holds (wide : Bool) (c : Category) (n : Nat) : Bool :=
  match c with
  | .digit => if wide then isDigit (Char.ofNat n) else 48 ≤ n && n ≤ 57
  | .space => if wide then isBlank (Char.ofNat n) else isAsciiBlank (Char.ofNat n)
  | .word => if wide then isWordCode n else isAsciiWordCode n

/-- Membership in the part of a set that one item describes. -/
def SetItem.holds (wide : Bool) (n : Nat) : SetItem → Bool
  | .code m => n == m
  | .range lo hi => lo ≤ n && n ≤ hi
  | .category c negated => c.holds wide n != negated

/-- The lower-case form of a code point. -/
def lowerOf (wide : Bool) (n : Nat) : Nat := if wide then lowerCode n else asciiLowerCode n

/-- The lower-case letters that count as the same as a lower-case letter. -/
def sameLetters (wide : Bool) (n : Nat) : List Nat := if wide then siblings n else [n]

/-- All code points with a given lower-case form. -/
def sourcesOf (wide : Bool) (n : Nat) : List Nat :=
  if wide then lowerSources n
  else (if asciiLowerCode n = n then [n] else []) ++
    (if 97 ≤ n && n ≤ 122 then [n - 32] else [])

/-- Some code point between the bounds has two case forms. -/
def hasCase (wide : Bool) (lo hi : Nat) : Bool :=
  if wide then anyCased lo hi
  else (lo ≤ 90 && 65 ≤ hi) || (lo ≤ 122 && 97 ≤ hi)

/-- The end of the code points whose case forms are looked up in sets. -/
def basicEnd : Nat := 65536

/-- Recognise the items that make a set be tested in lower case. -/
def SetItem.isCased (wide : Bool) : SetItem → Bool
  | .code n => basicEnd ≤ n || hasCase wide n n
  | .range lo hi => basicEnd ≤ hi || hasCase wide lo hi
  | .category _ _ => false

/-- Membership of a lower-case form in the part of a set that one item describes. -/
def SetItem.holdsLower (wide : Bool) (n : Nat) : SetItem → Bool
  | .code m =>
    if m < basicEnd then (sameLetters wide (lowerOf wide m)).contains n else n == m
  | .range lo hi =>
    ((sameLetters wide n).any fun m =>
      (sourcesOf wide m).any fun o => lo ≤ o && o ≤ hi && o < basicEnd) ||
    (basicEnd ≤ hi && ((lo ≤ n && n ≤ hi) || (lo ≤ upperCode n && upperCode n ≤ hi)))
  | .category c negated => c.holds wide n != negated

/-- Membership in a set of characters. -/
def setHolds (m : Modes) (negated : Bool) (items : List SetItem) (n : Nat) : Bool :=
  if m.ignoreCase && items.any (·.isCased m.wide) then
    items.any (·.holdsLower m.wide (lowerOf m.wide n)) != negated
  else items.any (·.holds m.wide n) != negated

/-- Equality with a given code point. -/
def codeHolds (m : Modes) (code : Nat) (negated : Bool) (n : Nat) : Bool :=
  if m.ignoreCase && hasCase m.wide code code then
    (sameLetters m.wide (lowerOf m.wide code)).contains (lowerOf m.wide n) != negated
  else (n == code) != negated

/-- Equality of two characters of the text. -/
def sameChar (m : Modes) (c d : Char) : Bool :=
  if m.ignoreCase then lowerOf m.wide c.toNat == lowerOf m.wide d.toNat else c == d

end Rollout.Pattern
