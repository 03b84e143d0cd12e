import Rollout.Text.Digit

/-!
# Hexadecimal digits

The letters `a` to `f`, of either case, continue the digits `0` to `9` up to the value fifteen.
-/

namespace Rollout.Text

/-- Recognise a hexadecimal digit. -/
def isHex (c : Char) : Bool :=
  isAsciiDigit c || (97 ≤ c.toNat && c.toNat ≤ 102) || (65 ≤ c.toNat && c.toNat ≤ 70)

/-- The value of a hexadecimal digit. -/
def hexDigit (c : Char) : Nat :=
  if isAsciiDigit c then c.toNat - 48
  else if 97 ≤ c.toNat then c.toNat - 87
  else c.toNat - 55

/-- The number that digits of a base spell. -/
def inBase (base : Nat) (ds : List Char) : Nat :=
  ds.foldl (fun n d => n * base + hexDigit d) 0

end Rollout.Text
