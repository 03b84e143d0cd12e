import Rollout.Fault

/-!
# Numbers read off values

Numbers stand for themselves, truth values for zero and one, and texts for the numeral they
hold. Other values have no number.
-/

namespace Rollout.Json

/-- The integer of a truth value. -/
def bit (b : Bool) : Int := if b then 1 else 0

/-- The floating-point number of a value, if it has one; an integer may be too large for it. -/
def toFloat? : Json → Except Fault (Option Binary64)
  | .bool b => .ok (some (Binary64.ofInt (bit b)))
  | .int n =>
    match Binary64.ofInt? n with
    | some x => .ok (some x)
    | none => .error .integerTooLarge
  | .float x => .ok (some x)
  | .str s => .ok (Numeral.readFloat s.toList)
  | _ => .ok none

/-- The integer of a value, if it has one; a floating-point number loses its fraction, and an
infinite one has no integer to become. -/
def toInt? : Json → Except Fault (Option Int)
  | .bool b => .ok (some (bit b))
  | .int n => .ok (some n)
  | .float .nan => .ok none
  | .float x =>
    match x.truncate? with
    | some n => .ok (some n)
    | none => .error .infiniteInteger
  | .str s =>
    match Numeral.readInt s.toList with
    | .ok n => .ok (some n)
    | .error _ => .ok none
  | _ => .ok none

end Rollout.Json
