import Rollout.Json.Numeric

/-!
# Values as keys

Values that are equal are the same key. Numbers are equal when they stand for the same integer or
fraction, whether or not they are written with a point, and truth values are the integers zero
and one.

## Implementation notes

Arrays and objects cannot be keys. What is not a number is one key of its own.
-/

namespace Rollout.Json

/-- The integer that a value is as a key. -/
def keyInt? : Json → Option Int
  | .int n => some n
  | .bool b => some (bit b)
  | _ => none

/-- An integer and a floating-point number are at the same place. -/
def sameNumber (n : Int) : Binary64 → Bool
  | .finite s m e =>
    n * Nat.pow 2 (-Binary64.leastExponent).toNat == Binary64.signed s (Binary64.magnitude m e)
  | _ => false

/-- Two values are the same key. -/
def sameKey : Json → Json → Bool
  | .null, .null => true
  | .str s, .str t => s == t
  | .stray s, .stray t => s == t
  | .float x, .float y => x.place? == y.place?
  | .float x, j =>
    match j.keyInt? with
    | some n => sameNumber n x
    | none => false
  | j, .float x =>
    match j.keyInt? with
    | some n => sameNumber n x
    | none => false
  | j, j' =>
    match j.keyInt?, j'.keyInt? with
    | some n, some n' => n == n'
    | _, _ => false

end Rollout.Json
