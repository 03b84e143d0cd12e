/-!
# Binary floating-point numbers

A number of 64 bits is not a number, an infinity, or a signed multiple `m * 2 ^ e`. Finite
numbers are kept in the form that arithmetic produces: the exponent is at least `-1074`, and the
multiplier has 53 binary digits unless the exponent is `-1074`.

Numbers that are numbers are compared through their `place`: the position on the line in units
of the smallest positive number, where infinity stands at the first power of two that is too
large to be finite.

## Implementation notes

Rounding is defined on fractions of natural numbers and takes the even neighbour of a tie. It is
exact arithmetic throughout, so that laws about it are laws about natural numbers. Powers are
written with `Nat.pow`, which is the same function whatever else is imported.
-/

namespace Rollout

/-- The numbers that 64 bits stand for. -/
inductive Binary64
  | nan
  | infinite (negative : Bool)
  | finite (negative : Bool) (multiplier : Nat) (exponent : Int)
  deriving DecidableEq, Repr

namespace Binary64

/-- The count of binary digits of a multiplier. -/
def precision : Nat := 53

/-- The exponent of the smallest numbers. -/
def leastExponent : Int := -1074

/-- The largest exponent of a finite number. -/
def greatestExponent : Int := 971

/-- Zero with a sign. -/
def zero (negative : Bool) : Binary64 := .finite negative 0 leastExponent

/-- The quotient of two natural numbers rounded to the nearest one, a tie to the even one. -/
def divideEven (num den : Nat) : Nat :=
  let q := num / den
  let twice := 2 * (num % den)
  if twice < den then q
  else if den < twice then q + 1
  else if q % 2 = 0 then q else q + 1

/-- The quotient of `num / den` by `2 ^ e`, as numerator and denominator. -/
def scale (num den : Nat) (e : Int) : Nat × Nat :=
  if 0 ≤ e then (num, den * Nat.pow 2 e.toNat) else (num * Nat.pow 2 (-e).toNat, den)

/-- The largest exponent `k` for which `2 ^ k` is at most `num / den`. -/
def binaryOrder (num den : Nat) : Int :=
  let k : Int := (num.log2 : Int) - (den.log2 : Int)
  let (n, d) := scale num den k
  if n < d then k - 1 else k

/-- The exponent with which a positive fraction is represented. -/
def exponentFor (num den : Nat) : Int :=
  max (binaryOrder num den - (precision - 1 : Nat)) leastExponent

/-- Put a rounded multiplier into normal form; too large a number is infinite. -/
def ofRounded (negative : Bool) (m : Nat) (e : Int) : Binary64 :=
  let (m, e) := if m = Nat.pow 2 precision then (Nat.pow 2 (precision - 1), e + 1) else (m, e)
  if greatestExponent < e then .infinite negative else .finite negative m e

/-- The number nearest to `num / den`, of two nearest the one with an even multiplier. -/
def ofFraction (negative : Bool) (num den : Nat) : Binary64 :=
  if num = 0 then zero negative
  else
    let e := exponentFor num den
    let (n, d) := scale num den e
    ofRounded negative (divideEven n d) e

/-- The number nearest to an integer. -/
def ofInt (n : Int) : Binary64 := ofFraction (n < 0) n.natAbs 1

/-- The number nearest to an integer unless the integer is too large. -/
def ofInt? (n : Int) : Option Binary64 :=
  match ofInt n with
  | .finite s m e => some (.finite s m e)
  | _ => none

/-- The number nearest to `digits * 10 ^ exponent`. Fractions far beyond the finite numbers or
far below the smallest one are not computed. -/
def ofDecimal (negative : Bool) (digits : Nat) (exponent : Int) : Binary64 :=
  if digits = 0 then zero negative
  else if 400 < exponent then .infinite negative
  else if exponent + (digits.log2 : Int) < -1500 then zero negative
  else if 0 ≤ exponent then ofFraction negative (digits * Nat.pow 10 exponent.toNat) 1
  else ofFraction negative digits (Nat.pow 10 (-exponent).toNat)

/-- The place of infinity. -/
def horizon : Nat := Nat.pow 2 2098

/-- The place of a magnitude. -/
def magnitude (m : Nat) (e : Int) : Nat := m * Nat.pow 2 (e - leastExponent).toNat

/-- Attach a sign to a magnitude. -/
def signed (negative : Bool) (n : Nat) : Int := if negative then -(n : Int) else n

theorem signed_natAbs (n : Int) : signed (decide (n < 0)) n.natAbs = n := by
  simp only [signed, decide_eq_true_eq]
  split <;> omega

/-- The position of a number on the line; what is not a number has none. -/
def place? : Binary64 → Option Int
  | .nan => none
  | .infinite s => some (signed s horizon)
  | .finite s m e => some (signed s (magnitude m e))

/-- Recognise what is not a number. -/
def isNan : Binary64 → Bool
  | .nan => true
  | _ => false

/-- Recognise both zeros. -/
def isZero : Binary64 → Bool
  | .finite _ m _ => m == 0
  | _ => false

/-- The integer part of a finite number. -/
def truncate? : Binary64 → Option Int
  | .finite s m e => some (signed s (let (n, d) := scale m 1 (-e); n / d))
  | _ => none

end Binary64

end Rollout
