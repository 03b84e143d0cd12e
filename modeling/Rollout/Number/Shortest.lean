import Rollout.Number.Binary64
import Rollout.Text.Digit

/-!
# Shortest numerals

A finite number is written with the fewest decimal digits that read back as the same number, and
of those with the digits nearest to it. The digits are found on decimal grids of growing
fineness: on each grid only the two neighbours of the number have to be looked at.
-/

namespace Rollout.Binary64

open Text

/-- The fraction `num / den` on the grid of multiples of `10 ^ x`, as numerator and
denominator. -/
def onGrid (num den : Nat) (x : Int) : Nat × Nat :=
  if 0 ≤ x then (num, den * Nat.pow 10 x.toNat) else (num * Nat.pow 10 (-x).toNat, den)

/-- The largest `k` for which `10 ^ k` is at most a positive finite number `num / den`. -/
def decimalOrder (num den : Nat) : Int :=
  ((natDigits (num * Nat.pow 10 350 / den)).length : Int) - 351

/-- The neighbour of `m * 2 ^ e` on the grid of multiples of `10 ^ x` that reads back as the
same number, if there is one. Bounds are measured in quarters of the unit `2 ^ e`; they belong to
the interval of `m * 2 ^ e` when `m` is even. -/
def gridNeighbour (m : Nat) (e x : Int) : Option Nat :=
  let below := if m = Nat.pow 2 (precision - 1) && leastExponent < e then 4 * m - 1 else 4 * m - 2
  let (unit, base) := scale 1 1 (2 - e)
  let (value, den) := onGrid (4 * m * unit) base x
  let (lower, _) := onGrid (below * unit) base x
  let (upper, _) := onGrid ((4 * m + 2) * unit) base x
  let inside (d : Nat) : Bool :=
    if m % 2 = 0 then lower ≤ d * den && d * den ≤ upper else lower < d * den && d * den < upper
  let d := value / den
  match inside d, inside (d + 1) with
  | false, false => none
  | true, false => some d
  | false, true => some (d + 1)
  | true, true => some (divideEven value den)

/-- Look through the grids with `count`, `count + 1`, … digits. -/
def searchGrids (m : Nat) (e order : Int) : Nat → Nat → Nat × Int
  | 0, count => (0, order - count)
  | fuel + 1, count =>
    let x := order - count + 1
    match gridNeighbour m e x with
    | some d => if d = Nat.pow 10 count then (1, x + count) else (d, x)
    | none => searchGrids m e order fuel (count + 1)

/-- The shortest decimal `d * 10 ^ x` that reads back as the positive number `m * 2 ^ e`. -/
def shortest (m : Nat) (e : Int) : Nat × Int :=
  let (num, den) := scale m 1 (-e)
  searchGrids m e (decimalOrder num den) 17 1

/-- The written exponent has a sign and at least two digits. -/
def writeExponent (x : Int) : List Char :=
  let ds := natDigits x.natAbs
  (if x < 0 then '-' else '+') :: (if ds.length < 2 then '0' :: ds else ds)

/-- Lay out digits with the decimal point after the first `point` of them. From `10 ^ -4` up to
below `10 ^ 16` the notation is positional and keeps a fraction; beyond, it has an exponent. -/
def layout (ds : List Char) (point : Int) : List Char :=
  if -4 < point && point ≤ 16 then
    if point ≤ 0 then '0' :: '.' :: List.replicate (-point).toNat '0' ++ ds
    else
      let n := point.toNat
      if ds.length ≤ n then ds ++ List.replicate (n - ds.length) '0' ++ ['.', '0']
      else ds.take n ++ '.' :: ds.drop n
  else
    match ds with
    | [] => []
    | d :: rest =>
      d :: (if rest.isEmpty then [] else '.' :: rest) ++ 'e' :: writeExponent (point - 1)

/-- The numeral of a magnitude. -/
def writeMagnitude (m : Nat) (e : Int) : List Char :=
  if m = 0 then ['0', '.', '0']
  else
    let (d, x) := shortest m e
    let ds := natDigits d
    layout ds (x + (ds.length : Int))

/-- The written form of a number. -/
def write : Binary64 → List Char
  | .nan => "nan".toList
  | .infinite negative => if negative then "-inf".toList else "inf".toList
  | .finite negative m e =>
    if negative then '-' :: writeMagnitude m e else writeMagnitude m e

end Rollout.Binary64
