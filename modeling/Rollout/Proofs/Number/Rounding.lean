import Rollout.Proofs.Number.Overflow

/-!
# Integers as floating-point numbers

Of the magnitude of an integer, 53 binary digits are kept, and a magnitude that reaches `2 ^ 1024`
becomes infinite. Rounding can make two integers equal but never puts them in the other order, and
it keeps the integers of magnitude at most `2 ^ 53` as they are.

## Implementation notes

Magnitudes that are rounded are natural numbers; places on the line are these in units of the
smallest positive number. The large powers of two have names, so that nothing evaluates them.
-/

namespace Rollout.Binary64

/-! ## Rounded quotients -/

theorem divideEven_mul {den : Nat} (hden : 0 < den) (q : Nat) : divideEven (q * den) den = q := by
  have hquot : q * den / den = q := Nat.mul_div_cancel q hden
  have hrem : q * den % den = 0 := Nat.mul_mod_left q den
  have hcases := divideEven_cases (q * den) den
  rw [hquot, hrem] at hcases
  omega

theorem divideEven_one (n : Nat) : divideEven n 1 = n := by
  have h := divideEven_mul Nat.one_pos n
  rwa [Nat.mul_one] at h

/-- Rounding keeps the order of quotients by the same number. -/
theorem divideEven_mono {a b : Nat} (den : Nat) (h : a ≤ b) :
    divideEven a den ≤ divideEven b den := by
  have ha : a / den * den + a % den = a := Nat.div_add_mod' a den
  have hb : b / den * den + b % den = b := Nat.div_add_mod' b den
  have hquot : a / den ≤ b / den := Nat.div_le_div_right h
  have hacases := divideEven_cases a den
  have hbcases := divideEven_cases b den
  rcases Nat.lt_or_eq_of_le hquot with hlt | heq
  · omega
  · rw [heq] at ha hacases
    have hremainder : a % den ≤ b % den := by omega
    omega

/-! ## Rounded magnitudes -/

/-- The count of binary digits of a natural number that are not kept. -/
def droppedDigits (n : Nat) : Nat := n.log2 - 52

/-- The natural number that rounding keeps of another one. -/
def nearest (n : Nat) : Nat := divideEven n (2 ^ droppedDigits n) * 2 ^ droppedDigits n

theorem nearest_eq_self_of_log2_le {n : Nat} (h : n.log2 ≤ 52) : nearest n = n := by
  have hdropped : droppedDigits n = 0 := Nat.sub_eq_zero_of_le h
  rw [nearest, hdropped, Nat.pow_zero, divideEven_one, Nat.mul_one]

theorem nearest_zero : nearest 0 = 0 := nearest_eq_self_of_log2_le (by decide)

/-- A magnitude with digits to drop is rounded to 53 digits, or to the least number of 54. -/
theorem divideEven_droppedDigits_bounds {n : Nat} (hn : n ≠ 0) (h : 52 ≤ n.log2) :
    2 ^ 52 ≤ divideEven n (2 ^ droppedDigits n) ∧ divideEven n (2 ^ droppedDigits n) ≤ 2 ^ 53 := by
  have hunit : 0 < 2 ^ droppedDigits n := Nat.two_pow_pos _
  have hlog : n.log2 = 52 + droppedDigits n := (Nat.add_sub_cancel' h).symm
  have hlow : 2 ^ 52 * 2 ^ droppedDigits n ≤ n := by
    rw [← Nat.pow_add, ← hlog]
    exact Nat.log2_self_le hn
  have hhigh : n ≤ 2 ^ 53 * 2 ^ droppedDigits n := by
    have hlt : n < 2 ^ (n.log2 + 1) := Nat.lt_log2_self
    rw [hlog, Nat.add_right_comm, Nat.pow_add] at hlt
    exact Nat.le_of_lt hlt
  constructor
  · calc
      2 ^ 52 = divideEven (2 ^ 52 * 2 ^ droppedDigits n) (2 ^ droppedDigits n) :=
        (divideEven_mul hunit _).symm
      _ ≤ divideEven n (2 ^ droppedDigits n) := divideEven_mono _ hlow
  · exact divideEven_le hunit hhigh

/-- Rounding does not leave the range between two powers of two. -/
theorem nearest_bounds {n : Nat} (hn : n ≠ 0) :
    2 ^ n.log2 ≤ nearest n ∧ nearest n ≤ 2 ^ (n.log2 + 1) := by
  rcases Nat.le_total n.log2 52 with hlog | hlog
  · rw [nearest_eq_self_of_log2_le hlog]
    exact ⟨Nat.log2_self_le hn, Nat.le_of_lt Nat.lt_log2_self⟩
  · obtain ⟨hlow, hhigh⟩ := divideEven_droppedDigits_bounds hn hlog
    have hsplit : n.log2 = 52 + droppedDigits n := (Nat.add_sub_cancel' hlog).symm
    constructor
    · calc
        2 ^ n.log2 = 2 ^ 52 * 2 ^ droppedDigits n := two_pow_split _ _ _ hsplit
        _ ≤ nearest n := Nat.mul_le_mul_right _ hlow
    · calc
        nearest n ≤ 2 ^ 53 * 2 ^ droppedDigits n := Nat.mul_le_mul_right _ hhigh
        _ = 2 ^ (n.log2 + 1) := (two_pow_split _ _ _ (by omega)).symm

theorem log2_mono {n m : Nat} (hn : n ≠ 0) (h : n ≤ m) : n.log2 ≤ m.log2 := by
  have hm : m ≠ 0 := by omega
  rw [Nat.le_log2 hm]
  exact Nat.le_trans (Nat.log2_self_le hn) h

/-- Rounding keeps the order of natural numbers. -/
theorem nearest_mono {n m : Nat} (h : n ≤ m) : nearest n ≤ nearest m := by
  by_cases hn : n = 0
  · rw [hn, nearest_zero]
    exact Nat.zero_le _
  have hm : m ≠ 0 := by omega
  rcases Nat.lt_or_eq_of_le (log2_mono hn h) with hlt | heq
  · have hpower : 2 ^ (n.log2 + 1) ≤ 2 ^ m.log2 := Nat.pow_le_pow_right (by decide) hlt
    calc
      nearest n ≤ 2 ^ (n.log2 + 1) := (nearest_bounds hn).2
      _ ≤ 2 ^ m.log2 := hpower
      _ ≤ nearest m := (nearest_bounds hm).1
  · have hdropped : droppedDigits n = droppedDigits m := by rw [droppedDigits, heq, droppedDigits]
    rw [nearest, nearest, hdropped]
    exact Nat.mul_le_mul_right _ (divideEven_mono _ h)

/-- Natural numbers up to `2 ^ 53` are kept. -/
theorem nearest_eq_self {n : Nat} (h : n ≤ 2 ^ 53) : nearest n = n := by
  by_cases hlog : n.log2 ≤ 52
  · exact nearest_eq_self_of_log2_le hlog
  · have hn : n ≠ 0 := by
      rintro rfl
      exact hlog (by decide)
    have hle := (Nat.le_log2 hn).mp (Nat.lt_of_not_le hlog)
    have htop : n = 2 ^ 53 := Nat.le_antisymm h hle
    rw [htop]
    decide

/-! ## Places of integers -/

/-- Magnitudes are infinite from this power of two on. -/
def endExponent : Nat := 1024

/-- The least magnitude that is infinite. -/
def leastInfinite : Nat := 2 ^ endExponent

/-- One is this power of two in units of the smallest number. -/
def unitExponent : Nat := 1074

/-- The count of smallest numbers in one. -/
def unitsInOne : Nat := 2 ^ unitExponent

theorem nat_pow_split {k a b : Nat} (h : a + b = k) : Nat.pow 2 k = 2 ^ a * 2 ^ b := by
  rw [← h]
  exact Nat.pow_add 2 a b

theorem horizon_eq : horizon = leastInfinite * unitsInOne := by
  delta horizon leastInfinite unitsInOne
  apply nat_pow_split
  rfl

theorem magnitude_natCast (m e : Nat) : magnitude m (e : Int) = m * 2 ^ e * unitsInOne := by
  have hexponent : ((e : Int) - leastExponent).toNat = e + unitExponent := by
    rw [leastExponent, unitExponent]
    omega
  rw [magnitude, hexponent, Nat.pow_eq, Nat.pow_add, ← Nat.mul_assoc, unitsInOne]

theorem magnitude_neg (n : Nat) {d : Nat} (hd : d ≤ unitExponent) :
    magnitude (n * 2 ^ d) (-(d : Int)) = n * unitsInOne := by
  have hexponent : (-(d : Int) - leastExponent).toNat = unitExponent - d := by
    rw [leastExponent, unitExponent]
    omega
  rw [magnitude, hexponent, Nat.pow_eq, Nat.mul_assoc, ← Nat.pow_add, Nat.add_sub_cancel' hd,
    unitsInOne]

theorem mul_two_pow_le {m k e : Nat} (hm : m ≤ 2 ^ k) (he : k + e ≤ endExponent) :
    m * 2 ^ e ≤ leastInfinite := by
  calc
    m * 2 ^ e ≤ 2 ^ k * 2 ^ e := Nat.mul_le_mul_right _ hm
    _ = 2 ^ (k + e) := (Nat.pow_add 2 k e).symm
    _ ≤ leastInfinite := Nat.pow_le_pow_right (by decide) he

theorem le_mul_two_pow {m k e : Nat} (hm : 2 ^ k ≤ m) (he : endExponent ≤ k + e) :
    leastInfinite ≤ m * 2 ^ e := by
  calc
    leastInfinite ≤ 2 ^ (k + e) := Nat.pow_le_pow_right (by decide) he
    _ = 2 ^ k * 2 ^ e := Nat.pow_add 2 k e
    _ ≤ m * 2 ^ e := Nat.mul_le_mul_right _ hm

/-- A rounded multiplier stands where its product with the power of two stands, or at infinity when
the product is too large. -/
theorem place?_ofRounded (s : Bool) {m e : Nat} (hlow : 2 ^ 52 ≤ m) (hhigh : m ≤ 2 ^ 53) :
    (ofRounded s m (e : Int)).place? =
      some (signed s (min (m * 2 ^ e) leastInfinite * unitsInOne)) := by
  rw [ofRounded_eq]
  by_cases hm : m = Nat.pow 2 precision
  · have hcarry : m * 2 ^ e = Nat.pow 2 (precision - 1) * 2 ^ (e + 1) := by
      rw [hm, Nat.pow_succ 2 e, Nat.mul_comm (2 ^ e) 2, ← Nat.mul_assoc]
      rfl
    rw [if_pos hm]
    by_cases he : greatestExponent < (e : Int) + 1
    · have hlarge : leastInfinite ≤ m * 2 ^ e := by
        apply le_mul_two_pow (Nat.le_of_eq hm.symm)
        simp only [greatestExponent, precision, endExponent] at he ⊢
        omega
      rw [if_pos he, place?, horizon_eq, Nat.min_eq_right hlarge]
    · have hsmall : m * 2 ^ e ≤ leastInfinite := by
        apply mul_two_pow_le hhigh
        simp only [greatestExponent, endExponent] at he ⊢
        omega
      have hexponent : (e : Int) + 1 = ((e + 1 : Nat) : Int) := rfl
      rw [if_neg he, place?, hexponent, magnitude_natCast, ← hcarry, Nat.min_eq_left hsmall]
  · rw [if_neg hm]
    by_cases he : greatestExponent < (e : Int)
    · have hlarge : leastInfinite ≤ m * 2 ^ e := by
        apply le_mul_two_pow hlow
        simp only [greatestExponent, endExponent] at he ⊢
        omega
      rw [if_pos he, place?, horizon_eq, Nat.min_eq_right hlarge]
    · have hsmall : m * 2 ^ e ≤ leastInfinite := by
        apply mul_two_pow_le hhigh
        simp only [greatestExponent, endExponent] at he ⊢
        omega
      rw [if_neg he, place?, magnitude_natCast, Nat.min_eq_left hsmall]

/-- The magnitude of the place of the number nearest to a natural number: the place of the rounded
natural number, or of infinity. -/
def roundedMagnitude (n : Nat) : Nat := min (nearest n) leastInfinite * unitsInOne

theorem place?_ofFraction_one (s : Bool) (n : Nat) :
    (ofFraction s n 1).place? = some (signed s (roundedMagnitude n)) := by
  rw [roundedMagnitude]
  by_cases hn : n = 0
  · rw [hn, ofFraction, if_pos rfl, nearest_zero, Nat.zero_min, Nat.zero_mul, zero, place?,
      magnitude, Nat.zero_mul]
  rw [ofFraction, if_neg hn, exponentFor_one hn]
  by_cases hlog : 52 ≤ n.log2
  · obtain ⟨hlow, hhigh⟩ := divideEven_droppedDigits_bounds hn hlog
    have hexponent : (n.log2 : Int) - 52 = (droppedDigits n : Int) := by
      rw [droppedDigits]
      omega
    dsimp only
    rw [hexponent, scale_natCast, Nat.one_mul, place?_ofRounded s hlow hhigh, nearest]
  · obtain ⟨d, hd, hpos⟩ : ∃ d, n.log2 + d = 52 ∧ 0 < d := ⟨52 - n.log2, by omega, by omega⟩
    have hexponent : (n.log2 : Int) - 52 = -(d : Int) := by omega
    have hscale : scale n 1 (-(d : Int)) = (n * 2 ^ d, 1) := by
      rw [scale, if_neg (by omega), Int.neg_neg, Int.toNat_natCast, Nat.pow_eq]
    have hmultiplier : n * 2 ^ d < 2 ^ 53 := by
      calc
        n * 2 ^ d < 2 ^ (n.log2 + 1) * 2 ^ d :=
          Nat.mul_lt_mul_of_pos_right Nat.lt_log2_self (Nat.two_pow_pos d)
        _ = 2 ^ 53 := by rw [← Nat.pow_add, Nat.add_right_comm, hd]
    have hfull : n * 2 ^ d ≠ Nat.pow 2 precision := Nat.ne_of_lt hmultiplier
    have hfinite : ¬ greatestExponent < -(d : Int) := by
      rw [greatestExponent]
      omega
    have hsmall : n ≤ leastInfinite := by
      calc
        n ≤ n * 2 ^ d := Nat.le_mul_of_pos_right n (Nat.two_pow_pos d)
        _ ≤ 2 ^ 53 := Nat.le_of_lt hmultiplier
        _ ≤ leastInfinite := Nat.pow_le_pow_right (by decide) (by decide)
    dsimp only
    rw [hexponent, hscale, ofRounded_eq]
    dsimp only
    rw [divideEven_one, if_neg hfull, if_neg hfinite, place?,
      magnitude_neg n (by rw [unitExponent]; omega), nearest_eq_self_of_log2_le (by omega),
      Nat.min_eq_left hsmall]

theorem roundedMagnitude_mono {n m : Nat} (h : n ≤ m) : roundedMagnitude n ≤ roundedMagnitude m := by
  have hnearest := nearest_mono h
  apply Nat.mul_le_mul_right
  omega

theorem roundedMagnitude_zero : roundedMagnitude 0 = 0 := by
  rw [roundedMagnitude, nearest_zero, Nat.zero_min, Nat.zero_mul]

theorem roundedMagnitude_eq {n : Nat} (h : n ≤ 2 ^ 53) : roundedMagnitude n = n * unitsInOne := by
  have hfinite : n ≤ leastInfinite :=
    Nat.le_trans h (Nat.pow_le_pow_right (by decide) (by decide))
  rw [roundedMagnitude, nearest_eq_self h, Nat.min_eq_left hfinite]

/-- The place of the number nearest to an integer. -/
def roundedPlace (n : Int) : Int := signed (decide (n < 0)) (roundedMagnitude n.natAbs)

theorem place?_ofInt (n : Int) : (ofInt n).place? = some (roundedPlace n) :=
  place?_ofFraction_one _ _

/-- The integers that are kept are far from being too large. -/
theorem lt_leastOverflow {n : Nat} (h : n ≤ 2 ^ 53) : n < leastOverflow := by
  have hbound : 2 ^ 53 < leastOverflow := by decide +kernel
  exact Nat.lt_of_le_of_lt h hbound

/-- An integer that is not too large is read as the number nearest to it. -/
theorem ofInt?_eq_some {n : Int} (h : n.natAbs < leastOverflow) : ofInt? n = some (ofInt n) := by
  cases hx : ofInt n with
  | finite s m e => simp only [ofInt?, hx]
  | _ =>
      have hnone : ofInt? n = none := by simp only [ofInt?, hx]
      exact absurd ((ofInt?_eq_none_iff n).mp hnone) (Nat.not_le.mpr h)

/-- Rounding keeps the order of integers. -/
theorem roundedPlace_mono {n m : Int} (h : n ≤ m) : roundedPlace n ≤ roundedPlace m := by
  simp only [roundedPlace, signed, decide_eq_true_eq]
  by_cases hm : m < 0
  · have hn : n < 0 := by omega
    have hmagnitude : roundedMagnitude m.natAbs ≤ roundedMagnitude n.natAbs :=
      roundedMagnitude_mono (by omega)
    rw [if_pos hn, if_pos hm]
    omega
  · rw [if_neg hm]
    by_cases hn : n < 0
    · rw [if_pos hn]
      omega
    · have hmagnitude : roundedMagnitude n.natAbs ≤ roundedMagnitude m.natAbs :=
        roundedMagnitude_mono (by omega)
      rw [if_neg hn]
      omega

/-- Integers of magnitude at most `2 ^ 53` stand in their own places. -/
theorem roundedPlace_eq {n : Int} (h : n.natAbs ≤ 2 ^ 53) : roundedPlace n = n * unitsInOne := by
  rw [roundedPlace, roundedMagnitude_eq h]
  simp only [signed, decide_eq_true_eq, Int.natCast_mul]
  split
  · rename_i hn
    rw [Int.ofNat_natAbs_of_nonpos (Int.le_of_lt hn), Int.neg_mul, Int.neg_neg]
  · rename_i hn
    rw [Int.natAbs_of_nonneg (Int.not_lt.mp hn)]

theorem mul_unitsInOne_lt {n m : Int} (h : n < m) : n * unitsInOne < m * unitsInOne := by
  have hpos : (0 : Int) < unitsInOne := Int.natCast_pos.mpr (Nat.two_pow_pos unitExponent)
  exact Int.mul_lt_mul_of_pos_right h hpos

end Rollout.Binary64
