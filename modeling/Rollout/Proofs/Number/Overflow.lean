import Mathlib.Algebra.Group.Nat.Defs
import Rollout.Number.Binary64

/-!
# Integers beyond the finite numbers

An integer is rounded to a multiplier of 53 binary digits. It is too large for a finite number
from half a unit below `2 ^ 1024` on: the multiplier below that tie is odd, so the tie goes up.
-/

namespace Rollout.Binary64

/-- A quotient is rounded down when the remainder is at most half, and up when it is at least
half; a remainder of exactly half makes the result even. -/
theorem divideEven_cases (num den : Nat) :
    (divideEven num den = num / den ∧ 2 * (num % den) ≤ den ∧
        (2 * (num % den) = den → num / den % 2 = 0)) ∨
      (divideEven num den = num / den + 1 ∧ den ≤ 2 * (num % den) ∧
        (2 * (num % den) = den → num / den % 2 = 1)) := by
  unfold divideEven
  dsimp only
  split
  · omega
  split
  · omega
  split <;> omega

/-- A quotient is rounded up to an even bound once it is within half a unit of the bound. -/
theorem le_divideEven_iff {num den bound : Nat} (hden : 0 < den) (hpos : 0 < bound)
    (heven : bound % 2 = 0) : bound ≤ divideEven num den ↔ (2 * bound - 1) * den ≤ 2 * num := by
  have hnum : num / den * den + num % den = num := Nat.div_add_mod' num den
  have hrem : num % den < den := Nat.mod_lt num hden
  have hcases := divideEven_cases num den
  generalize num / den = q at *
  generalize num % den = r at *
  rcases Nat.lt_trichotomy bound (q + 1) with hlt | heq | hgt
  · have hle : (2 * bound - 1) * den ≤ 2 * q * den := Nat.mul_le_mul_right den (by omega)
    have hassoc : 2 * q * den = 2 * (q * den) := Nat.mul_assoc 2 q den
    exact iff_of_true (by omega) (by omega)
  · have hmul : (2 * bound - 1) * den = 2 * (q * den) + den := by
      have hbound : 2 * bound - 1 = 2 * q + 1 := by omega
      rw [hbound, Nat.add_mul, Nat.mul_assoc, Nat.one_mul]
    omega
  · have hle : (2 * q + 3) * den ≤ (2 * bound - 1) * den := Nat.mul_le_mul_right den (by omega)
    have hmul : (2 * q + 3) * den = 2 * (q * den) + 3 * den := by
      rw [Nat.add_mul, Nat.mul_assoc]
    exact iff_of_false (by omega) (by omega)

theorem divideEven_le {num den bound : Nat} (hden : 0 < den) (h : num ≤ bound * den) :
    divideEven num den ≤ bound := by
  have hnum : num / den * den + num % den = num := Nat.div_add_mod' num den
  have hcases := divideEven_cases num den
  have hquot : num / den ≤ bound := Nat.div_le_of_le_mul (Nat.mul_comm bound den ▸ h)
  rcases Nat.lt_or_eq_of_le hquot with hlt | heq
  · omega
  · rw [heq] at hnum hcases
    omega

theorem scale_natCast (num den k : Nat) : scale num den (k : Int) = (num, den * 2 ^ k) := by
  rw [scale, if_pos (Int.natCast_nonneg k), Int.toNat_natCast, Nat.pow_eq]

/-- A natural number has the same binary order as every fraction of its value. -/
theorem binaryOrder_mul {n c : Nat} (hn : n ≠ 0) (hc : 0 < c) :
    binaryOrder (n * c) c = (n.log2 : Int) := by
  have hc' : c ≠ 0 := Nat.ne_of_gt hc
  have hnc : n * c ≠ 0 := Nat.mul_ne_zero hn hc'
  have hlow : n.log2 + c.log2 ≤ (n * c).log2 := by
    rw [Nat.le_log2 hnc, Nat.pow_add]
    exact Nat.mul_le_mul (Nat.log2_self_le hn) (Nat.log2_self_le hc')
  have hhigh : (n * c).log2 < n.log2 + 1 + (c.log2 + 1) := by
    rw [Nat.log2_lt hnc, Nat.pow_add]
    exact Nat.mul_lt_mul'' Nat.lt_log2_self Nat.lt_log2_self
  have hcompare (k : Nat) : n * c < c * 2 ^ k ↔ n < 2 ^ k := by
    rw [Nat.mul_comm c, Nat.mul_lt_mul_right hc]
  have horders : (n * c).log2 = n.log2 + c.log2 ∨ (n * c).log2 = n.log2 + 1 + c.log2 := by omega
  rcases horders with hlog | hlog
  · have horder : ((n * c).log2 : Int) - (c.log2 : Int) = (n.log2 : Int) := by omega
    have hself : ¬ n < 2 ^ n.log2 := Nat.not_lt.mpr (Nat.log2_self_le hn)
    simp only [binaryOrder, horder, scale_natCast, hcompare, if_neg hself]
  · have horder : ((n * c).log2 : Int) - (c.log2 : Int) = ((n.log2 + 1 : Nat) : Int) := by omega
    have hself : n < 2 ^ (n.log2 + 1) := Nat.lt_log2_self
    simp only [binaryOrder, horder, scale_natCast, hcompare, if_pos hself]
    omega

theorem exponentFor_mul {n c : Nat} (hn : n ≠ 0) (hc : 0 < c) :
    exponentFor (n * c) c = (n.log2 : Int) - 52 := by
  rw [exponentFor, binaryOrder_mul hn hc]
  simp only [precision, leastExponent]
  omega

theorem exponentFor_one {n : Nat} (hn : n ≠ 0) : exponentFor n 1 = (n.log2 : Int) - 52 := by
  have h := exponentFor_mul hn Nat.one_pos
  rwa [Nat.mul_one] at h

theorem ofRounded_eq (s : Bool) (m : Nat) (e : Int) :
    ofRounded s m e =
      if m = Nat.pow 2 precision then
        (if greatestExponent < e + 1 then .infinite s
          else .finite s (Nat.pow 2 (precision - 1)) (e + 1))
      else if greatestExponent < e then .infinite s else .finite s m e := by
  by_cases hm : m = Nat.pow 2 precision
  · simp only [ofRounded, if_pos hm]
  · simp only [ofRounded, if_neg hm]

theorem ofRounded_finite_iff (s : Bool) (m : Nat) (e : Int) :
    (∃ s' m' e', ofRounded s m e = .finite s' m' e') ↔
      e < greatestExponent ∨ (e = greatestExponent ∧ m ≠ Nat.pow 2 precision) := by
  rw [ofRounded_eq]
  generalize Nat.pow 2 precision = bound
  split
  · split
    · simp
      omega
    · simp
      omega
  · split
    · simp
      omega
    · simp
      omega

theorem two_pow_split (k a b : Nat) (h : k = a + b) : 2 ^ k = 2 ^ a * 2 ^ b := by
  rw [h, Nat.pow_add]

theorem two_pow_double (j : Nat) : 1 * 2 ^ (j + 1) = 2 * 2 ^ j := by
  rw [Nat.one_mul, Nat.pow_succ, Nat.mul_comm]

/-- A number of units that is below `2 ^ 54` is rounded to a number of double units that is below
`2 ^ 53` when it lies below the tie. -/
theorem divideEven_ne_iff {n unit : Nat} (hunit : 0 < unit) (hlt : n < 2 ^ 54 * unit) :
    divideEven n (2 * unit) ≠ Nat.pow 2 precision ↔ n < 2 ^ 54 * unit - unit := by
  have hpos : 0 < 2 * unit := by omega
  have hle : divideEven n (2 * unit) ≤ Nat.pow 2 precision := by
    apply divideEven_le hpos
    change n ≤ 2 ^ 53 * (2 * unit)
    omega
  have hge : Nat.pow 2 precision ≤ divideEven n (2 * unit) ↔
      (2 * Nat.pow 2 precision - 1) * (2 * unit) ≤ 2 * n :=
    le_divideEven_iff hpos (by decide) (by decide)
  change (_ ↔ (2 * 2 ^ 53 - 1) * (2 * unit) ≤ 2 * n) at hge
  omega

theorem ofFraction_one_finite_iff (s : Bool) (n : Nat) {k j : Nat} (hk : k = j + 54)
    (hj : greatestExponent = ((j + 1 : Nat) : Int)) :
    (∃ s' m e, ofFraction s n 1 = .finite s' m e) ↔ n < 2 ^ k - 2 ^ j := by
  have hunit := Nat.two_pow_pos j
  have htop := two_pow_split k 54 j (by omega)
  have hdouble := two_pow_double j
  by_cases hn : n = 0
  · subst hn
    refine iff_of_true ⟨s, 0, leastExponent, rfl⟩ ?_
    omega
  simp only [ofFraction, if_neg hn, exponentFor_one hn, ofRounded_finite_iff]
  rcases Nat.lt_trichotomy n.log2 (j + 53) with hlog | hlog | hlog
  · have hlt := (Nat.log2_lt hn).mp hlog
    have hlow := two_pow_split (j + 53) 53 j (by omega)
    exact iff_of_true (.inl (by omega)) (by omega)
  · have hlt : n < 2 ^ k := (Nat.log2_lt hn).mp (by omega)
    have hexp : ((j + 53 : Nat) : Int) - 52 = ((j + 1 : Nat) : Int) := by omega
    rw [htop] at hlt ⊢
    rw [hlog, hexp, scale_natCast, hdouble, hj, ← divideEven_ne_iff hunit hlt]
    simp only [Int.lt_irrefl, true_and, false_or]
  · have hle := (Nat.le_log2 hn).mp hlog
    have hhigh := two_pow_split (j + 53 + 1) 54 j (by omega)
    exact iff_of_false (by omega) (by omega)

/-- The least magnitude of an integer that is too large for a finite number. -/
def leastOverflow : Nat := 2 ^ 1024 - 2 ^ 970

/-- An integer is too large for a finite number from the least overflow on. -/
theorem ofInt?_eq_none_iff (n : Int) : ofInt? n = none ↔ leastOverflow ≤ n.natAbs := by
  have h := ofFraction_one_finite_iff (n < 0) n.natAbs (k := 1024) (j := 970) rfl rfl
  rw [← Nat.not_lt, leastOverflow, ← h, ofInt?, ofInt]
  split
  · rename_i s m e hfinite
    simp [hfinite]
  · rename_i hother
    simp only [true_iff]
    rintro ⟨s, m, e, hfinite⟩
    exact hother s m e hfinite

end Rollout.Binary64
