import Rollout.Proofs.Number.Rounding
import Rollout.Proofs.Number.Spelling

/-!
# Integers that become floating-point numbers and come back

An integer becomes the number nearest to it, or the infinity of its sign when it is too large. The
way back cuts off a fraction, and an integer of magnitude at most `2 ^ 53` comes back as it was.
Rounding depends on the value of a fraction alone, so it makes no difference whether an integer is
given as such or as a decimal with zeros behind the point.
-/

namespace Rollout

namespace Binary64

/-! ## Numbers that are equal -/

/-- Two floating-point numbers are the same number. Both zeros are, and what is not a number is the
same as nothing. -/
def SameNumber (x y : Binary64) : Prop :=
  x.isNan = false ∧ (x = y ∨ (x.isZero = true ∧ y.isZero = true))

instance (x y : Binary64) : Decidable (SameNumber x y) := inferInstanceAs (Decidable (_ ∧ _))

theorem SameNumber.refl {x : Binary64} (h : x.isNan = false) : x.SameNumber x := ⟨h, .inl rfl⟩

theorem SameNumber.trans {x y z : Binary64} (h : x.SameNumber y) (h' : y.SameNumber z) :
    x.SameNumber z := by
  obtain ⟨hnan, rfl | ⟨hx, hy⟩⟩ := h
  · exact h'
  · obtain ⟨_, rfl | ⟨_, hz⟩⟩ := h'
    · exact ⟨hnan, .inr ⟨hx, hy⟩⟩
    · exact ⟨hnan, .inr ⟨hx, hz⟩⟩

theorem SameNumber.symm {x y : Binary64} (h : x.SameNumber y) : y.SameNumber x := by
  obtain ⟨hnan, rfl | ⟨hx, hy⟩⟩ := h
  · exact .refl hnan
  · refine ⟨?_, .inr ⟨hy, hx⟩⟩
    cases y with
    | nan => cases hy
    | _ => rfl

/-- Every zero becomes the positive one, and other numbers stay as they are. -/
def positiveZero (x : Binary64) : Binary64 := if x.isZero then .zero false else x

theorem sameNumber_positiveZero {x : Binary64} (h : x.isNan = false) :
    x.positiveZero.SameNumber x := by
  rw [positiveZero]
  split
  · rename_i hzero
    exact ⟨rfl, .inr ⟨rfl, hzero⟩⟩
  · exact .refl h

theorem signed_eq_zero_iff (s : Bool) (n : Nat) : signed s n = 0 ↔ n = 0 := by
  cases s <;> simp [signed]

theorem isZero_iff_place? (x : Binary64) : x.isZero = true ↔ x.place? = some 0 := by
  cases x with
  | nan => exact iff_of_false nofun nofun
  | infinite s =>
      refine iff_of_false nofun ?_
      rw [place?, Option.some.injEq, signed_eq_zero_iff, horizon_eq, Nat.mul_eq_zero, not_or]
      exact ⟨Nat.ne_of_gt (Nat.two_pow_pos _), Nat.ne_of_gt (Nat.two_pow_pos _)⟩
  | finite s m e =>
      have hpos : 0 < Nat.pow 2 (e - leastExponent).toNat := Nat.two_pow_pos _
      rw [isZero, beq_iff_eq, place?, Option.some.injEq, signed_eq_zero_iff, magnitude,
        Nat.mul_eq_zero, or_iff_left (Nat.ne_of_gt hpos)]

theorem place?_positiveZero (x : Binary64) : x.positiveZero.place? = x.place? := by
  rw [positiveZero]
  split
  · rename_i hzero
    rw [(isZero_iff_place? x).mp hzero]
    exact (isZero_iff_place? _).mp rfl
  · rfl

/-! ## Results of rounding -/

theorem ofFraction_cases (s : Bool) (num den : Nat) :
    ofFraction s num den = .infinite s ∨
      ∃ m e, leastExponent ≤ e ∧ ofFraction s num den = .finite s m e := by
  rw [ofFraction]
  split
  · exact .inr ⟨0, leastExponent, Int.le_refl _, rfl⟩
  · have hexponent : leastExponent ≤ exponentFor num den := Int.le_max_right _ _
    dsimp only
    rw [ofRounded_eq]
    split
    · split
      · exact .inl rfl
      · exact .inr ⟨_, _, Int.le_add_one hexponent, rfl⟩
    · split
      · exact .inl rfl
      · exact .inr ⟨_, _, hexponent, rfl⟩

theorem isNan_ofFraction (s : Bool) (num den : Nat) : (ofFraction s num den).isNan = false := by
  rcases ofFraction_cases s num den with h | ⟨m, e, _, h⟩
  · rw [h]
    rfl
  · rw [h]
    rfl

theorem roundedMagnitude_eq_zero_iff (n : Nat) : roundedMagnitude n = 0 ↔ n = 0 := by
  by_cases hn : n = 0
  · rw [hn]
    exact iff_of_true roundedMagnitude_zero rfl
  · have hnearest : 0 < nearest n := Nat.lt_of_lt_of_le (Nat.two_pow_pos _) (nearest_bounds hn).1
    have hinfinite : 0 < leastInfinite := Nat.two_pow_pos _
    have hunits : 0 < unitsInOne := Nat.two_pow_pos _
    rw [roundedMagnitude, Nat.mul_eq_zero]
    omega

/-- Only zero is rounded to zero. -/
theorem isZero_ofFraction_one (s : Bool) (n : Nat) :
    (ofFraction s n 1).isZero = true ↔ n = 0 := by
  rw [isZero_iff_place?, place?_ofFraction_one, Option.some.injEq,
    signed_eq_zero_iff, roundedMagnitude_eq_zero_iff]

/-- An integer is rounded like its magnitude, with the sign put in front; zero gets none. -/
theorem positiveZero_ofFraction_one (s : Bool) (n : Nat) :
    (ofFraction s n 1).positiveZero = ofInt (signed s n) := by
  by_cases hn : n = 0
  · subst hn
    rw [positiveZero, if_pos ((isZero_ofFraction_one s 0).mpr rfl)]
    cases s <;> rfl
  · rw [positiveZero, if_neg (mt (isZero_ofFraction_one s n).mp hn), ofInt]
    cases s with
    | false =>
        have hsign : ¬ (signed false n < 0) := Int.not_lt.mpr (Int.natCast_nonneg n)
        rw [decide_eq_false hsign]
        rfl
    | true =>
        have hsign : signed true n < 0 := by
          change -(n : Int) < 0
          omega
        have habs : (signed true n).natAbs = n := by simp [signed]
        rw [decide_eq_true hsign, habs]

/-- It does not matter where the sign of an integer comes from; zero stands in one place. -/
theorem place?_ofFraction_signed (s : Bool) (n : Nat) :
    (ofFraction s n 1).place? = some (roundedPlace (signed s n)) := by
  rw [← place?_positiveZero, positiveZero_ofFraction_one, place?_ofInt]

/-- The number nearest to an integer, or the infinity of its sign when the integer is too large. -/
def rounded (n : Int) : Binary64 := (ofInt? n).getD (.infinite (decide (n < 0)))

theorem ofInt_eq_rounded (n : Int) : ofInt n = rounded n := by
  rw [rounded, ofInt?]
  rcases ofFraction_cases (decide (n < 0)) n.natAbs 1 with h | ⟨m, e, _, h⟩
  · simp only [ofInt, h, Option.getD_none]
  · simp only [ofInt, h, Option.getD_some]

/-! ## The way back -/

theorem magnitude_inj {m n : Nat} {e : Int} (h : magnitude m e = magnitude n e) : m = n :=
  Nat.eq_of_mul_eq_mul_right (Nat.two_pow_pos _) h

/-- The integer part of a finite number that stands in the place of an integer is this integer. -/
theorem truncate?_finite {s : Bool} {m a : Nat} {e : Int} (he : leastExponent ≤ e)
    (h : magnitude m e = a * unitsInOne) : (finite s m e).truncate? = some (signed s a) := by
  have hquot : (scale m 1 (-e)).1 / (scale m 1 (-e)).2 = a := by
    rcases Int.le_total 0 e with hnonneg | hneg
    · obtain ⟨k, rfl⟩ := Int.eq_ofNat_of_zero_le hnonneg
      rw [magnitude_natCast] at h
      have ha : m * 2 ^ k = a := Nat.eq_of_mul_eq_mul_right (Nat.two_pow_pos _) h
      rw [scale]
      split
      · have hk : k = 0 := by omega
        subst hk
        simpa using ha
      · simpa using ha
    · obtain ⟨d, hd⟩ := Int.eq_ofNat_of_zero_le (Int.neg_nonneg_of_nonpos hneg)
      obtain rfl : e = -(d : Int) := by omega
      have hsmall : d ≤ unitExponent := by
        rw [unitExponent]
        simp only [leastExponent] at he
        omega
      have hm : m = a * 2 ^ d := magnitude_inj (h.trans (magnitude_neg a hsmall).symm)
      rw [hd, scale_natCast, hm, Nat.one_mul]
      exact Nat.mul_div_cancel a (Nat.two_pow_pos d)
  rw [truncate?, ← hquot]

/-- An integer of magnitude at most `2 ^ 53` comes back from the number that it becomes. -/
theorem truncate?_ofInt {n : Int} (h : n.natAbs ≤ 2 ^ 53) : (ofInt n).truncate? = some n := by
  have hplace : (ofInt n).place? = some (signed (decide (n < 0)) (n.natAbs * unitsInOne)) := by
    rw [ofInt, place?_ofFraction_one, roundedMagnitude_eq h]
  have hfinite : ofInt? n ≠ none := by
    rw [ofInt?_eq_some (lt_leastOverflow h)]
    exact Option.some_ne_none _
  rcases ofFraction_cases (decide (n < 0)) n.natAbs 1 with hx | ⟨m, e, he, hx⟩
  · exact absurd (by simp only [ofInt?, ofInt, hx]) hfinite
  · rw [ofInt, hx] at hplace ⊢
    have hmagnitude : magnitude m e = n.natAbs * unitsInOne := by
      rw [place?, Option.some.injEq] at hplace
      revert hplace
      cases decide (n < 0) <;> simp only [signed] <;> omega
    rw [truncate?_finite he hmagnitude, signed_natAbs]

/-! ## Fractions of the same value -/

section Scaled

variable {c : Nat}

theorem divideEven_mul_mul (hc : 0 < c) (num den : Nat) :
    divideEven (num * c) (den * c) = divideEven num den := by
  have htwice : 2 * (num * c % (den * c)) = 2 * (num % den) * c := by
    rw [Nat.mul_mod_mul_right, Nat.mul_assoc]
  have hlt (a b : Nat) : a * c < b * c ↔ a < b := Nat.mul_lt_mul_right hc
  simp only [divideEven, Nat.mul_div_mul_right _ _ hc, htwice, hlt]

theorem scale_mul_mul (num den : Nat) (e : Int) :
    scale (num * c) (den * c) e = ((scale num den e).1 * c, (scale num den e).2 * c) := by
  rw [scale, scale]
  split
  · rw [Nat.mul_right_comm]
  · rw [Nat.mul_right_comm]

/-- A fraction whose value is a natural number is rounded like this number. -/
theorem ofFraction_mul (hc : 0 < c) (s : Bool) (n : Nat) :
    ofFraction s (n * c) c = ofFraction s n 1 := by
  by_cases hn : n = 0
  · rw [hn, Nat.zero_mul, ofFraction, ofFraction, if_pos rfl, if_pos rfl]
  · have hnc : n * c ≠ 0 := Nat.mul_ne_zero hn (Nat.ne_of_gt hc)
    have hexponent : exponentFor (n * c) c = exponentFor n 1 := by
      rw [exponentFor_mul hn hc, exponentFor_one hn]
    have hscale := @scale_mul_mul c n 1 (exponentFor n 1)
    rw [Nat.one_mul] at hscale
    simp only [ofFraction, if_neg hn, if_neg hnc, hexponent, hscale, divideEven_mul_mul hc]

/-- A decimal with one zero behind the point is the integer in front of it. -/
theorem ofDecimal_tenth (s : Bool) (n : Nat) : ofDecimal s (10 * n) (-1) = ofFraction s n 1 := by
  by_cases hn : n = 0
  · rw [hn, ofDecimal, if_pos rfl, ofFraction, if_pos rfl]
  · have hdigits : 10 * n ≠ 0 := by omega
    have hnear : ¬ ((-1 : Int) + ((10 * n).log2 : Int) < -1500) := by omega
    have hten : Nat.pow 10 (-(-1 : Int)).toNat = 10 := rfl
    rw [ofDecimal, if_neg hdigits, if_neg (by decide), if_neg hnear, if_neg (by decide), hten,
      Nat.mul_comm, ofFraction_mul (by decide)]

end Scaled

end Binary64

namespace Spelling

open Text

theorem value_ofWhole (n : Int) : (ofWhole n).value = Binary64.ofInt n := by
  have hdigits : digitsToNat ((ofWhole n).whole ++ (ofWhole n).fraction) = 10 * n.natAbs := by
    rw [digitsToNat_append, ofWhole, digitsToNat_natDigits]
    rfl
  have hscale : scale (ofWhole n).exponent - ((ofWhole n).fraction.length : Int) = -1 := rfl
  rw [value, hdigits, hscale, Binary64.ofDecimal_tenth, ofWhole, Binary64.ofInt]

end Spelling

end Rollout
