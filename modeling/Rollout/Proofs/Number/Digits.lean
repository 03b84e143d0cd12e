import Mathlib.Algebra.Group.Nat.Defs
import Rollout.Text.Digit

/-!
# Decimal numerals of natural numbers

The numeral of a natural number consists of digits that spell the number. It begins with a zero
only if the number is zero, and its length says below which power of ten the number is.
-/

namespace Rollout.Text

theorem natDigits_zero : natDigits 0 = ['0'] := Nat.toDigits_zero 10

theorem natDigits_ne_nil (n : Nat) : natDigits n ≠ [] := Nat.toDigits_ne_nil

theorem isAsciiDigit_of_mem_natDigits {n : Nat} {c : Char} (h : c ∈ natDigits n) :
    isAsciiDigit c = true :=
  Nat.isDigit_of_mem_toDigits (by decide) (by decide) h

theorem digitsToNat_natDigits (n : Nat) : digitsToNat (natDigits n) = n :=
  Nat.ofDigitChars_ten_toDigits

theorem length_natDigits_le_iff {n k : Nat} (h : 0 < k) :
    (natDigits n).length ≤ k ↔ n < 10 ^ k :=
  Nat.length_toDigits_le_iff (by decide) h

theorem digitChar_ne_zero : ∀ d < 10, 0 < d → Nat.digitChar d ≠ '0' := by decide

/-- Only the numeral of zero begins with a zero. -/
theorem natDigits_eq_cons {n : Nat} (h : n ≠ 0) : ∃ c ds, natDigits n = c :: ds ∧ c ≠ '0' := by
  induction n using Nat.strongRecOn with
  | ind n ih =>
      rw [natDigits, Nat.toDigits_eq_if (by decide)]
      split
      · exact ⟨_, [], rfl, digitChar_ne_zero n ‹_› (Nat.pos_of_ne_zero h)⟩
      · obtain ⟨c, ds, hds, hc⟩ := ih (n / 10) (by omega) (by omega)
        rw [natDigits] at hds
        exact ⟨c, ds ++ [Nat.digitChar (n % 10)], by rw [hds, List.cons_append], hc⟩

theorem digitsToNat_of_zeros {ds : List Char} (h : ∀ c ∈ ds, c = '0') : digitsToNat ds = 0 := by
  rw [List.eq_replicate_of_mem h]
  exact Nat.ofDigitChars_replicate_zero.trans (Nat.mul_zero _)

theorem digitsToNat_append (ds es : List Char) :
    digitsToNat (ds ++ es) = 10 ^ es.length * digitsToNat ds + digitsToNat es := by
  rw [digitsToNat, List.foldl_append]
  exact Nat.ofDigitChars_eq_ofDigitChars_zero

theorem digitsToNat_lt {ds : List Char} (h : ∀ c ∈ ds, isAsciiDigit c = true) :
    digitsToNat ds < 10 ^ ds.length := by
  induction ds with
  | nil => decide
  | cons c ds ih =>
      rw [List.forall_mem_cons] at h
      have htail := ih h.2
      have hc : digitsToNat [c] ≤ 9 := by
        have := h.1
        simp [isAsciiDigit, digitsToNat] at this ⊢
        omega
      have happ := digitsToNat_append [c] ds
      rw [List.singleton_append] at happ
      have hmul : 10 ^ ds.length * digitsToNat [c] ≤ 10 ^ ds.length * 9 := Nat.mul_le_mul_left _ hc
      rw [happ, List.length_cons, Nat.pow_succ]
      omega

end Rollout.Text
