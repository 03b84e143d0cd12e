import Mathlib.Data.List.Forall2
import Rollout.Text.LetterCase

/-!
# Texts that differ in the case of letters

Two texts are variants of each other when they differ in nothing but the case of the letters `A`
to `Z`. A plain word is the lower-case form of its variants and of nothing else. Of the characters
beyond the first 128, only the Kelvin sign has a plain lower-case form, and this is a `k`; that of
the capital I with a dot begins with a plain letter but goes on with a mark.
-/

namespace Rollout.Text

/-- A letter `A` to `Z` and the letter `a` to `z` of the same name. -/
def IsCapitalOf (c d : Char) : Prop := 97 ≤ d.toNat ∧ d.toNat ≤ 122 ∧ c.toNat + 32 = d.toNat

instance (c d : Char) : Decidable (IsCapitalOf c d) := inferInstanceAs (Decidable (_ ∧ _))

/-- Two characters are the same up to the case of the letters `A` to `Z`. -/
def SameLetter (c d : Char) : Prop := c = d ∨ IsCapitalOf c d ∨ IsCapitalOf d c

instance (c d : Char) : Decidable (SameLetter c d) := inferInstanceAs (Decidable (_ ∨ _))

/-- Two texts are the same up to the case of the letters `A` to `Z`. -/
def IsCaseVariant (s t : List Char) : Prop := List.Forall₂ SameLetter s t

instance (s t : List Char) : Decidable (IsCaseVariant s t) :=
  inferInstanceAs (Decidable (List.Forall₂ SameLetter s t))

/-- The characters of plain words: they are among the first 128 and neither capitals nor a `k`. -/
def IsPlainLower (d : Char) : Prop :=
  (0 < d.toNat ∧ d.toNat < 128) ∧ ¬ (65 ≤ d.toNat ∧ d.toNat ≤ 90) ∧ d.toNat ≠ 107

instance (d : Char) : Decidable (IsPlainLower d) := inferInstanceAs (Decidable (_ ∧ _))

/-- A word of plain characters. -/
def IsPlainWord (w : List Char) : Prop := ∀ d ∈ w, IsPlainLower d

instance (w : List Char) : Decidable (IsPlainWord w) := List.decidableBAll IsPlainLower w

/-! ## Lower-case forms of code points -/

/-- The run of the letters `A` to `Z`. -/
def capitals : CaseRun := ⟨65, 90, 1, 32⟩

/-- Of the runs beyond the first 128 code points, only those of the capital I with a dot and of the
Kelvin sign lead back to them. -/
theorem lowerRuns_cases :
    ∀ r ∈ lowerRuns, r = capitals ∨ (128 ≤ r.first ∧
      (128 ≤ (r.first : Int) + r.shift ∨ (r.first = 304 ∧ r.last = 304) ∨
        (r.first = 8490 ∧ r.last = 8490 ∧ r.shift = -8383))) := by
  decide +kernel

theorem covers_bounds {r : CaseRun} {c : Nat} (h : r.covers c = true) :
    r.first ≤ c ∧ c ≤ r.last := by
  simp only [CaseRun.covers, Bool.and_eq_true, decide_eq_true_eq] at h
  exact h.1

theorem capitals_covers_iff (c : Nat) : capitals.covers c = true ↔ 65 ≤ c ∧ c ≤ 90 := by
  change (decide (65 ≤ c) && decide (c ≤ 90) && (c - 65) % 1 == 0) = true ↔ _
  simp [Nat.mod_one]

theorem lowerCode_of_lt {c : Nat} (h : c < 128) : lowerCode c = asciiLowerCode c := by
  have hascii : asciiLowerCode c = if 65 ≤ c ∧ c ≤ 90 then c + 32 else c := by
    simp [asciiLowerCode]
  rw [hascii, lowerCode, shiftBy]
  cases hfind : lowerRuns.find? (·.covers c) with
  | none =>
      have hnone := List.find?_eq_none.mp hfind capitals (by decide)
      rw [capitals_covers_iff] at hnone
      rw [if_neg hnone]
  | some r =>
      have hcovers := List.find?_some hfind
      have hbounds := covers_bounds hcovers
      rcases lowerRuns_cases r (List.mem_of_find?_eq_some hfind) with rfl | ⟨hfirst, _⟩
      · rw [if_pos ((capitals_covers_iff c).mp hcovers)]
        rfl
      · omega

theorem lowerCode_of_ge {c : Nat} (h : 128 ≤ c) :
    128 ≤ lowerCode c ∨ c = 304 ∨ lowerCode c = 107 := by
  rw [lowerCode, shiftBy]
  cases hfind : lowerRuns.find? (·.covers c) with
  | none => exact .inl h
  | some r =>
      have hcovers := List.find?_some hfind
      have hbounds := covers_bounds hcovers
      dsimp only
      rcases lowerRuns_cases r (List.mem_of_find?_eq_some hfind) with
        rfl | ⟨_, hbeyond | hdot | hkelvin⟩
      · have := (capitals_covers_iff c).mp hcovers
        omega
      · left
        omega
      · right
        left
        omega
      · right
        right
        omega

/-! ## Lower-case forms of characters -/

variable {c d : Char}

theorem toNat_ofNat (n : Nat) : (Char.ofNat n).toNat = if n.isValidChar then n else 0 := by
  by_cases h : n.isValidChar
  · rw [Char.ofNat, dif_pos h, if_pos h]
    rfl
  · rw [Char.ofNat, dif_neg h, if_neg h]
    rfl

theorem not_isPlainLower_ofNat {n : Nat} (h : 128 ≤ n) : ¬ IsPlainLower (Char.ofNat n) := by
  rintro ⟨⟨hpos, hlt⟩, _⟩
  rw [toNat_ofNat] at hpos hlt
  split at hpos
  · rename_i hvalid
    rw [if_pos hvalid] at hlt
    omega
  · omega

theorem lowerChar_of_lt (before after : List Char) (h : c.toNat < 128) :
    lowerChar before c after = [Char.ofNat (asciiLowerCode c.toNat)] := by
  have hsigma : ¬ c.toNat = capitalSigma := by
    rw [capitalSigma]
    omega
  rw [lowerChar, if_neg (by omega), if_neg hsigma, lowerCode_of_lt h]

/-- The lower-case form of a character that is not among the first 128 is not part of a plain
word. -/
theorem exists_not_isPlainLower (before after : List Char) (h : 128 ≤ c.toNat) :
    ∃ d ∈ lowerChar before c after, ¬ IsPlainLower d := by
  unfold lowerChar
  split
  · exact ⟨Char.ofNat 0x307, by simp, not_isPlainLower_ofNat (by decide)⟩
  rename_i hdot
  split
  · split
    · exact ⟨_, List.mem_singleton_self _, not_isPlainLower_ofNat (by decide)⟩
    · exact ⟨_, List.mem_singleton_self _, not_isPlainLower_ofNat (by decide)⟩
  · refine ⟨_, List.mem_singleton_self _, ?_⟩
    rcases lowerCode_of_ge h with hbeyond | hdot' | hk
    · exact not_isPlainLower_ofNat hbeyond
    · exact absurd hdot' hdot
    · rw [hk]
      decide

theorem SameLetter.lt_of_isPlainLower (h : SameLetter c d) (hd : IsPlainLower d) :
    c.toNat < 128 := by
  have hlt := hd.1.2
  rcases h with rfl | h | h
  · exact hlt
  · have := h.2.2
    omega
  · have := h.2.1
    omega

theorem ofNat_asciiLowerCode_eq_iff (hc : c.toNat < 128) (hd : IsPlainLower d) :
    Char.ofNat (asciiLowerCode c.toNat) = d ↔ SameLetter c d := by
  have hvalid {n : Nat} (h : n < 128) : (Char.ofNat n).toNat = n := by
    rw [toNat_ofNat, if_pos (.inl (by omega))]
  have hlower : asciiLowerCode c.toNat < 128 := by
    simp only [asciiLowerCode, Bool.and_eq_true, decide_eq_true_eq]
    split <;> omega
  have hnot := hd.2.1
  rw [← Char.toNat_inj, hvalid hlower, SameLetter, ← Char.toNat_inj]
  simp only [asciiLowerCode, IsCapitalOf, Bool.and_eq_true, decide_eq_true_eq]
  split <;> omega

/-! ## Lower-case forms of texts -/

theorem lowerFrom_eq_iff {w : List Char} (hw : IsPlainWord w) (before s : List Char) :
    lowerFrom before s = w ↔ IsCaseVariant s w := by
  induction s generalizing before w with
  | nil =>
      rw [lowerFrom, IsCaseVariant, List.forall₂_nil_left_iff]
      exact eq_comm
  | cons c after ih =>
      rw [lowerFrom, IsCaseVariant, List.forall₂_cons_left_iff]
      by_cases hc : c.toNat < 128
      · rw [lowerChar_of_lt before after hc, List.singleton_append]
        cases w with
        | nil => simp
        | cons d w =>
            rw [IsPlainWord, List.forall_mem_cons] at hw
            rw [List.cons.injEq, ofNat_asciiLowerCode_eq_iff hc hw.1, ih hw.2]
            simp [IsCaseVariant]
      · apply iff_of_false
        · rintro rfl
          obtain ⟨d, hd, hnot⟩ := exists_not_isPlainLower before after (Nat.not_lt.mp hc)
          exact hnot (hw d (List.mem_append_left _ hd))
        · rintro ⟨d, w, hsame, _, rfl⟩
          exact hc (hsame.lt_of_isPlainLower (hw d List.mem_cons_self))

theorem IsCaseVariant.lt_of_mem {s w : List Char} (h : IsCaseVariant s w) (hw : IsPlainWord w) :
    ∀ c ∈ s, c.toNat < 128 := by
  induction h with
  | nil => nofun
  | cons hsame _ ih =>
      rw [IsPlainWord, List.forall_mem_cons] at hw
      rw [List.forall_mem_cons]
      exact ⟨hsame.lt_of_isPlainLower hw.1, ih hw.2⟩

/-- The texts whose lower-case form is a plain word are the variants of the word. -/
theorem lower_eq_iff {w : List Char} (hw : IsPlainWord w) (s : List Char) :
    lower s = w ↔ IsCaseVariant s w :=
  lowerFrom_eq_iff hw [] s

/-- The Kelvin sign is the reason for which words with a `k` are not plain. -/
example : lower ['\u212A'] = ['k'] := by decide +kernel

end Rollout.Text
