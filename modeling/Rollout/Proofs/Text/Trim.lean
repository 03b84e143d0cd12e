import Mathlib.Data.List.DropRight
import Mathlib.Data.List.Infix
import Rollout.Text.Blank
import Rollout.Text.Search

/-!
# Trimmed texts and parts of texts

Trimming takes the characters of a class off both ends of a text. What is left is the core of the
text: characters of the class stand around it, and it has none of them at its ends. Characters of
the class that are put around a text do not change its core. One text occurs in another when the
other continues it on both sides.
-/

namespace Rollout.Text

variable {p : Char → Bool} {s t core : List Char}

/-! ## Occurrence -/

/-- A text occurs in its continuations, and in nothing else. -/
theorem occursIn_iff (t s : List Char) : occursIn t s = true ↔ t <:+: s := by
  induction s with
  | nil =>
      rw [occursIn, List.isEmpty_iff, List.infix_nil]
  | cons c s ih =>
      rw [occursIn, Bool.or_eq_true, List.isPrefixOf_iff_prefix, ih, List.infix_cons_iff]

/-! ## Texts with something around them -/

/-- A text stands in another one with characters of a class around it. -/
def Surrounds (p : Char → Bool) (s t : List Char) : Prop :=
  ∃ before after, (∀ c ∈ before, p c = true) ∧ (∀ c ∈ after, p c = true) ∧
    t = before ++ s ++ after

theorem Surrounds.refl (p : Char → Bool) (s : List Char) : Surrounds p s s := by
  refine ⟨[], [], ?_, ?_, ?_⟩
  · exact List.forall_mem_nil _
  · exact List.forall_mem_nil _
  · rw [List.nil_append, List.append_nil]

theorem Surrounds.isInfix (h : Surrounds p s t) : s <:+: t := by
  obtain ⟨before, after, _, _, rfl⟩ := h
  exact ⟨before, after, rfl⟩

/-- A text is what is left of another one without the characters of a class at its ends. -/
structure IsCore (p : Char → Bool) (s core : List Char) : Prop where
  surrounds : Surrounds p core s
  head : ∀ c ∈ core.head?, p c = false
  last : ∀ c ∈ core.getLast?, p c = false

/-! ## Trimming -/

theorem dropWhile_append_of_all {after : List Char} (h : ∀ c ∈ after, p c = true)
    (s : List Char) : (s ++ after).dropWhile p = s.dropWhile p ++ after ∨
      (s ++ after).dropWhile p = [] ∧ s.dropWhile p = [] := by
  rw [List.dropWhile_append]
  split
  · rename_i hempty
    right
    exact ⟨List.dropWhile_eq_nil_iff.mpr h, List.isEmpty_iff.mp hempty⟩
  · exact .inl rfl

theorem trimBoth_append_right {after : List Char} (h : ∀ c ∈ after, p c = true)
    (s : List Char) : trimBoth p (s ++ after) = trimBoth p s := by
  have hreverse : ∀ c ∈ after.reverse, p c = true := by
    intro c hc
    exact h c (List.mem_reverse.mp hc)
  rcases dropWhile_append_of_all h s with hs | ⟨hs, hs'⟩
  · rw [trimBoth, hs, List.reverse_append, List.dropWhile_append_of_pos hreverse, trimBoth]
  · rw [trimBoth, hs, trimBoth, hs']

/-- Characters of the class around a text do not matter. -/
theorem Surrounds.trimBoth_eq (h : Surrounds p s t) : trimBoth p t = trimBoth p s := by
  obtain ⟨before, after, hbefore, hafter, rfl⟩ := h
  rw [trimBoth_append_right hafter, trimBoth, List.dropWhile_append_of_pos hbefore, trimBoth]

theorem dropWhile_eq_self (h : ∀ c ∈ s.head?, p c = false) : s.dropWhile p = s := by
  cases s with
  | nil => rfl
  | cons c s =>
      have hc : p c = false := h c rfl
      exact List.dropWhile_cons_of_neg (by simp [hc])

theorem trimBoth_of_isCore (h : IsCore p s core) : trimBoth p s = core := by
  have hlast : ∀ c ∈ core.reverse.head?, p c = false := by
    rw [List.head?_reverse]
    exact h.last
  rw [h.surrounds.trimBoth_eq, trimBoth, dropWhile_eq_self h.head, dropWhile_eq_self hlast,
    List.reverse_reverse]

theorem head?_dropWhile (p : Char → Bool) (s : List Char) :
    ∀ c ∈ (s.dropWhile p).head?, p c = false := by
  intro c hc
  have hnot := List.head?_dropWhile_not p s
  rw [hc] at hnot
  simpa using hnot

/-- What trimming leaves is the core of the text. -/
theorem isCore_trimBoth (p : Char → Bool) (s : List Char) : IsCore p s (trimBoth p s) where
  surrounds := by
    have hsplit : trimBoth p s ++ (s.dropWhile p).rtakeWhile p = s.dropWhile p :=
      List.rdropWhile_append_rtakeWhile
    refine ⟨s.takeWhile p, (s.dropWhile p).rtakeWhile p, ?_, ?_, ?_⟩
    · intro c hc
      exact List.mem_takeWhile_imp hc
    · intro c hc
      exact List.mem_rtakeWhile_imp hc
    · calc
        s = s.takeWhile p ++ s.dropWhile p := List.takeWhile_append_dropWhile.symm
        _ = s.takeWhile p ++ (trimBoth p s ++ (s.dropWhile p).rtakeWhile p) :=
          congrArg (s.takeWhile p ++ ·) hsplit.symm
        _ = s.takeWhile p ++ trimBoth p s ++ (s.dropWhile p).rtakeWhile p :=
          (List.append_assoc _ _ _).symm
  head := by
    intro c hc
    have hfront : trimBoth p s <+: s.dropWhile p := List.rdropWhile_prefix p (s.dropWhile p)
    obtain ⟨after, hafter⟩ := hfront
    apply head?_dropWhile p s c
    rw [← hafter, List.head?_append, Option.mem_def.mp hc]
    rfl
  last := by
    intro c hc
    rw [trimBoth, List.getLast?_reverse] at hc
    exact head?_dropWhile p _ c hc

/-- A text has one core, which is the trimmed text. -/
theorem trimBoth_eq_iff : trimBoth p s = core ↔ IsCore p s core := by
  constructor
  · rintro rfl
    exact isCore_trimBoth p s
  · exact trimBoth_of_isCore

end Rollout.Text
