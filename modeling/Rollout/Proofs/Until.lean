/-!
# Going through a list in order

Readers and evaluators go through lists entry by entry, and stop early. Where they stop is said
by one property for the entries that are passed over and one for the entry at which they stop.
-/

namespace Rollout

/-- The entries of a list have `p` up to one that has `q`. -/
def Until {α : Type} (p q : α → Prop) (l : List α) : Prop :=
  ∃ before x after, l = before ++ x :: after ∧ (∀ y ∈ before, p y) ∧ q x

variable {α : Type} {p q : α → Prop}

@[simp] theorem not_until_nil : ¬ Until p q [] := by
  rintro ⟨before, x, after, h, _⟩
  simp at h

theorem until_cons_iff {x : α} {rest : List α} :
    Until p q (x :: rest) ↔ q x ∨ (p x ∧ Until p q rest) := by
  constructor
  · rintro ⟨before, y, after, h, hp, hq⟩
    cases before with
    | nil =>
        obtain ⟨rfl, rfl⟩ := List.cons.inj h
        exact .inl hq
    | cons b before =>
        obtain ⟨rfl, rfl⟩ := List.cons.inj h
        exact .inr ⟨hp x (by simp), before, y, after, rfl, fun z hz => hp z (by simp [hz]), hq⟩
  · rintro (hq | ⟨hp, before, y, after, rfl, hbefore, hq⟩)
    · exact ⟨[], x, rest, rfl, by simp, hq⟩
    · refine ⟨x :: before, y, after, rfl, ?_, hq⟩
      intro z hz
      rcases List.mem_cons.mp hz with rfl | hz
      · exact hp
      · exact hbefore z hz

theorem until_congr {q' : α → Prop} {l : List α} (h : ∀ x ∈ l, (q x ↔ q' x)) :
    Until p q l ↔ Until p q' l := by
  induction l with
  | nil => simp
  | cons x rest ih =>
      rw [until_cons_iff, until_cons_iff, h x (by simp), ih fun y hy => h y (by simp [hy])]

theorem until_map_iff {β : Type} {f : β → α} {l : List β} :
    Until p q (l.map f) ↔ Until (fun x => p (f x)) (fun x => q (f x)) l := by
  induction l with
  | nil => simp
  | cons x rest ih => simp only [List.map_cons, until_cons_iff, ih]

end Rollout
