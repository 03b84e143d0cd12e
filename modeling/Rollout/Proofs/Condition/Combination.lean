import Mathlib.Data.List.Forall2
import Rollout.Condition.Verdict

/-!
# Verdicts on combinations

The verdict on a combination depends on the conditions that are combined through their verdicts
alone. When all of these can be reached, it is their disjunction or conjunction. A combination that
holds does not cease to hold when some of its conditions come to hold, because conditions are put
together without negation.

## Implementation notes

Two lists of conditions are compared entry by entry, each list in a context of its own, so that the
lemmas serve for a change of the conditions as well as for one of the context.
-/

namespace Rollout

namespace Condition

variable {c c' : Context} {level level' : Int} {conditions others : List Condition}

theorem anyHoldsAt_congr
    (h : List.Forall₂ (fun x y => holdsAt c x level = holdsAt c' y level') conditions others) :
    anyHoldsAt c conditions level = anyHoldsAt c' others level' := by
  induction h with
  | nil => rw [anyHoldsAt, anyHoldsAt]
  | cons hxy _ ih => rw [anyHoldsAt, anyHoldsAt, hxy, ih]

theorem allHoldAt_congr
    (h : List.Forall₂ (fun x y => holdsAt c x level = holdsAt c' y level') conditions others) :
    allHoldAt c conditions level = allHoldAt c' others level' := by
  induction h with
  | nil => rw [allHoldAt, allHoldAt]
  | cons hxy _ ih => rw [allHoldAt, allHoldAt, hxy, ih]

theorem anyHoldsAt_eq_or {p : Condition → Bool}
    (h : ∀ x ∈ conditions, holdsAt c x level = .ok (p x)) :
    anyHoldsAt c conditions level = .ok (conditions.map p).or := by
  induction conditions with
  | nil => rw [anyHoldsAt, List.map_nil, List.or_nil]
  | cons x rest ih =>
      rw [List.forall_mem_cons] at h
      rw [anyHoldsAt, h.1, ih h.2, List.map_cons, List.or_cons]
      cases p x <;> rfl

theorem allHoldAt_eq_and {p : Condition → Bool}
    (h : ∀ x ∈ conditions, holdsAt c x level = .ok (p x)) :
    allHoldAt c conditions level = .ok (conditions.map p).and := by
  induction conditions with
  | nil => rw [allHoldAt, List.map_nil, List.and_nil]
  | cons x rest ih =>
      rw [List.forall_mem_cons] at h
      rw [allHoldAt, h.1, ih h.2, List.map_cons, List.and_cons]
      cases p x <;> rfl

theorem anyHoldsAt_keeps
    (h : List.Forall₂ (fun x y => holdsAt c x level = .ok true →
      ∀ b, holdsAt c' y level' = .ok b → b = true) conditions others)
    (hc : anyHoldsAt c conditions level = .ok true) {b : Bool}
    (hb : anyHoldsAt c' others level' = .ok b) : b = true := by
  induction h with
  | nil =>
      rw [anyHoldsAt] at hc
      cases hc
  | @cons x y conditions others hxy _ ih =>
      rw [anyHoldsAt] at hc hb
      cases hy : holdsAt c' y level' with
      | error e => simp [hy] at hb
      | ok by' =>
          cases by' with
          | true => simpa [hy, eq_comm] using hb
          | false =>
              have hx : holdsAt c x level ≠ .ok true := fun hx => by simpa using hxy hx _ hy
              rw [hy] at hb
              split at hc
              · cases hc
              · exact absurd ‹_› hx
              · exact ih hc hb

theorem allHoldAt_keeps
    (h : List.Forall₂ (fun x y => holdsAt c x level = .ok true →
      ∀ b, holdsAt c' y level' = .ok b → b = true) conditions others)
    (hc : allHoldAt c conditions level = .ok true) {b : Bool}
    (hb : allHoldAt c' others level' = .ok b) : b = true := by
  induction h with
  | nil =>
      rw [allHoldAt] at hb
      exact (Except.ok.inj hb).symm
  | @cons x y conditions others hxy _ ih =>
      rw [allHoldAt] at hc hb
      split at hc
      · cases hc
      · rename_i hx
        cases hy : holdsAt c' y level' with
        | error e => simp [hy] at hb
        | ok by' =>
            rw [hy, hxy hx _ hy] at hb
            exact ih hc hb
      · cases hc

end Condition

/-- The verdicts on declared conditions depend on their names and their verdicts alone. -/
theorem Verdicts.extend_congr {c c' : Context} {conditions others : List NamedCondition}
    (h : List.Forall₂ (fun x y => x.name = y.name ∧ x.condition.holds c = y.condition.holds c')
      conditions others) (verdicts : Verdicts) :
    extend c verdicts conditions = extend c' verdicts others := by
  induction h generalizing verdicts with
  | nil => rfl
  | @cons x y _ _ hxy _ ih =>
      rw [extend, extend, hxy.1, hxy.2]
      split
      · rfl
      · exact ih _

end Rollout
