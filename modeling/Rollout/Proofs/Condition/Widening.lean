import Rollout.Proofs.Condition.Combination
import Rollout.Proofs.Condition.Encodable
import Rollout.Proofs.Condition.Tree

/-!
# Widening percent rules

A percent rule is widened by moving its bounds outwards, under the same seed and operator. A
condition whose percent rules are widened, at any depth, still holds of every client of which it
held, and so does a condition that is enclosed by fewer combinations: conditions are put together
without negation, and what is too deep does not hold.

## Implementation notes

A condition that is widened may come to a comparison that was not come to before, and which ends
in a fault. The statements are therefore about the verdict that a widened condition has, if it has
one.
-/

namespace Rollout

namespace PercentRule

/-- A rule is widened by another with the same seed and operator whose bounds, as far as the
operator looks at them, lie further out. -/
structure Widens (rule wider : PercentRule) : Prop where
  seed : wider.seed = rule.seed
  operator : wider.operator = rule.operator
  lessOrEqual : rule.operator = some .lessOrEqual → rule.limit.getD 0 ≤ wider.limit.getD 0
  greaterThan : rule.operator = some .greaterThan → wider.limit.getD 0 ≤ rule.limit.getD 0
  between : rule.operator = some .between →
    wider.lower ≤ rule.lower ∧ rule.upper ≤ wider.upper

variable {rule wider : PercentRule}

theorem Widens.accepts (h : rule.Widens wider) {op : PercentOperator}
    (hop : rule.operator = some op) {percentile : Int} (ha : rule.accepts op percentile = true) :
    wider.accepts op percentile = true := by
  cases op with
  | lessOrEqual =>
      have hlimit := h.lessOrEqual hop
      simp only [PercentRule.accepts, decide_eq_true_eq] at ha ⊢
      omega
  | greaterThan =>
      have hlimit := h.greaterThan hop
      simp only [PercentRule.accepts, decide_eq_true_eq] at ha ⊢
      omega
  | between =>
      have hrange := h.between hop
      simp only [PercentRule.accepts, Bool.and_eq_true, decide_eq_true_eq] at ha ⊢
      omega
  | unknown => cases ha

/-- Whoever belongs to the part of a rule belongs to that of a wider one. -/
theorem Widens.holds (h : rule.Widens wider) {c : Context} (hr : rule.holds c = .ok true) :
    wider.holds c = .ok true := by
  obtain ⟨id, op, n, hid, hne, hop, hplace, haccepts⟩ := holds_eq_true_iff.mp hr
  apply holds_eq_true_iff.mpr
  refine ⟨id, op, n, hid, hne, h.operator.trans hop, ?_, h.accepts hop haccepts⟩
  rw [h.seed, hplace]

end PercentRule

namespace Condition

/-- A condition is widened by widening percent rules in it, at any depth. -/
inductive Widens : Condition → Condition → Prop
  | any {conditions wider : List Condition} (each : List.Forall₂ Widens conditions wider) :
      Widens (.any conditions) (.any wider)
  | all {conditions wider : List Condition} (each : List.Forall₂ Widens conditions wider) :
      Widens (.all conditions) (.all wider)
  | percent {rule wider : PercentRule} (bounds : rule.Widens wider) :
      Widens (.percent rule) (.percent wider)
  | always : Widens .always .always
  | never : Widens .never .never
  | signal (rule : Signal.Rule) : Widens (.signal rule) (.signal rule)
  | unrecognized (raw : Json) : Widens (.unrecognized raw) (.unrecognized raw)

variable {c : Context} {level level' : Int}

/-- The verdict on a second condition, if there is one, is true when that on a first one is. -/
def Keeps (c : Context) (level level' : Int) (condition other : Condition) : Prop :=
  holdsAt c condition level = .ok true → ∀ b, holdsAt c other level' = .ok b → b = true

theorem forall₂_keeps {conditions others : List Condition}
    (ih : ∀ x ∈ conditions, ∀ {wider : Condition}, x.Widens wider →
      ∀ {level level' : Int}, level' ≤ level → Keeps c level level' x wider)
    (each : List.Forall₂ Widens conditions others) (hlevel : level' ≤ level) :
    List.Forall₂ (Keeps c (level + 1) (level' + 1)) conditions others :=
  ((List.forall₂_and_left _ _).2 ⟨ih, each⟩).imp fun _ _ h =>
    h.1 h.2 (Int.add_le_add_right hlevel 1)

/-- A condition that holds still holds when percent rules in it are widened and fewer combinations
enclose it, if it then has a verdict. -/
theorem keeps_of_widens {condition wider : Condition} (h : condition.Widens wider)
    {level level' : Int} (hlevel : level' ≤ level) : Keeps c level level' condition wider := by
  induction condition generalizing wider level level' with
  | any conditions ih =>
      cases h with
      | any each =>
          intro hc b hb
          rw [holdsAt] at hc hb
          split at hc
          · cases hc
          rw [if_neg (by omega)] at hb
          exact anyHoldsAt_keeps (forall₂_keeps ih each hlevel) hc hb
  | all conditions ih =>
      cases h with
      | all each =>
          intro hc b hb
          rw [holdsAt] at hc hb
          split at hc
          · cases hc
          rw [if_neg (by omega)] at hb
          exact allHoldAt_keeps (forall₂_keeps ih each hlevel) hc hb
  | percent rule =>
      cases h with
      | percent bounds =>
          intro hc b hb
          rw [holdsAt] at hc hb
          exact Except.ok.inj (hb.symm.trans (bounds.holds hc))
  | always =>
      cases h
      intro _ b hb
      rw [holdsAt] at hb
      exact (Except.ok.inj hb).symm
  | signal rule =>
      cases h
      intro hc b hb
      rw [holdsAt] at hc hb
      exact (Except.ok.inj (hc.symm.trans hb)).symm
  | never | unrecognized =>
      cases h
      intro hc
      rw [holdsAt] at hc
      cases hc

/-- A share of the population. -/
def share (limit : Int) : PercentRule :=
  { operator := some .lessOrEqual, limit := some limit, seed := .str "s", range := none }

/-- A client whose percentile under the seed of the share is between 19 and 20. -/
def nineteenth : Context := { id := some "client", signals := [] }

/-- A client among a fifth of the population, with nine combinations around the condition, still is
in the condition when the share is raised to a quarter and no combination is around it. -/
theorem share_keeps :
    (all [.percent (share 20000000)]).Widens (.all [.percent (share 25000000)]) ∧
      holdsAt nineteenth (.all [.percent (share 20000000)]) 9 = .ok true ∧
      holdsAt nineteenth (.all [.percent (share 25000000)]) 0 = .ok true := by
  have hwidens : (all [.percent (share 20000000)]).Widens (.all [.percent (share 25000000)]) :=
    .all (.cons (.percent ⟨rfl, rfl, fun _ => by decide, nofun, nofun⟩) .nil)
  have hfifth : holdsAt nineteenth (.all [.percent (share 20000000)]) 9 = .ok true := by
    have hrule : (share 20000000).holds nineteenth = .ok true := by decide +kernel
    simp [holdsAt, allHoldAt, hrule, maxDepth]
  obtain ⟨b, hquarter⟩ : ∃ b, holdsAt nineteenth (.all [.percent (share 25000000)]) 0 = .ok b := by
    have hseed : ∀ t, (share 25000000).seed ≠ .stray t := by simp [share]
    have hid : ∀ t, nineteenth.id ≠ some (.stray t) := by simp [nineteenth]
    obtain ⟨b, hrule⟩ := PercentRule.exists_holds_of_plain hseed hid
    cases b <;> simp [holdsAt, allHoldAt, hrule, maxDepth]
  have hb := keeps_of_widens hwidens (by decide : (0 : Int) ≤ 9) hfifth b hquarter
  exact ⟨hwidens, hfifth, hb ▸ hquarter⟩

end Condition

end Rollout
