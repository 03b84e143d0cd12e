import Rollout.Proofs.Condition.Encodable
import Rollout.Proofs.Condition.Tree
import Rollout.Proofs.Signal.Faults

/-!
# Conditions whose verdict cannot be reached

The verdict on a condition fails to be reached when a rule that ends in a fault is come to: a
comparison that cannot be carried out, or a percent rule for a client that has no percentile.
Combinations are looked at in order and only until their verdict is known, and a combination
below the greatest depth is not looked at, so such a rule may stand in a condition without doing
harm.
-/

namespace Rollout

namespace Condition

/-- The conditions in which a rule that ends in a fault is come to: it stands behind conditions that
leave the verdict of their combination open, and no combination around it is too deep. -/
inductive Faults (c : Context) : Condition → Int → Prop
  | any {before after : List Condition} {condition : Condition} {level : Int}
      (shallow : level < maxDepth)
      (passed : ∀ x ∈ before, holdsAt c x (level + 1) = .ok false)
      (fault : Faults c condition (level + 1)) :
      Faults c (.any (before ++ condition :: after)) level
  | all {before after : List Condition} {condition : Condition} {level : Int}
      (shallow : level < maxDepth)
      (passed : ∀ x ∈ before, holdsAt c x (level + 1) = .ok true)
      (fault : Faults c condition (level + 1)) :
      Faults c (.all (before ++ condition :: after)) level
  | percent {rule : PercentRule} {level : Int} (fault : rule.Faults c) :
      Faults c (.percent rule) level
  | signal {rule : Signal.Rule} {level : Int} (fault : rule.Faults c) :
      Faults c (.signal rule) level

variable (c : Context)

/-- A walk through conditions that goes on while their verdict is `passing` ends in a fault at the
first condition that has no verdict. -/
theorem walk_error_iff (walk : List Condition → Except Fault Bool) {level : Int} {passing : Bool}
    (hnil : ∃ b, walk [] = .ok b)
    (hcons : ∀ x rest, walk (x :: rest) = match holdsAt c x level with
      | .error e => .error e
      | .ok b => if b = passing then walk rest else .ok b)
    (conditions : List Condition) :
    (∃ e, walk conditions = .error e) ↔
      Until (fun x => holdsAt c x level = .ok passing)
        (fun x => ∃ e, holdsAt c x level = .error e) conditions := by
  induction conditions with
  | nil =>
      obtain ⟨b, hb⟩ := hnil
      simp [hb]
  | cons x rest ih =>
      rw [until_cons_iff, ← ih, hcons]
      cases hx : holdsAt c x level with
      | error e => simp
      | ok b => by_cases hb : b = passing <;> simp [hb]

theorem anyHoldsAt_error_iff (conditions : List Condition) (level : Int) :
    (∃ e, anyHoldsAt c conditions level = .error e) ↔
      Until (fun x => holdsAt c x level = .ok false) (fun x => ∃ e, holdsAt c x level = .error e)
        conditions := by
  apply walk_error_iff c fun conditions => anyHoldsAt c conditions level
  · exact ⟨false, by rw [anyHoldsAt]⟩
  · intro x rest
    rw [anyHoldsAt]
    cases holdsAt c x level with
    | error e => rfl
    | ok b => cases b <;> rfl

theorem allHoldAt_error_iff (conditions : List Condition) (level : Int) :
    (∃ e, allHoldAt c conditions level = .error e) ↔
      Until (fun x => holdsAt c x level = .ok true) (fun x => ∃ e, holdsAt c x level = .error e)
        conditions := by
  apply walk_error_iff c fun conditions => allHoldAt c conditions level
  · exact ⟨true, by rw [allHoldAt]⟩
  · intro x rest
    rw [allHoldAt]
    cases holdsAt c x level with
    | error e => rfl
    | ok b => cases b <;> rfl

theorem faults_any_iff (conditions : List Condition) (level : Int) :
    Faults c (.any conditions) level ↔
      level < maxDepth ∧
        Until (fun x => holdsAt c x (level + 1) = .ok false) (fun x => Faults c x (level + 1))
          conditions := by
  constructor
  · intro h
    cases h with
    | any shallow passed fault => exact ⟨shallow, _, _, _, rfl, passed, fault⟩
  · rintro ⟨shallow, before, x, after, rfl, passed, fault⟩
    exact .any shallow passed fault

theorem faults_all_iff (conditions : List Condition) (level : Int) :
    Faults c (.all conditions) level ↔
      level < maxDepth ∧
        Until (fun x => holdsAt c x (level + 1) = .ok true) (fun x => Faults c x (level + 1))
          conditions := by
  constructor
  · intro h
    cases h with
    | all shallow passed fault => exact ⟨shallow, _, _, _, rfl, passed, fault⟩
  · rintro ⟨shallow, before, x, after, rfl, passed, fault⟩
    exact .all shallow passed fault

theorem faults_percent_iff (rule : PercentRule) (level : Int) :
    Faults c (.percent rule) level ↔ rule.Faults c := by
  constructor
  · intro h
    cases h with
    | percent fault => exact fault
  · intro h
    exact .percent h

theorem faults_signal_iff (rule : Signal.Rule) (level : Int) :
    Faults c (.signal rule) level ↔ rule.Faults c := by
  constructor
  · intro h
    cases h with
    | signal fault => exact fault
  · intro h
    exact .signal h

/-- The verdict on a condition ends in a fault exactly when a faulty rule is come to. -/
theorem holdsAt_error_iff (condition : Condition) (level : Int) :
    (∃ e, holdsAt c condition level = .error e) ↔ Faults c condition level := by
  induction condition generalizing level with
  | any conditions ih =>
      rw [faults_any_iff, holdsAt]
      by_cases hdeep : maxDepth ≤ level
      · rw [if_pos hdeep]
        exact iff_of_false (by simp) fun h => Int.not_le.mpr h.1 hdeep
      · rw [if_neg hdeep, anyHoldsAt_error_iff, until_congr fun x hx => ih x hx (level + 1),
          and_iff_right (Int.not_le.mp hdeep)]
  | all conditions ih =>
      rw [faults_all_iff, holdsAt]
      by_cases hdeep : maxDepth ≤ level
      · rw [if_pos hdeep]
        exact iff_of_false (by simp) fun h => Int.not_le.mpr h.1 hdeep
      · rw [if_neg hdeep, allHoldAt_error_iff, until_congr fun x hx => ih x hx (level + 1),
          and_iff_right (Int.not_le.mp hdeep)]
  | percent rule => rw [holdsAt, faults_percent_iff, PercentRule.holds_error_iff]
  | signal rule => rw [holdsAt, faults_signal_iff, Signal.Rule.holds_error_iff]
  | _ => exact iff_of_false (by simp [holdsAt]) nofun

theorem holdsAt_ok_iff (condition : Condition) (level : Int) :
    (∃ b, holdsAt c condition level = .ok b) ↔ ¬ Faults c condition level := by
  rw [← holdsAt_error_iff]
  cases holdsAt c condition level <;> simp

end Condition

namespace Verdicts

/-- Verdicts on conditions can be given when no condition ends in a fault. -/
theorem extend_ok_iff (c : Context) (verdicts : Verdicts) (conditions : List NamedCondition) :
    (∃ extended, extend c verdicts conditions = .ok extended) ↔
      ∀ named ∈ conditions, ¬ named.condition.Faults c 0 := by
  induction conditions generalizing verdicts with
  | nil => simp [extend]
  | cons named rest ih =>
      rw [List.forall_mem_cons, ← Condition.holdsAt_error_iff]
      cases h : named.condition.holdsAt c 0 with
      | error e => simp [extend, Condition.holds, h]
      | ok b => simp [extend, Condition.holds, h, ih]

end Verdicts

end Rollout
