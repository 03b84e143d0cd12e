import Rollout.Proofs.Condition.Depth

/-!
# What a verdict depends on

A condition reads two things in a context: the id, for percent rules, and the signals whose keys its
comparisons name. Contexts that agree on these give the same verdict at every level, and the same
fault where there is no verdict.
-/

namespace Rollout

variable {c c' : Context}

theorem PercentRule.holds_congr (hid : c.id = c'.id) (rule : PercentRule) :
    rule.holds c = rule.holds c' := by
  rw [holds, holds, hid]

namespace Signal.Rule

theorem holds_congr {rule : Rule}
    (hget : ∀ key, rule.key = some key → c.get key = c'.get key) : rule.holds c = rule.holds c' := by
  unfold holds
  split
  · rename_i op key hop hkey
    rw [hget key hkey]
  · rfl

theorem holds_of_isNull {rule : Rule}
    (hget : ∀ key, rule.key = some key → (c.get key).isNull = true) : rule.holds c = .ok false := by
  unfold holds
  split
  · rename_i op key hop hkey
    simp only [hget key hkey, if_true, ite_self]
  · rfl

end Signal.Rule

namespace Condition

/-- The keys of the signals that a condition asks for. -/
def asked (condition : Condition) : List String := condition.comparisons.filterMap (·.key)

theorem mem_asked_of_mem_comparisons {condition : Condition} {rule : Signal.Rule} {key : String}
    (hrule : rule ∈ condition.comparisons) (hkey : rule.key = some key) : key ∈ condition.asked :=
  List.mem_filterMap.2 ⟨rule, hrule, hkey⟩

theorem holdsAt_congr_of_comparisons (hid : c.id = c'.id) {condition : Condition}
    (h : ∀ rule ∈ condition.comparisons, rule.holds c = rule.holds c') (level : Int) :
    holdsAt c condition level = holdsAt c' condition level := by
  induction condition generalizing level with
  | any conditions ih =>
      rw [comparisons] at h
      rw [holdsAt, holdsAt]
      congr 1
      apply anyHoldsAt_congr
      rw [List.forall₂_same]
      exact fun x hx => ih x hx (fun rule hrule => h rule (List.mem_flatMap_of_mem hx hrule)) _
  | all conditions ih =>
      rw [comparisons] at h
      rw [holdsAt, holdsAt]
      congr 1
      apply allHoldAt_congr
      rw [List.forall₂_same]
      exact fun x hx => ih x hx (fun rule hrule => h rule (List.mem_flatMap_of_mem hx hrule)) _
  | percent rule => rw [holdsAt, holdsAt, rule.holds_congr hid]
  | signal rule => rw [holdsAt, holdsAt, h rule (by simp [comparisons])]
  | _ => rw [holdsAt, holdsAt]

/-- The verdict on a condition depends on the id and on the signals that it asks for. -/
theorem holdsAt_congr_of_asked (hid : c.id = c'.id) {condition : Condition}
    (hget : ∀ key ∈ condition.asked, c.get key = c'.get key) (level : Int) :
    holdsAt c condition level = holdsAt c' condition level := by
  apply holdsAt_congr_of_comparisons hid
  intro rule hrule
  apply Signal.Rule.holds_congr
  exact fun key hkey => hget key (mem_asked_of_mem_comparisons hrule hkey)

end Condition

end Rollout
