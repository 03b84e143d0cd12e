import Mathlib.Data.List.MinMax
import Rollout.Proofs.Condition.Combination
import Rollout.Proofs.Condition.Tree

/-!
# The greatest depth as a cut

A bound on the depth of combinations is a bound on the condition itself: the verdict is the plain
truth of the condition that is left when every combination beyond the greatest depth is replaced
by one that does not hold. What stands below the cut does not matter, and a condition that is not
deeper than that is not changed by it.
-/

namespace Rollout

namespace Condition

/-- The truth of a condition without regard to its depth. A rule that ends in a fault is not
true. -/
def truth (c : Context) : Condition → Bool
  | .any conditions => (conditions.map fun x => truth c x).or
  | .all conditions => (conditions.map fun x => truth c x).and
  | .always => true
  | .never => false
  | .percent rule => (rule.holds c).toOption.getD false
  | .signal rule => (rule.holds c).toOption.getD false
  | .unrecognized _ => false

/-- Cut a condition below a number of combinations that enclose each other. -/
def cut : Condition → Int → Condition
  | .any conditions, budget =>
    if budget ≤ 0 then .never else .any (conditions.map fun x => cut x (budget - 1))
  | .all conditions, budget =>
    if budget ≤ 0 then .never else .all (conditions.map fun x => cut x (budget - 1))
  | condition, _ => condition

/-- The greatest number of combinations that enclose each other. -/
def depth : Condition → Nat
  | .any conditions => (conditions.map fun x => depth x).foldr max 0 + 1
  | .all conditions => (conditions.map fun x => depth x).foldr max 0 + 1
  | _ => 0

/-- The comparisons of signals in a condition. -/
def comparisons : Condition → List Signal.Rule
  | .any conditions => conditions.flatMap fun x => comparisons x
  | .all conditions => conditions.flatMap fun x => comparisons x
  | .signal rule => [rule]
  | _ => []

/-- The conditions in a condition that are not combinations. -/
def leaves : Condition → List Condition
  | .any conditions => conditions.flatMap fun x => leaves x
  | .all conditions => conditions.flatMap fun x => leaves x
  | condition => [condition]

/-! ## Cutting -/

/-- The conditions of a combination that is not too deep are not too deep inside it. -/
theorem depth_le_of_mem {conditions : List Condition} {x : Condition} (hx : x ∈ conditions)
    {budget : Int} (h : ((conditions.map depth).foldr max 0 + 1 : Nat) ≤ budget) :
    (x.depth : Int) ≤ budget - 1 := by
  have hle : x.depth ≤ (conditions.map depth).foldr max 0 :=
    List.le_max_of_le' 0 (List.mem_map_of_mem hx) le_rfl
  omega

theorem cut_of_depth_le {condition : Condition} {budget : Int}
    (h : (condition.depth : Int) ≤ budget) : cut condition budget = condition := by
  induction condition generalizing budget with
  | any conditions ih =>
      rw [depth] at h
      have hcut : ∀ x ∈ conditions, cut x (budget - 1) = x := fun x hx =>
        ih x hx (depth_le_of_mem hx h)
      rw [cut, if_neg (by omega), List.map_congr_left hcut, List.map_id']
  | all conditions ih =>
      rw [depth] at h
      have hcut : ∀ x ∈ conditions, cut x (budget - 1) = x := fun x hx =>
        ih x hx (depth_le_of_mem hx h)
      rw [cut, if_neg (by omega), List.map_congr_left hcut, List.map_id']
  | _ => simp [cut]

variable {c : Context}

/-- Cutting at the greatest depth does not change the verdict, whatever it is. -/
theorem holdsAt_cut (condition : Condition) (level : Int) :
    holdsAt c (cut condition (maxDepth - level)) level = holdsAt c condition level := by
  induction condition generalizing level with
  | any conditions ih =>
      rw [cut]
      by_cases hdeep : maxDepth ≤ level
      · rw [if_pos (Int.sub_nonpos_of_le hdeep), holdsAt, holdsAt, if_pos hdeep]
      · rw [if_neg (by omega), holdsAt, holdsAt, if_neg hdeep, if_neg hdeep]
        apply anyHoldsAt_congr
        rw [List.forall₂_map_left_iff, List.forall₂_same]
        intro x hx
        rw [Int.sub_sub]
        exact ih x hx (level + 1)
  | all conditions ih =>
      rw [cut]
      by_cases hdeep : maxDepth ≤ level
      · rw [if_pos (Int.sub_nonpos_of_le hdeep), holdsAt, holdsAt, if_pos hdeep]
      · rw [if_neg (by omega), holdsAt, holdsAt, if_neg hdeep, if_neg hdeep]
        apply allHoldAt_congr
        rw [List.forall₂_map_left_iff, List.forall₂_same]
        intro x hx
        rw [Int.sub_sub]
        exact ih x hx (level + 1)
  | _ => simp [cut]

/-! ## Truth -/

/-- The verdict on a condition is the truth of what is above the cut. -/
theorem holdsAt_eq_truth {condition : Condition}
    (h : ∀ leaf ∈ condition.leaves, ∃ b, holdsAt c leaf 0 = .ok b) (level : Int) :
    holdsAt c condition level = .ok (truth c (cut condition (maxDepth - level))) := by
  induction condition generalizing level with
  | any conditions ih =>
      rw [leaves] at h
      rw [cut, holdsAt]
      by_cases hdeep : maxDepth ≤ level
      · rw [if_pos hdeep, if_pos (Int.sub_nonpos_of_le hdeep), truth]
      · rw [if_neg hdeep, if_neg (by omega), truth, List.map_map]
        apply anyHoldsAt_eq_or
        intro x hx
        rw [ih x hx fun leaf hleaf => h leaf (List.mem_flatMap_of_mem hx hleaf)]
        simp only [Function.comp, Int.sub_sub]
  | all conditions ih =>
      rw [leaves] at h
      rw [cut, holdsAt]
      by_cases hdeep : maxDepth ≤ level
      · rw [if_pos hdeep, if_pos (Int.sub_nonpos_of_le hdeep), truth]
      · rw [if_neg hdeep, if_neg (by omega), truth, List.map_map]
        apply allHoldAt_eq_and
        intro x hx
        rw [ih x hx fun leaf hleaf => h leaf (List.mem_flatMap_of_mem hx hleaf)]
        simp only [Function.comp, Int.sub_sub]
  | percent rule | signal rule =>
      simp only [leaves, List.forall_mem_singleton, holdsAt] at h
      obtain ⟨b, hb⟩ := h
      simp [holdsAt, cut, truth, hb, Except.toOption]
  | _ => simp [holdsAt, cut, truth]

/-- When no leaf ends in a fault, the verdict on a condition is the truth of what is above the cut.
It is the same for every condition that agrees down to there, and it is the truth of the whole
condition when that is not too deep. -/
theorem verdict_is_truth_of_cut {condition : Condition}
    (h : ∀ leaf ∈ condition.leaves, ∃ b, holdsAt c leaf 0 = .ok b) (level : Int) :
    holdsAt c condition level = .ok (truth c (cut condition (maxDepth - level))) ∧
      (∀ other, cut other (maxDepth - level) = cut condition (maxDepth - level) →
        holdsAt c other level = holdsAt c condition level) ∧
      ((condition.depth : Int) ≤ maxDepth - level →
        holdsAt c condition level = .ok (truth c condition)) := by
  have htruth := holdsAt_eq_truth h level
  refine ⟨htruth, fun other hcut => ?_, fun hdepth => ?_⟩
  · rw [← holdsAt_cut other, hcut, holdsAt_cut]
  · rw [htruth, cut_of_depth_le hdepth]

/-- A comparison with the country of a client. -/
def inGermany : Signal.Rule :=
  { operator := some (.text .contains), key := some "country", targets := ["DE"] }

/-- A client with a country. -/
def german : Context := { id := none, signals := .ofMembers [("country", .str "DE")] }

/-- A combination inside another one, and beside it a comparison. -/
def nested (inner : Condition) : Condition := .any [.all [inner], .signal inGermany]

/-- One level above the greatest depth the inner combination is cut off, whatever it holds, and
the comparison still decides. One level higher nothing is cut off. -/
theorem nested_holds :
    (∀ leaf ∈ (nested .always).leaves, ∃ b, holdsAt german leaf 0 = .ok b) ∧
      cut (nested .always) 1 = .any [.never, .signal inGermany] ∧
      holdsAt german (nested .always) 9 = .ok true ∧
      holdsAt german (nested .never) 9 = holdsAt german (nested .always) 9 ∧
      holdsAt german (nested .always) 8 = .ok (truth german (nested .always)) := by
  have hgerman : inGermany.holds german = .ok true := rfl
  have h : ∀ leaf ∈ (nested .always).leaves, ∃ b, holdsAt german leaf 0 = .ok b := by
    simp [nested, leaves, holdsAt, hgerman]
  have hcut : cut (nested .always) 1 = .any [.never, .signal inGermany] := by
    simp [nested, cut]
  have hnine := verdict_is_truth_of_cut h 9
  have height := verdict_is_truth_of_cut h 8
  refine ⟨h, hcut, hnine.1.trans ?_, hnine.2.1 _ ?_, height.2.2 ?_⟩
  · rw [maxDepth, show (10 : Int) - 9 = 1 from rfl, hcut]
    simp [truth, hgerman, Except.toOption]
  · simp [nested, cut, maxDepth]
  · simp [nested, depth, maxDepth]

end Condition

end Rollout
