import Rollout.Proofs.Condition.Malformed
import Rollout.Proofs.Condition.Tree
import Rollout.Proofs.Template.Role

/-!
# Conditions and the members that they ignore

A condition is read from the interpreted part of its value, except that an unrecognised condition
keeps the value as it was given. What is kept there has no influence on a verdict.

## Implementation notes

Conditions are compared through their bare form, which forgets what unrecognised conditions keep.
The statements about readers relate their results on a value and on its interpreted part.
-/

namespace Rollout

open Json

/-- Two readings are both refused, or they give results that look alike. -/
inductive ReadAlike {ε α β : Type} (look : α → β) : Except ε α → Except ε α → Prop
  | refused (e e' : ε) : ReadAlike look (.error e) (.error e')
  | read {x y : α} (alike : look x = look y) : ReadAlike look (.ok x) (.ok y)

namespace ReadAlike

variable {ε α β : Type} {look : α → β} {r s t : Except ε α}

theorem refl (look : α → β) (r : Except ε α) : ReadAlike look r r := by
  cases r with
  | error e => exact .refused e e
  | ok x => exact .read rfl

theorem symm (h : ReadAlike look r s) : ReadAlike look s r := by
  cases h with
  | refused e e' => exact .refused e' e
  | read alike => exact .read alike.symm

theorem trans (h : ReadAlike look r s) (h' : ReadAlike look s t) : ReadAlike look r t := by
  cases h with
  | refused e _ =>
      cases h' with
      | refused _ e' => exact .refused e e'
  | read alike =>
      cases h' with
      | read alike' => exact .read (alike.trans alike')

theorem of_ok {x : α} (h : ReadAlike look (.ok x) s) : ∃ y, s = .ok y ∧ look x = look y := by
  cases h with
  | read alike => exact ⟨_, rfl, alike⟩

end ReadAlike

namespace PercentRule

theorem readRange_interpreted (j : Json) : readRange (j.interpreted .range) = readRange j := by
  cases j with
  | obj members =>
      have hfield (key : String) (h : Role.range.member? key = some .whole) :=
        field_interpretedMembers .range key h members
      simp only [interpreted_whole] at hfield
      simp only [interpreted, readRange, hfield "microPercentLowerBound" rfl,
        hfield "microPercentUpperBound" rfl]
  | _ => simp [interpreted, readRange]

theorem ofJson_interpreted (j : Json) : ofJson (j.interpreted .percent) = ofJson j := by
  have hfield (key : String) (h : Role.percent.member? key = some .whole) :=
    field_interpreted .percent key h j
  have hrange := field_interpreted .percent "microPercentRange" rfl j
  simp only [interpreted_whole] at hfield
  simp only [ofJson, hrange, readRange_interpreted, hfield "microPercent" rfl,
    hfield "seed" rfl, hfield "percentOperator" rfl]

end PercentRule

namespace Condition

/-! ## Forgetting what unrecognised conditions keep -/

/-- A condition without the values that unrecognised conditions keep. -/
def bare : Condition → Condition
  | .any conditions => .any (conditions.map fun x => bare x)
  | .all conditions => .all (conditions.map fun x => bare x)
  | .unrecognized _ => .unrecognized .null
  | condition => condition

theorem bare_any (conditions : List Condition) :
    (any conditions).bare = any (conditions.map bare) := by
  rw [bare]

theorem bare_all (conditions : List Condition) :
    (all conditions).bare = all (conditions.map bare) := by
  rw [bare]

/-- What an unrecognised condition keeps does not matter to a verdict. -/
theorem holdsAt_bare (c : Context) (condition : Condition) (level : Int) :
    holdsAt c condition.bare level = holdsAt c condition level := by
  induction condition generalizing level with
  | any conditions ih =>
      rw [bare, holdsAt, holdsAt]
      congr 1
      apply anyHoldsAt_congr
      rw [List.forall₂_map_left_iff, List.forall₂_same]
      exact fun x hx => ih x hx (level + 1)
  | all conditions ih =>
      rw [bare, holdsAt, holdsAt]
      congr 1
      apply allHoldAt_congr
      rw [List.forall₂_map_left_iff, List.forall₂_same]
      exact fun x hx => ih x hx (level + 1)
  | unrecognized raw => rw [bare, holdsAt, holdsAt]
  | _ => simp [bare]

/-! ## Reading the interpreted part -/

theorem readPercent_interpreted (j : Json) :
    ReadAlike bare (readPercent (j.interpreted .percent)) (readPercent j) := by
  cases j with
  | obj members =>
      have hrule := PercentRule.ofJson_interpreted (.obj members)
      rw [interpreted] at hrule ⊢
      simp only [readPercent, hrule]
      exact .refl bare _
  | arr items =>
      rw [interpreted]
      exact .read (by rw [bare, bare])
  | _ =>
      rw [interpreted]
      · exact .refl bare _
      all_goals simp

theorem readSignal_interpreted (j : Json) :
    (readSignal (j.interpreted .comparison)).bare = (readSignal j).bare := by
  cases j with
  | obj members =>
      have hfield (key : String) (h : Role.comparison.member? key = some .whole) :=
        field_interpretedMembers .comparison key h members
      simp only [interpreted_whole] at hfield
      simp only [interpreted, readSignal, hfield "customSignalOperator" rfl,
        hfield "customSignalKey" rfl, hfield "targetCustomSignalValues" rfl]
      cases readTargets ((Json.obj members).field "targetCustomSignalValues") <;> simp [bare]
  | _ => simp [interpreted, readSignal, bare]

theorem listed_interpreted (payload : Json) :
    listed (payload.interpreted .combination) =
      (listed payload).map fun j => j.interpreted .condition := by
  have hfield := field_interpreted .combination "conditions" rfl payload
  rw [listed, hfield, listed]
  cases payload.field "conditions" with
  | arr items => simp only [interpreted, interpretedItems_eq_map, Role.item]
  | _ => simp [interpreted]

theorem readItems_interpreted {items : List Json}
    (h : ∀ j ∈ items, ReadAlike bare (ofJson (j.interpreted .condition)) (ofJson j)) :
    ReadAlike (List.map bare) (readItems (items.map fun j => j.interpreted .condition))
      (readItems items) := by
  induction items with
  | nil => exact .refl _ _
  | cons j rest ih =>
      rw [List.forall_mem_cons] at h
      have hj := h.1
      have hrest := ih h.2
      rw [List.map_cons, readItems, readItems]
      generalize ofJson (j.interpreted .condition) = r, ofJson j = s at hj
      generalize readItems (rest.map fun j => j.interpreted .condition) = rs,
        readItems rest = ss at hrest
      cases hj with
      | refused e e' => exact .refused e e'
      | read hj =>
          cases hrest with
          | refused e e' => exact .refused e e'
          | read hrest => exact .read (by rw [List.map_cons, List.map_cons, hj, hrest])

theorem combine_alike {node : List Condition → Condition}
    (hnode : ∀ conditions, (node conditions).bare = node (conditions.map bare))
    {r s : Except Fault (List Condition)} (h : ReadAlike (List.map bare) r s) :
    ReadAlike bare (combine node r) (combine node s) := by
  cases h with
  | refused e e' => exact .refused e e'
  | read alike => exact .read (by rw [hnode, hnode, alike])

/-- The role of the payload of a variant. -/
def Variant.role : Variant → Role
  | .any | .all => .combination
  | .always | .never => .ignored
  | .percent => .percent
  | .signal => .comparison

theorem Variant.member?_key (v : Variant) : Role.condition.member? v.key = some v.role := by
  cases v <;> decide

theorem variant?_interpreted (j : Json) : variant? (j.interpreted .condition) = variant? j := by
  simp only [variant?, field_interpreted .condition _ (Variant.member?_key _), isNull_interpreted]

/-- But for what unrecognised conditions keep, a condition is read from the interpreted part of its
value. -/
theorem ofJson_interpreted (j : Json) :
    ReadAlike bare (ofJson (j.interpreted .condition)) (ofJson j) := by
  have hpayload (v : Variant) := field_interpreted .condition v.key v.member?_key j
  rw [ofJson_eq_variant, ofJson_eq_variant, variant?_interpreted]
  cases hv : variant? j with
  | none => exact .read (by rw [bare, bare])
  | some v =>
      cases v with
      | any =>
          simp only [hpayload, Variant.role, listed_interpreted]
          apply combine_alike bare_any
          exact readItems_interpreted fun sub hmem => ofJson_interpreted sub
      | all =>
          simp only [hpayload, Variant.role, listed_interpreted]
          apply combine_alike bare_all
          exact readItems_interpreted fun sub hmem => ofJson_interpreted sub
      | always | never => exact .refl bare _
      | percent =>
          simp only [hpayload, Variant.role]
          exact readPercent_interpreted _
      | signal =>
          simp only [hpayload, Variant.role]
          exact .read (readSignal_interpreted _)
termination_by sizeOf j
decreasing_by
  all_goals exact sizeOf_lt_of_mem_listed_field hmem

end Condition

end Rollout
