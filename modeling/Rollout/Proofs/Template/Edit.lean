import Rollout.Proofs.Template.Grammar

/-!
# Edits of a template

Parameters and their conditional values stand in an order that means nothing, a conditional value
under an undeclared name or without content is never come to, and a condition that does not hold
leaves everything to the others. An edited template is read part by part like the one before: only
the part that was edited is different.
-/

namespace Rollout

open Entries

namespace Json

/-- An object with a member put into it. -/
def set (j : Json) (key : String) (value : Json) : Json :=
  match j with
  | .obj members => .obj (put members key value)
  | j => j

theorem exists_obj_set {j : Json} (h : ∃ members, j = .obj members) (key : String) (value : Json) :
    ∃ members, j.set key value = .obj members := by
  obtain ⟨members, rfl⟩ := h
  exact ⟨_, rfl⟩

theorem field?_set {j : Json} (h : ∃ members, j = .obj members) (key : String) (value : Json)
    (k : String) : (j.set key value).field? k = if key == k then some value else j.field? k := by
  obtain ⟨members, rfl⟩ := h
  exact find?_put members key k value

end Json

/-! ## Conditional values -/

namespace ParameterValue

/-- A value without content: it does not leave the choice to the application, and it has no text. -/
def Vacant (j : Json) : Prop :=
  choosesInApp (j.field "useInAppDefault") = false ∧ j.field "value" = .null

theorem ofJson?_eq_none_iff (j : Json) : ofJson? j = none ↔ Vacant j := by
  cases j with
  | obj members =>
      simp only [ofJson?, Vacant, ← Json.isNull_iff]
      cases choosesInApp ((Json.obj members).field "useInAppDefault") <;> simp
  | _ => exact iff_of_true rfl ⟨rfl, rfl⟩

end ParameterValue

namespace Parameter

/-- The conditional values that a parameter declares. -/
def valueMembers (p : Json) : List (String × Json) :=
  match p.field "conditionalValues" with
  | .obj members => members
  | _ => []

theorem conditionalMembers_ok {key : String} {p : Json} {values : List (String × Json)}
    (h : conditionalMembers key (p.field "conditionalValues") = .ok values) :
    values = valueMembers p := by
  rw [valueMembers]
  unfold conditionalMembers at h
  generalize p.field "conditionalValues" = declared at h
  cases declared with
  | obj members =>
      cases members with
      | nil => exact (Except.ok.inj h).symm
      | cons e rest => exact (Except.ok.inj h).symm
  | _ =>
      split at h
      · exact (Except.ok.inj h).symm
      · cases h

theorem conditionalMembers_obj (key : String) (values : List (String × Json)) :
    conditionalMembers key (.obj values) = .ok values := by
  cases values <;> rfl

theorem conditional_of_ofJson {key : String} {p : Json} {q : Parameter}
    (h : ofJson key p = .ok q) : q.conditional = readConditional (valueMembers p) := by
  unfold ofJson at h
  split at h
  · split at h
    · cases h
    · rename_i hvalues
      cases h
      rw [conditionalMembers_ok hvalues]
  · cases h

/-- A parameter can be given any other conditional values. -/
theorem ofJson_set_values {key : String} {p : Json} {q : Parameter} (h : ofJson key p = .ok q)
    (values : List (String × Json)) :
    ∃ q', ofJson key (p.set "conditionalValues" (.obj values)) = .ok q' ∧ q'.default = q.default ∧
      q'.conditional = readConditional values := by
  have hobject : ∃ members, p = .obj members := ((ofJson_ok_iff key p).mp ⟨q, h⟩).1
  obtain ⟨members', hmembers'⟩ := Json.exists_obj_set hobject "conditionalValues" (.obj values)
  have hfield : ∀ k, (p.set "conditionalValues" (.obj values)).field k =
      if "conditionalValues" == k then .obj values else p.field k := by
    intro k
    rw [Json.field_eq_getD, Json.field?_set hobject, Json.field_eq_getD]
    split <;> rfl
  obtain ⟨members, rfl⟩ := hobject
  rw [hmembers'] at hfield ⊢
  unfold ofJson at h ⊢
  dsimp only at h ⊢
  simp only [hfield, beq_self_eq_true, if_true, conditionalMembers_obj]
  split at h
  · cases h
  · cases h
    exact ⟨_, rfl, rfl, rfl⟩

theorem find?_readConditional {values : List (String × Json)} (hk : (keys values).Nodup)
    (name : String) :
    find? (readConditional values) name = (find? values name).bind ParameterValue.ofJson? := by
  induction values with
  | nil => rfl
  | cons e rest ih =>
      obtain ⟨n, j⟩ := e
      rw [keys_cons, List.nodup_cons] at hk
      have hrest := ih hk.2
      rw [readConditional, find?_cons]
      by_cases hn : n = name
      · subst hn
        have hlast : find? rest n = none := (find?_eq_none_iff rest n).2 hk.1
        rw [hlast] at hrest
        cases hj : ParameterValue.ofJson? j with
        | none => simpa [hj] using hrest
        | some value => simp [hj, find?_cons]
      · cases hj : ParameterValue.ofJson? j with
        | none => simpa [hn] using hrest
        | some value => simpa [hn, find?_cons] using hrest

end Parameter

namespace Template

variable {x y : Json} {t : Template} {c : Context}

/-- No condition of a template has the name. -/
def Undeclared (x : Json) (name : String) : Prop :=
  ∀ item ∈ conditionItems x, (item.field "name").text? ≠ some name

/-- A conditional value that is never come to: its name is not declared, or it has no content. -/
def Idle (x : Json) (e : String × Json) : Prop := Undeclared x e.1 ∨ ParameterValue.Vacant e.2

/-- Edits of conditional values: they are reordered, and idle ones are added or removed. -/
inductive ValuesEdit (x : Json) : List (String × Json) → List (String × Json) → Prop
  | reorder {values values' : List (String × Json)} (perm : values'.Perm values) :
      ValuesEdit x values values'
  | add {before after : List (String × Json)} {e : String × Json}
      (new : e.1 ∉ keys (before ++ after)) (idle : Idle x e) :
      ValuesEdit x (before ++ after) (before ++ e :: after)
  | remove {before after : List (String × Json)} {e : String × Json} (idle : Idle x e) :
      ValuesEdit x (before ++ e :: after) (before ++ after)

/-- Edits of a template that change no value in a context: the parameters are reordered, the
conditional values of one of them are edited, or a condition under a new name that does not hold is
declared at some place. -/
inductive Edit (c : Context) (x : Json) : Json → Prop
  | parameters {members : List (String × Json)} (perm : members.Perm (parameterMembers x)) :
      Edit c x (x.set "parameters" (.obj members))
  | values {before after : List (String × Json)} {key : String} {p : Json}
      {values : List (String × Json)} (found : parameterMembers x = before ++ (key, p) :: after)
      (edit : ValuesEdit x (Parameter.valueMembers p) values) :
      Edit c x (x.set "parameters"
        (.obj (before ++ (key, p.set "conditionalValues" (.obj values)) :: after)))
  | condition {before after : List Json} {item : Json} {named : NamedCondition}
      (found : conditionItems x = before ++ after) (read : readCondition item = .ok named)
      (fresh : Undeclared x named.name) (unmet : named.condition.holds c = .ok false) :
      Edit c x (x.set "conditions" (.arr (before ++ item :: after)))

/-- Neither the parameters of a template nor the conditional values of one of them give a key
twice. -/
structure Keyed (x : Json) : Prop where
  parameters : (keys (parameterMembers x)).Nodup
  values : ∀ e ∈ parameterMembers x, (keys (Parameter.valueMembers e.2)).Nodup

theorem distinct_parameterMembers (h : x.Distinct) : (Json.obj (parameterMembers x)).Distinct := by
  unfold parameterMembers
  split
  · rename_i members hfound
    exact h.field? hfound
  · exact Json.distinct_obj_iff.2 ⟨List.nodup_nil, by simp⟩

theorem nodup_keys_valueMembers {p : Json} (h : p.Distinct) :
    (keys (Parameter.valueMembers p)).Nodup := by
  have hfield := h.field "conditionalValues"
  unfold Parameter.valueMembers
  split
  · rename_i members hvalues
    rw [hvalues] at hfield
    exact hfield.nodup_keys
  · exact List.nodup_nil

theorem keyed_of_distinct (h : x.Distinct) : Keyed x := by
  obtain ⟨hkeys, hvalues⟩ := Json.distinct_obj_iff.1 (distinct_parameterMembers h)
  exact ⟨hkeys, fun e he => nodup_keys_valueMembers (hvalues e he)⟩

/-! ## Edits of conditional values -/

theorem ValuesEdit.nodup {values values' : List (String × Json)} (h : ValuesEdit x values values')
    (hk : (keys values).Nodup) : (keys values').Nodup := by
  cases h with
  | reorder perm => exact (perm.map Prod.fst).nodup_iff.2 hk
  | add new _ => exact (nodup_keys_insert_iff _ _ _).2 ⟨new, hk⟩
  | remove _ => exact ((nodup_keys_insert_iff _ _ _).1 hk).2

/-- An idle value is not seen under any declared name. -/
theorem Idle.unseen {before after : List (String × Json)} {e : String × Json} (h : Idle x e)
    (hk : (keys (before ++ e :: after)).Nodup) {name : String} (hname : ¬ Undeclared x name) :
    (find? (before ++ e :: after) name).bind ParameterValue.ofJson? =
      (find? (before ++ after) name).bind ParameterValue.ofJson? := by
  by_cases hn : name = e.1
  · subst hn
    rcases h with hundeclared | hvacant
    · exact absurd hundeclared hname
    · have hnew := ((nodup_keys_insert_iff before after e).1 hk).1
      have hmem : e ∈ before ++ e :: after := List.mem_append_right before List.mem_cons_self
      rw [find?_of_mem hk hmem, (find?_eq_none_iff _ _).2 hnew]
      exact (ParameterValue.ofJson?_eq_none_iff e.2).2 hvacant
  · rw [find?_insert before after e hn]

theorem ValuesEdit.keeps_declared {values values' : List (String × Json)}
    (h : ValuesEdit x values values') (hk : (keys values).Nodup) {name : String}
    (hname : ¬ Undeclared x name) :
    (find? values' name).bind ParameterValue.ofJson? =
      (find? values name).bind ParameterValue.ofJson? := by
  have hk' := h.nodup hk
  cases h with
  | reorder perm => rw [find?_perm perm hk]
  | add _ idle => exact idle.unseen hk' hname
  | remove idle => exact (idle.unseen hk hname).symm

/-! ## Declared names -/

theorem names_of_ofJson (h : ofJson x = .ok t) :
    (conditionItems x).map (fun item => (item.field "name").text?) =
      t.conditions.map fun named => some named.name := by
  obtain ⟨_, _, hconditions⟩ := parts_of_ofJson h
  rw [← List.forall₂_eq_eq_eq, List.forall₂_map_left_iff, List.forall₂_map_right_iff]
  apply (readConditions_ok_iff_forall₂.mp hconditions).imp
  intro item named hread
  exact (readCondition_ok hread).1

theorem undeclared_iff (h : ofJson x = .ok t) (name : String) :
    Undeclared x name ↔ ∀ named ∈ t.conditions, named.name ≠ name := by
  have hnames : Undeclared x name ↔
      some name ∉ (conditionItems x).map fun item => (item.field "name").text? := by
    simp [Undeclared]
  rw [hnames, names_of_ofJson h]
  simp

/-! ## Edited templates -/

theorem forall₂_append_left_iff {α β : Type} {R : α → β → Prop} {before after : List α}
    {l : List β} :
    List.Forall₂ R (before ++ after) l ↔
      ∃ first second, List.Forall₂ R before first ∧ List.Forall₂ R after second ∧
        l = first ++ second := by
  induction before generalizing l with
  | nil => simp
  | cons a before ih =>
      rw [List.cons_append, List.forall₂_cons_left_iff]
      simp only [ih, List.forall₂_cons_left_iff]
      constructor
      · rintro ⟨b, _, hb, ⟨first, second, hfirst, hsecond, rfl⟩, rfl⟩
        exact ⟨b :: first, second, ⟨b, first, hb, hfirst, rfl⟩, hsecond, rfl⟩
      · rintro ⟨_, second, ⟨b, first, hb, hfirst, rfl⟩, hsecond, rfl⟩
        exact ⟨b, first ++ second, hb, ⟨first, second, hfirst, hsecond, rfl⟩, rfl⟩

theorem ofJson_set_parameters (h : ofJson x = .ok t) {members : List (String × Json)}
    {parameters : Parameters} (hread : readParameters members = .ok parameters) :
    ∃ u, ofJson (x.set "parameters" (.obj members)) = .ok u ∧ u.parameters = parameters ∧
      u.conditions = t.conditions := by
  obtain ⟨hobject, _, hconditions⟩ := ofJson_ok_iff_parts.mp ⟨t, h, rfl, rfl⟩
  rw [ofJson_ok_iff_parts]
  refine ⟨Json.exists_obj_set hobject _ _, ?_, ?_⟩
  · rw [parametersOf, Json.field?_set hobject]
    exact hread
  · rw [conditionsOf, Json.field?_set hobject]
    exact hconditions

theorem ofJson_set_conditions (h : ofJson x = .ok t) {items : List Json}
    {conditions : List NamedCondition} (hread : readConditions items = .ok conditions) :
    ∃ u, ofJson (x.set "conditions" (.arr items)) = .ok u ∧ u.parameters = t.parameters ∧
      u.conditions = conditions := by
  obtain ⟨hobject, hparameters, _⟩ := ofJson_ok_iff_parts.mp ⟨t, h, rfl, rfl⟩
  rw [ofJson_ok_iff_parts]
  refine ⟨Json.exists_obj_set hobject _ _, ?_, ?_⟩
  · rw [parametersOf, Json.field?_set hobject]
    exact hparameters
  · rw [conditionsOf, Json.field?_set hobject]
    exact hread

/-- A further condition is read to its place among the others. -/
theorem ofJson_insert_condition (h : ofJson x = .ok t) {before after : List Json} {item : Json}
    {named : NamedCondition} (found : conditionItems x = before ++ after)
    (read : readCondition item = .ok named) :
    ∃ u first second, ofJson (x.set "conditions" (.arr (before ++ item :: after))) = .ok u ∧
      u.parameters = t.parameters ∧ t.conditions = first ++ second ∧
      u.conditions = first ++ named :: second ∧ second.length = after.length := by
  obtain ⟨_, _, hconditions⟩ := parts_of_ofJson h
  rw [found, readConditions_ok_iff_forall₂, forall₂_append_left_iff] at hconditions
  obtain ⟨first, second, hfirst, hsecond, hsplit⟩ := hconditions
  have hread : readConditions (before ++ item :: after) = .ok (first ++ named :: second) := by
    rw [readConditions_ok_iff_forall₂, forall₂_append_left_iff]
    exact ⟨first, named :: second, hfirst, .cons read hsecond, rfl⟩
  obtain ⟨u, hu, hparameters, hconditions⟩ := ofJson_set_conditions h hread
  exact ⟨u, first, second, hu, hparameters, hsplit, hconditions, hsecond.length_eq.symm⟩

/-! ## Distinct keys -/

theorem Keyed.set_parameters (hobject : ∃ members, x = .obj members) {members : List (String × Json)}
    (hkeys : (keys members).Nodup)
    (hvalues : ∀ e ∈ members, (keys (Parameter.valueMembers e.2)).Nodup) :
    Keyed (x.set "parameters" (.obj members)) := by
  have hmembers : parameterMembers (x.set "parameters" (.obj members)) = members := by
    rw [parameterMembers, Json.field?_set hobject]
    rfl
  constructor
  · rwa [hmembers]
  · rwa [hmembers]

theorem Keyed.set_conditions (hobject : ∃ members, x = .obj members) (h : Keyed x)
    (items : List Json) : Keyed (x.set "conditions" (.arr items)) := by
  have hmembers : parameterMembers (x.set "conditions" (.arr items)) = parameterMembers x := by
    rw [parameterMembers, Json.field?_set hobject]
    rfl
  constructor
  · rw [hmembers]
    exact h.parameters
  · rw [hmembers]
    exact h.values

theorem valueMembers_set_values {p : Json} (hobject : ∃ members, p = .obj members)
    (values : List (String × Json)) :
    Parameter.valueMembers (p.set "conditionalValues" (.obj values)) = values := by
  rw [Parameter.valueMembers, Json.field_eq_getD, Json.field?_set hobject]
  rfl

theorem Edit.keeps_keyed (hobject : ∃ members, x = .obj members) (hx : Keyed x)
    (h : Edit c x y) (hvalues : ∀ e ∈ parameterMembers x, ∃ members, e.2 = .obj members) :
    Keyed y := by
  cases h with
  | parameters perm =>
      apply Keyed.set_parameters hobject
      · exact (perm.map Prod.fst).nodup_iff.2 hx.parameters
      · intro e he
        exact hx.values e (perm.mem_iff.1 he)
  | @values before after key p values found edit =>
      have hkeys := hx.parameters
      have hall := hx.values
      rw [found] at hkeys hall hvalues
      rw [List.forall_mem_append, List.forall_mem_cons] at hall hvalues
      apply Keyed.set_parameters hobject
      · simpa [keys] using hkeys
      · rw [List.forall_mem_append, List.forall_mem_cons]
        refine ⟨hall.1, ?_, hall.2.2⟩
        rw [valueMembers_set_values hvalues.2.1]
        exact edit.nodup hall.2.1
  | condition found read fresh unmet => exact Keyed.set_conditions hobject hx _

end Template

end Rollout
