import Mathlib.Data.List.Forall2
import Rollout.Proofs.Config.Resolution
import Rollout.Proofs.Json.Legible
import Rollout.Proofs.Template.Acceptance

/-!
# The grammar of templates

A template is an object. Its parameters, if it has any, are an object of objects whose conditional
values are an object or not set, and its conditions are a list of entries with names. The grammar
speaks of nothing else: it can be told from an outline in which nothing is left that conditions,
values, types, tags, versions and groups contain.
-/

namespace Rollout

open Entries

namespace Template

variable {j : Json} {t : Template} {parameters : Parameters} {conditions : List NamedCondition}

/-- The parameters that a template declares. -/
def parameterMembers (j : Json) : List (String × Json) :=
  match j.field? "parameters" with
  | some (.obj members) => members
  | _ => []

/-- The entries that a template lists as its conditions. -/
def conditionItems (j : Json) : List Json :=
  match j.field? "conditions" with
  | some (.arr items) => items
  | _ => []

/-- The shape of the conditions of a template: if there are any, a list of named entries. -/
def ConditionsAccepted (j : Json) : Prop :=
  ∀ declared, j.field? "conditions" = some declared →
    ∃ items, declared = .arr items ∧ ∀ item ∈ items, Named item

/-- The grammar of templates. -/
structure Grammatical (j : Json) : Prop where
  object : ∃ members, j = .obj members
  parameters : ParametersAccepted j
  conditions : ConditionsAccepted j

/-- The numbers of a template keep within bounds: no condition that it lists has an infinite one,
and no integer in it is too long to be written. -/
structure Bounded (j : Json) : Prop where
  finite : ∀ item ∈ conditionItems j, ¬ Condition.InfiniteBound (item.field "condition")
  short : j.Short

theorem ParametersAccepted.of_mem (h : ParametersAccepted j) {e : String × Json}
    (he : e ∈ parameterMembers j) : Parameter.Accepted e.2 := by
  unfold parameterMembers at he
  split at he
  · rename_i members hfound
    obtain ⟨_, heq, haccepted⟩ := h _ hfound
    cases heq
    exact haccepted e he
  · cases he

theorem ConditionsAccepted.of_mem (h : ConditionsAccepted j) {item : Json}
    (hitem : item ∈ conditionItems j) : Named item := by
  unfold conditionItems at hitem
  split at hitem
  · rename_i items hfound
    obtain ⟨_, heq, hnamed⟩ := h _ hfound
    cases heq
    exact hnamed item hitem
  · cases hitem

/-! ## Accepted templates -/

theorem readCondition_ok {item : Json} {named : NamedCondition}
    (h : readCondition item = .ok named) :
    (item.field "name").text? = some named.name ∧
      Condition.ofJson (item.field "condition") = .ok named.condition := by
  unfold readCondition at h
  split at h
  · rename_i hname
    split at h
    · cases h
    · rename_i hcondition
      cases h
      exact ⟨hname, hcondition⟩
  · cases h

/-- The parameters that are read are those of the members, one by one. -/
theorem readParameters_ok_iff_forall₂ {members : List (String × Json)} :
    readParameters members = .ok parameters ↔
      List.Forall₂ (fun e e' => e.1 = e'.1 ∧ Parameter.ofJson e.1 e.2 = .ok e'.2) members
        parameters := by
  induction members generalizing parameters with
  | nil => simp [readParameters, eq_comm]
  | cons e rest ih =>
      obtain ⟨key, p⟩ := e
      rw [readParameters, List.forall₂_cons_left_iff]
      simp only [← ih]
      constructor
      · intro h
        split at h
        · cases h
        · rename_i q hq
          split at h
          · cases h
          · rename_i more hmore
            exact ⟨(key, q), more, ⟨rfl, hq⟩, hmore, (Except.ok.inj h).symm⟩
      · rintro ⟨⟨_, q⟩, more, ⟨rfl, hq⟩, hmore, rfl⟩
        simp only [hq, hmore]

/-- The conditions that are read are those of the entries, one by one. -/
theorem readConditions_ok_iff_forall₂ {items : List Json} :
    readConditions items = .ok conditions ↔
      List.Forall₂ (fun item named => readCondition item = .ok named) items conditions := by
  induction items generalizing conditions with
  | nil => simp [readConditions, eq_comm]
  | cons item rest ih =>
      rw [readConditions, List.forall₂_cons_left_iff]
      simp only [← ih]
      constructor
      · intro h
        split at h
        · cases h
        · rename_i named hnamed
          split at h
          · cases h
          · rename_i more hmore
            exact ⟨named, more, hnamed, hmore, (Except.ok.inj h).symm⟩
      · rintro ⟨named, more, hnamed, hmore, rfl⟩
        simp only [hnamed, hmore]

theorem conditionsAccepted_of_conditionsOf (h : conditionsOf j = .ok conditions) :
    ConditionsAccepted j := by
  intro declared hfound
  unfold conditionsOf at h
  rw [hfound] at h
  split at h
  · rename_i hnone
    cases hnone
  · rename_i items hitems
    cases hitems
    have hnamed : List.Forall₂ (fun item named => Named item ∧ readCondition item = .ok named) items
        conditions := by
      apply (readConditions_ok_iff_forall₂.mp h).imp
      intro item named hread
      exact ⟨⟨named.name, (readCondition_ok hread).1⟩, hread⟩
    exact ⟨items, rfl, ((List.forall₂_and_left items conditions).mp hnamed).1⟩
  · cases h
  · cases h

theorem readParameters_of_parametersOf (h : parametersOf j = .ok parameters) :
    readParameters (parameterMembers j) = .ok parameters := by
  unfold parametersOf at h
  rw [parameterMembers]
  split at h
  · rename_i hfound
    rw [hfound]
    exact h
  · rename_i members hfound
    rw [hfound]
    exact h
  · cases h

theorem readConditions_of_conditionsOf (h : conditionsOf j = .ok conditions) :
    readConditions (conditionItems j) = .ok conditions := by
  unfold conditionsOf at h
  rw [conditionItems]
  split at h
  · rename_i hfound
    rw [hfound]
    exact h
  · rename_i items hfound
    rw [hfound]
    exact h
  · cases h
  · cases h

/-- A template is accepted when its parameters and its conditions are. -/
theorem ofJson_ok_iff_parts :
    (∃ t, ofJson j = .ok t ∧ t.parameters = parameters ∧ t.conditions = conditions) ↔
      (∃ members, j = .obj members) ∧ parametersOf j = .ok parameters ∧
        conditionsOf j = .ok conditions := by
  constructor
  · rintro ⟨t, ht, rfl, rfl⟩
    unfold ofJson at ht
    split at ht
    · rename_i members
      split at ht
      · cases ht
      · rename_i hparameters
        split at ht
        · cases ht
        · rename_i hconditions
          cases ht
          exact ⟨⟨members, rfl⟩, hparameters, hconditions⟩
    · cases ht
  · rintro ⟨⟨members, rfl⟩, hparameters, hconditions⟩
    simp only [ofJson, hparameters, hconditions]
    exact ⟨_, rfl, rfl, rfl⟩

/-- A template that is accepted follows the grammar, and its parts are read from those of the
value. -/
theorem parts_of_ofJson (h : ofJson j = .ok t) :
    Grammatical j ∧ readParameters (parameterMembers j) = .ok t.parameters ∧
      readConditions (conditionItems j) = .ok t.conditions := by
  obtain ⟨hobject, hparameters, hconditions⟩ := ofJson_ok_iff_parts.mp ⟨t, h, rfl, rfl⟩
  refine ⟨⟨hobject, ?_, ?_⟩, ?_, ?_⟩
  · exact (parametersOf_ok_iff j).mp ⟨t.parameters, hparameters⟩
  · exact conditionsAccepted_of_conditionsOf hconditions
  · exact readParameters_of_parametersOf hparameters
  · exact readConditions_of_conditionsOf hconditions

end Template

/-! ## Outlines -/

namespace Json

/-- The members of an object for which there is a view, each through its view. -/
def viewed (views : List (String × (Json → Json))) : Json → Json
  | .obj members =>
    .obj (members.filterMap fun e => (views.lookup e.1).map fun view => (e.1, view e.2))
  | j => j

/-- An object with changed values. -/
def mapValues (f : Json → Json) : Json → Json
  | .obj members => .obj (members.map fun e => (e.1, f e.2))
  | j => j

/-- An array with changed items. -/
def mapItems (f : Json → Json) : Json → Json
  | .arr items => .arr (items.map f)
  | j => j

theorem field?_viewed {views : List (String × (Json → Json))} {key : String}
    (view : Json → Json) (h : views.lookup key = some view) (j : Json) :
    (j.viewed views).field? key = (j.field? key).map view := by
  cases j with
  | obj members =>
      simp only [viewed, field?]
      induction members with
      | nil => rfl
      | cons e rest ih =>
          obtain ⟨k, v⟩ := e
          rw [find?_cons]
          by_cases hk : k = key
          · subst hk
            simp [h, find?_cons]
          · cases hview : views.lookup k with
            | none => simpa [hview, hk] using ih
            | some view' => simpa [hview, hk, find?_cons] using ih
  | _ => rfl

theorem exists_obj_viewed_iff (views : List (String × (Json → Json))) (j : Json) :
    (∃ members, j.viewed views = .obj members) ↔ ∃ members, j = .obj members := by
  cases j <;> simp [viewed]

end Json

/-- What the grammar says of a parameter: whether its conditional values are refused. -/
def Parameter.outline : Json → Json :=
  Json.viewed [("conditionalValues", fun v => .bool (v.isSet && v.kind != .obj))]

theorem Parameter.accepted_outline_iff (p : Json) : Accepted (outline p) ↔ Accepted p := by
  have hvalues : ((outline p).field "conditionalValues").isSet = false ∨
      (∃ members, (outline p).field "conditionalValues" = .obj members) ↔
        (p.field "conditionalValues").isSet = false ∨
          ∃ members, p.field "conditionalValues" = .obj members := by
    rw [Json.field_eq_getD, outline, Json.field?_viewed _ rfl, Json.field_eq_getD]
    cases p.field? "conditionalValues" with
    | none => simp
    | some v => cases v <;> simp [Json.isSet, Json.kind]
  rw [Accepted, Accepted, hvalues, outline, Json.exists_obj_viewed_iff]

namespace Template

/-- What the grammar says of an entry of a list of conditions: its name. -/
def entryOutline : Json → Json := Json.viewed [("name", id)]

theorem named_outline_iff (item : Json) : Named (entryOutline item) ↔ Named item := by
  simp only [Named, Json.field_eq_getD, entryOutline]
  rw [Json.field?_viewed id rfl, Option.map_id]
  rfl

/-- What the grammar says of a template. Nothing that conditions, values, types, tags, versions and
groups contain is left. -/
def outline : Json → Json :=
  Json.viewed [("parameters", Json.mapValues Parameter.outline),
    ("conditions", Json.mapItems entryOutline)]

theorem parametersAccepted_outline_iff (j : Json) :
    ParametersAccepted (outline j) ↔ ParametersAccepted j := by
  rw [ParametersAccepted, outline,
    Json.field?_viewed (Json.mapValues Parameter.outline) rfl, ParametersAccepted]
  cases j.field? "parameters" with
  | none => simp
  | some declared =>
      cases declared with
      | obj members =>
          have hmembers : (∀ e ∈ members.map fun e => (e.1, Parameter.outline e.2),
              Parameter.Accepted e.2) ↔ ∀ e ∈ members, Parameter.Accepted e.2 := by
            simp only [List.forall_mem_map, Parameter.accepted_outline_iff]
          simp only [Option.map_some, Option.some.injEq, forall_eq', Json.mapValues,
            Json.obj.injEq, exists_eq_left', hmembers]
      | _ => simp [Json.mapValues]

theorem conditionsAccepted_outline_iff (j : Json) :
    ConditionsAccepted (outline j) ↔ ConditionsAccepted j := by
  rw [ConditionsAccepted, outline, Json.field?_viewed (Json.mapItems entryOutline) rfl,
    ConditionsAccepted]
  cases j.field? "conditions" with
  | none => simp
  | some declared =>
      cases declared with
      | arr items => simp [Json.mapItems, named_outline_iff]
      | _ => simp [Json.mapItems]

/-- The grammar speaks of nothing but the outline. -/
theorem grammatical_outline_iff (j : Json) : Grammatical (outline j) ↔ Grammatical j := by
  constructor
  · rintro ⟨hobject, hparameters, hconditions⟩
    refine ⟨?_, ?_, ?_⟩
    · exact (Json.exists_obj_viewed_iff _ j).mp hobject
    · exact (parametersAccepted_outline_iff j).mp hparameters
    · exact (conditionsAccepted_outline_iff j).mp hconditions
  · rintro ⟨hobject, hparameters, hconditions⟩
    refine ⟨?_, ?_, ?_⟩
    · exact (Json.exists_obj_viewed_iff _ j).mpr hobject
    · exact (parametersAccepted_outline_iff j).mpr hparameters
    · exact (conditionsAccepted_outline_iff j).mpr hconditions

end Template

end Rollout
