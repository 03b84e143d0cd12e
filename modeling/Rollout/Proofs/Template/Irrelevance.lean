import Rollout.Proofs.Condition.Bare
import Rollout.Session

/-!
# Members that are not interpreted

Templates with the same interpreted part are accepted or refused together, and every session answers
an evaluation alike whichever of them it keeps. Groups of parameters, versions, tags, types and
descriptions are not interpreted, and neither is any member that the reader does not know.

## Implementation notes

Templates are compared through their bare form, which is all that an evaluation looks at. A template
is read from the interpreted part of its value but for what the bare form forgets, so two values
with the same interpreted part give the same bare template.
-/

namespace Rollout

open Json

/-! ## Parameters -/

namespace ParameterValue

theorem ofJson?_interpreted (j : Json) : ofJson? (j.interpreted .value) = ofJson? j := by
  cases j with
  | obj members =>
      have hfield (key : String) (h : Role.value.member? key = some .whole) :=
        field_interpretedMembers .value key h members
      simp only [interpreted_whole] at hfield
      simp only [interpreted, ofJson?, hfield "value" rfl,
        hfield "useInAppDefault" rfl]
  | _ => simp [interpreted, ofJson?]

end ParameterValue

namespace Parameter

/-- A parameter without its declared type and its description. -/
def bare (p : Parameter) : Parameter := { p with valueType := .unspecified, description := .null }

theorem isSet_interpreted_values (j : Json) : (j.interpreted .values).isSet = j.isSet := by
  cases j with
  | arr items => cases items <;> simp [interpreted, interpretedItems, isSet]
  | obj members => cases members <;> simp [interpreted, interpretedMembers, Role.member?, isSet]
  | _ => simp [interpreted]

theorem readConditional_interpreted (members : List (String × Json)) :
    readConditional (interpretedMembers members .values) = readConditional members := by
  induction members with
  | nil => rfl
  | cons e rest ih =>
      obtain ⟨name, j⟩ := e
      simp only [interpretedMembers, Role.member?, readConditional,
        ParameterValue.ofJson?_interpreted, ih]

theorem conditionalMembers_interpreted (key : String) (j : Json) :
    ReadAlike readConditional (conditionalMembers key (j.interpreted .values))
      (conditionalMembers key j) := by
  simp only [conditionalMembers, isSet_interpreted_values]
  cases j.isSet with
  | false => exact .refl _ _
  | true =>
      cases j with
      | obj members =>
          simp only [interpreted]
          exact .read (readConditional_interpreted members)
      | _ =>
          simp only [interpreted]
          exact .refused _ _

theorem ofJson_interpreted (key : String) (j : Json) :
    ReadAlike bare (ofJson key (j.interpreted .parameter)) (ofJson key j) := by
  cases j with
  | obj members =>
      have hdefault := field_interpretedMembers .parameter "defaultValue" rfl members
      have hvalues := field_interpretedMembers .parameter "conditionalValues" rfl members
      have hread := conditionalMembers_interpreted key
        ((Json.obj members).field "conditionalValues")
      simp only [interpreted, ofJson, hdefault, hvalues, ParameterValue.ofJson?_interpreted]
      generalize conditionalMembers key
        (((Json.obj members).field "conditionalValues").interpreted .values) = r,
        conditionalMembers key ((Json.obj members).field "conditionalValues") = s at hread
      cases hread with
      | refused e e' => exact .refused e e'
      | read alike => exact .read (by simp only [bare, alike])
  | _ =>
      simp only [interpreted]
      exact .refused _ _

end Parameter

/-! ## Templates -/

/-- A named condition without the values that unrecognised conditions keep. -/
def NamedCondition.bare (named : NamedCondition) : NamedCondition :=
  { named with condition := named.condition.bare }

/-- Parameters without their declared types and descriptions. -/
def Parameters.bare (parameters : Parameters) : Parameters :=
  parameters.map fun e => (e.1, e.2.bare)

namespace Template

/-- The part of a template that an evaluation looks at. -/
def bare (t : Template) : Template :=
  { conditions := t.conditions.map NamedCondition.bare
    parameters := t.parameters.bare
    parameterGroups := .null
    version := .null
    etag := ""
    source := .null }

theorem readParameters_interpreted (members : List (String × Json)) :
    ReadAlike Parameters.bare (readParameters (interpretedMembers members .parameters))
      (readParameters members) := by
  induction members with
  | nil => exact .refl _ _
  | cons e rest ih =>
      obtain ⟨key, j⟩ := e
      have hj := Parameter.ofJson_interpreted key j
      simp only [interpretedMembers, Role.member?, readParameters]
      generalize Parameter.ofJson key (j.interpreted .parameter) = r,
        Parameter.ofJson key j = s at hj
      generalize readParameters (interpretedMembers rest .parameters) = rs,
        readParameters rest = ss at ih
      cases hj with
      | refused e e' => exact .refused _ _
      | read hj =>
          cases ih with
          | refused e e' => exact .refused e e'
          | read hrest =>
              rw [Parameters.bare, Parameters.bare] at hrest
              exact .read (by simp only [Parameters.bare, List.map_cons, hj, hrest])

theorem readCondition_interpreted (j : Json) :
    ReadAlike NamedCondition.bare (readCondition (j.interpreted .declaration))
      (readCondition j) := by
  have hname := field_interpreted .declaration "name" rfl j
  have hcondition := field_interpreted .declaration "condition" rfl j
  have hread := Condition.ofJson_interpreted (j.field "condition")
  rw [interpreted_whole] at hname
  simp only [readCondition, hname, hcondition]
  generalize Condition.ofJson ((j.field "condition").interpreted .condition) = r,
    Condition.ofJson (j.field "condition") = s at hread
  cases (j.field "name").text? with
  | some name =>
      cases hread with
      | refused e e' => exact .refused _ _
      | read alike => exact .read (by simp only [NamedCondition.bare, alike])
  | none => exact .refused _ _

theorem readConditions_interpreted (items : List Json) :
    ReadAlike (List.map NamedCondition.bare) (readConditions (interpretedItems items .declaration))
      (readConditions items) := by
  induction items with
  | nil => exact .refl _ _
  | cons j rest ih =>
      have hj := readCondition_interpreted j
      simp only [interpretedItems, readConditions]
      generalize readCondition (j.interpreted .declaration) = r, readCondition j = s at hj
      generalize readConditions (interpretedItems rest .declaration) = rs,
        readConditions rest = ss at ih
      cases hj with
      | refused e e' => exact .refused e e'
      | read hj =>
          cases ih with
          | refused e e' => exact .refused e e'
          | read hrest => exact .read (by rw [List.map_cons, List.map_cons, hj, hrest])

theorem parametersOf_interpreted (j : Json) :
    ReadAlike Parameters.bare (parametersOf (j.interpreted .template)) (parametersOf j) := by
  rw [parametersOf, field?_interpreted (r := .parameters) rfl, parametersOf]
  cases j.field? "parameters" with
  | none => exact .refl _ _
  | some declared =>
      cases declared with
      | obj members =>
          simp only [Option.map_some, interpreted]
          exact readParameters_interpreted members
      | _ =>
          simp only [Option.map_some, interpreted]
          exact .refused _ _

theorem conditionsOf_interpreted (j : Json) :
    ReadAlike (List.map NamedCondition.bare) (conditionsOf (j.interpreted .template))
      (conditionsOf j) := by
  rw [conditionsOf, field?_interpreted (r := .declarations) rfl, conditionsOf]
  cases j.field? "conditions" with
  | none => exact .refl _ _
  | some declared =>
      cases declared with
      | arr items =>
          simp only [Option.map_some, interpreted]
          exact readConditions_interpreted items
      | _ =>
          simp only [Option.map_some, interpreted]
          exact .refused _ _

/-- A template is read from the interpreted part of its value, but for what an evaluation does not
look at. -/
theorem ofJson_interpreted (j : Json) :
    ReadAlike bare (ofJson (j.interpreted .template)) (ofJson j) := by
  have hparameters := parametersOf_interpreted j
  have hconditions := conditionsOf_interpreted j
  cases j with
  | obj members =>
      simp only [interpreted, ofJson] at hparameters hconditions ⊢
      generalize parametersOf (.obj (interpretedMembers members .template)) = p,
        parametersOf (.obj members) = p' at hparameters
      generalize conditionsOf (.obj (interpretedMembers members .template)) = cs,
        conditionsOf (.obj members) = cs' at hconditions
      cases hparameters with
      | refused e e' => exact .refused e e'
      | read hparameters =>
          cases hconditions with
          | refused e e' => exact .refused e e'
          | read hconditions => exact .read (by simp only [bare, hparameters, hconditions])
  | _ =>
      simp only [interpreted]
      exact .refused _ _

/-- The value that a source holds: the one that is read from a text, or else the source. -/
def held (source : Json) : Except ReadError Json :=
  match source.text? with
  | some text => Json.read text
  | none => .ok source

theorem ofSource_of_held {source j : Json} (h : held source = .ok j) : ofSource source = ofJson j := by
  rw [held] at h
  rw [ofSource]
  cases htext : source.text? with
  | some text =>
      rw [htext] at h
      simp only [ofText, h]
  | none =>
      rw [htext] at h
      cases h
      rfl

end Template

/-! ## Evaluation -/

namespace Config

variable {verdicts : Verdicts}

theorem conditionalValue?_bare (p : Parameter) (conditions : List NamedCondition) :
    conditionalValue? verdicts p.bare (conditions.map NamedCondition.bare) =
      conditionalValue? verdicts p conditions := by
  induction conditions with
  | nil => rfl
  | cons named rest ih =>
      rw [List.map_cons, conditionalValue?, conditionalValue?, ih]
      rfl

theorem putParameters_bare (conditions : List NamedCondition) (entries : List (String × Value))
    (parameters : Parameters) :
    putParameters verdicts (conditions.map NamedCondition.bare) entries parameters.bare =
      putParameters verdicts conditions entries parameters := by
  induction parameters generalizing entries with
  | nil => rfl
  | cons e rest ih =>
      obtain ⟨key, p⟩ := e
      have hchosen : chosenValue? verdicts (conditions.map NamedCondition.bare) p.bare =
          chosenValue? verdicts conditions p := by
        rw [chosenValue?, conditionalValue?_bare]
        rfl
      rw [putParameters, ← ih, ← hchosen]
      rfl

/-- An evaluation looks at nothing else than the bare form of a template. -/
theorem evaluate_bare (defaults : Defaults) (t : Template) (c : Context) :
    evaluate defaults t.bare c = evaluate defaults t c := by
  have hverdicts : Verdicts.extend c [] (t.conditions.map NamedCondition.bare) =
      Verdicts.extend c [] t.conditions := by
    apply Verdicts.extend_congr
    rw [List.forall₂_map_left_iff, List.forall₂_same]
    exact fun named _ => ⟨rfl, named.condition.holdsAt_bare c 0⟩
  simp only [evaluate, Verdicts.ofConditions, Template.bare, hverdicts, putParameters_bare]

end Config

namespace Session

theorem evaluate_keep_congr {t t' : Template} (h : t'.bare = t.bare) (s : Session)
    (x : ContextSource) : (s.keep t').evaluate x = (s.keep t).evaluate x := by
  have hin : (s.keep t').evaluateIn = (s.keep t).evaluateIn := by
    funext c
    cases c with
    | error e => rfl
    | ok c =>
        simp only [evaluateIn, keep]
        rw [← Config.evaluate_bare, h, Config.evaluate_bare]
  cases x <;> simp only [evaluate, hin]

/-- When a template is accepted, so is every one with the same interpreted part, and a session that
keeps the one evaluates as if it kept the other, over all defaults and in all contexts. -/
theorem evaluation_ignores_uninterpreted {source source' j j' : Json} {t : Template}
    (hj : Template.held source = .ok j) (hj' : Template.held source' = .ok j')
    (hsame : j'.interpreted .template = j.interpreted .template)
    (ht : Template.ofSource source = .ok t) :
    ∃ t', Template.ofSource source' = .ok t' ∧
      ∀ (s : Session) (x : ContextSource), (s.keep t').evaluate x = (s.keep t).evaluate x := by
  rw [Template.ofSource_of_held hj] at ht
  rw [Template.ofSource_of_held hj']
  have halike := (Template.ofJson_interpreted j).symm.trans
    (hsame ▸ Template.ofJson_interpreted j')
  rw [ht] at halike
  obtain ⟨t', ht', hbare⟩ := halike.of_ok
  exact ⟨t', ht', evaluate_keep_congr hbare.symm⟩

/-- A template with a condition of which one part is not recognised, and a parameter. -/
def unadorned : Json :=
  .obj [("conditions", .arr [.obj [("name", .str "c"), ("condition", .obj [("orCondition",
      .obj [("conditions", .arr [.obj [("later", .int 1)], .obj [("true", .obj [])]])])])]]),
    ("parameters", .obj [("p", .obj [("conditionalValues", .obj [("c", .obj
      [("value", .str "on")])])])])]

/-- The template with a version, a tag and groups, a color, a part that is still not recognised, a
type and a description. -/
def adorned : Json :=
  .obj [("version", .arr [.null]), ("conditions", .arr [.obj [("tagColor", .str "BLUE"),
      ("name", .str "c"), ("condition", .obj [("note", .null), ("orCondition",
        .obj [("conditions", .arr [.obj [("soon", .obj [])],
          .obj [("true", .obj [("a", .int 1)])]])])])]]),
    ("etag", .int 5), ("parameters", .obj [("p", .obj [("valueType", .arr [.int 7]),
      ("conditionalValues", .obj [("c", .obj [("value", .str "on"), ("unit", .str "s")])]),
      ("description", .obj [("en", .str "p")])])]),
    ("parameterGroups", .bool true)]

/-- The adorned template is accepted like the plain one and evaluated to the same configuration. -/
theorem adorned_evaluates_alike :
    ∃ t t' config, Template.ofSource unadorned = .ok t ∧ Template.ofSource adorned = .ok t' ∧
      ((empty [] none).keep t).evaluate (.flat .null) = .ok config ∧
      config.get "p" = .ofText .remote "on" ∧
      ((empty [] none).keep t').evaluate (.flat .null) = .ok config := by
  have hsame : adorned.interpreted .template = unadorned.interpreted .template := rfl
  obtain ⟨t, config, ht, hconfig, hvalue⟩ : ∃ t config, Template.ofSource unadorned = .ok t ∧
      ((empty [] none).keep t).evaluate (.flat .null) = .ok config ∧
        config.get "p" = .ofText .remote "on" :=
    ⟨_, _, rfl, rfl, rfl⟩
  have hunadorned : Template.held unadorned = .ok unadorned := rfl
  have hadorned : Template.held adorned = .ok adorned := rfl
  obtain ⟨t', ht', hevaluate⟩ := evaluation_ignores_uninterpreted hunadorned hadorned hsame ht
  exact ⟨t, t', config, ht, ht', hconfig, hvalue, (hevaluate _ _).trans hconfig⟩

end Session

end Rollout
