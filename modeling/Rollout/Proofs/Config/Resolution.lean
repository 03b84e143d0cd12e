import Rollout.Proofs.Config.Totality
import Rollout.Proofs.Json.Distinct

/-!
# What an evaluation gives for a key

The configuration of a template is described key by key, without the tables that an evaluation
goes through. The verdict under a name is that on the last condition of the name. The first
declared condition whose name has a true verdict and a value of the parameter decides, and the
default of the parameter counts only if there is none. A chosen text is remote; everything else
leaves the default of the application.

## Implementation notes

The keys of the parameters have to be distinct, because a parameter that leaves the choice to the
application does not undo an earlier parameter of its key. They are, since a template is read from
a value that gives no key twice.
-/

namespace Rollout

open Entries

namespace Template

/-- The verdict under a name, which is that on the last declared condition of the name. -/
def verdict (t : Template) (c : Context) (name : String) : Option Bool :=
  (t.conditions.reverse.find? fun named => named.name == name).bind fun named =>
    (named.condition.holds c).toOption

/-- The first declared condition whose name has a true verdict and a value of the parameter. -/
def deciding (t : Template) (c : Context) (p : Parameter) : Option NamedCondition :=
  t.conditions.find? fun named =>
    t.verdict c named.name == some true && (p.valueFor? named.name).isSome

/-- The value of a parameter for the condition that decides, or else its default. -/
def chosen (t : Template) (c : Context) (p : Parameter) : Option ParameterValue :=
  match t.deciding c p with
  | some named => p.valueFor? named.name
  | none => p.default

/-- The value of a key: the chosen text of its parameter, or else the declared default. -/
def resolved (t : Template) (c : Context) (declared : List (String × Json)) (key : String) :
    Value :=
  match (find? t.parameters key).bind (t.chosen c) with
  | some (.explicit text) => .ofText .remote text
  | _ =>
    match find? declared key with
    | some j => .ofText .default (Defaults.write j)
    | none => .absent

end Template

/-! ## Verdicts -/

namespace Verdicts

theorem find?_extend {c : Context} {conditions : List NamedCondition} {verdicts out : Verdicts}
    (h : extend c verdicts conditions = .ok out) (name : String) :
    find? out name =
      ((conditions.reverse.find? fun named => named.name == name).bind fun named =>
        (named.condition.holds c).toOption).or (find? verdicts name) := by
  induction conditions generalizing verdicts with
  | nil =>
      cases h
      rfl
  | cons named rest ih =>
      rw [extend] at h
      split at h
      · cases h
      rename_i b hb
      rw [ih h, find?_put, List.reverse_cons, List.find?_append]
      cases hl : rest.reverse.find? fun named => named.name == name with
      | none =>
          by_cases hn : named.name = name
          · simp [hn, hb, Except.toOption]
          · simp [hn]
      | some later =>
          have hmem := List.mem_reverse.1 (List.mem_of_find?_eq_some hl)
          have hfaults := (extend_ok_iff c _ rest).1 ⟨out, h⟩ later hmem
          obtain ⟨b', hb'⟩ := (Condition.holdsAt_ok_iff c later.condition 0).2 hfaults
          simp [Condition.holds, hb', Except.toOption]

theorem holds_ofConditions {c : Context} {t : Template} {verdicts : Verdicts}
    (h : ofConditions c t.conditions = .ok verdicts) (name : String) :
    verdicts.holds name = (t.verdict c name == some true) := by
  rw [holds, find?_extend h, Template.verdict, find?_nil, Option.or_none]
  cases (t.conditions.reverse.find? fun named => named.name == name).bind
    fun named => (named.condition.holds c).toOption with
  | none => rfl
  | some b => cases b <;> rfl

end Verdicts

/-! ## Parameters -/

namespace Config

variable {c : Context} {t : Template} {verdicts : Verdicts}

theorem conditionalValue?_eq (verdicts : Verdicts) (p : Parameter)
    (conditions : List NamedCondition) :
    conditionalValue? verdicts p conditions =
      (conditions.find? fun named =>
        verdicts.holds named.name && (p.valueFor? named.name).isSome).bind fun named =>
          p.valueFor? named.name := by
  induction conditions with
  | nil => rfl
  | cons named rest ih =>
      rw [conditionalValue?, List.find?_cons]
      cases hv : verdicts.holds named.name with
      | false => simpa using ih
      | true =>
          cases hp : p.valueFor? named.name with
          | none => simpa using ih
          | some value => simp [hp]

theorem chosenValue?_eq (h : Verdicts.ofConditions c t.conditions = .ok verdicts)
    (p : Parameter) : chosenValue? verdicts t.conditions p = t.chosen c p := by
  have hd : (t.conditions.find? fun named =>
      verdicts.holds named.name && (p.valueFor? named.name).isSome) = t.deciding c p := by
    simp only [Verdicts.holds_ofConditions h, Template.deciding]
  rw [chosenValue?, conditionalValue?_eq, hd, Template.chosen]
  cases hf : t.deciding c p with
  | none => rfl
  | some named =>
      have hvalue : (p.valueFor? named.name).isSome := by
        have := List.find?_some hf
        simp only [Bool.and_eq_true] at this
        exact this.2
      obtain ⟨value, hvalue⟩ := Option.isSome_iff_exists.1 hvalue
      simp [hvalue]

/-- The value that a chosen value puts under its key. -/
def remote? : ParameterValue → Option Value
  | .explicit text => some (.ofText .remote text)
  | .inAppDefault => none

theorem find?_putChosen (entries : List (String × Value)) (key k : String)
    (value : Option ParameterValue) :
    find? (putChosen entries key value) k =
      if key == k then (value.bind remote?).or (find? entries k) else find? entries k := by
  unfold putChosen
  split
  · rw [find?_put]
    rfl
  · rename_i hvalue
    have hremote : value.bind remote? = none := by
      cases value with
      | none => rfl
      | some value =>
          cases value with
          | explicit text => exact absurd rfl (hvalue text)
          | inAppDefault => rfl
    rw [hremote, Option.none_or, ite_self]

theorem find?_putParameters (conditions : List NamedCondition) (entries : List (String × Value))
    {parameters : Parameters} (hk : (keys parameters).Nodup) (k : String) :
    find? (putParameters verdicts conditions entries parameters) k =
      (((find? parameters k).bind (chosenValue? verdicts conditions)).bind remote?).or
        (find? entries k) := by
  induction parameters generalizing entries with
  | nil => rfl
  | cons e rest ih =>
      obtain ⟨key, p⟩ := e
      rw [keys_cons, List.nodup_cons] at hk
      rw [putParameters, ih _ hk.2, find?_cons, find?_putChosen]
      by_cases hkey : key = k
      · subst hkey
        have hlast : find? rest key = none := (find?_eq_none_iff rest key).2 hk.1
        simp [hlast]
      · simp [hkey]

theorem find?_ofDefaults (declared : List (String × Json)) (key : String) :
    find? (ofDefaults (.ofMembers declared)).entries key =
      (find? declared key).map fun j => .ofText .default (Defaults.write j) := by
  induction declared with
  | nil => rfl
  | cons e rest ih =>
      obtain ⟨k, j⟩ := e
      change find? ((k, _) :: (ofDefaults (.ofMembers rest)).entries) key = _
      rw [find?_cons, find?_cons, ih]
      split <;> rfl

theorem get_evaluate (declared : List (String × Json)) (hk : (keys t.parameters).Nodup)
    (h : Verdicts.ofConditions c t.conditions = .ok verdicts) (key : String) :
    get ⟨putParameters verdicts t.conditions (ofDefaults (.ofMembers declared)).entries
      t.parameters⟩ key = t.resolved c declared key := by
  rw [get, find?_putParameters _ _ hk, find?_ofDefaults, Template.resolved,
    funext (chosenValue?_eq h)]
  cases (find? t.parameters key).bind (t.chosen c) with
  | none => cases find? declared key <;> rfl
  | some value =>
      cases value with
      | explicit text => rfl
      | inAppDefault => cases find? declared key <;> rfl

end Config

/-! ## Keys of the parameters -/

namespace Template

theorem keys_readParameters {members : List (String × Json)} {parameters : Parameters}
    (h : readParameters members = .ok parameters) : keys parameters = keys members := by
  induction members generalizing parameters with
  | nil =>
      cases h
      rfl
  | cons e rest ih =>
      obtain ⟨key, j⟩ := e
      rw [readParameters] at h
      split at h
      · cases h
      split at h
      · cases h
      rename_i hrest
      cases h
      rw [keys_cons, keys_cons, ih hrest]

theorem nodup_keys_parametersOf {j : Json} (hj : j.Distinct) {parameters : Parameters}
    (h : parametersOf j = .ok parameters) : (keys parameters).Nodup := by
  unfold parametersOf at h
  split at h
  · cases h
    exact List.nodup_nil
  · rename_i members hf
    rw [keys_readParameters h]
    exact (hj.field? hf).nodup_keys
  · cases h

theorem nodup_keys_of_ofJson {j : Json} (hj : j.Distinct) {t : Template}
    (h : ofJson j = .ok t) : (keys t.parameters).Nodup := by
  unfold ofJson at h
  split at h
  · split at h
    · cases h
    rename_i hp
    split at h
    · cases h
    · cases h
      exact nodup_keys_parametersOf hj hp
  · cases h

/-- The parameters of a template have distinct keys, whether it is read from a text or from a
value that gives no key twice. -/
theorem nodup_keys_of_ofSource {source : Json} (hs : source.Distinct) {t : Template}
    (h : ofSource source = .ok t) : (keys t.parameters).Nodup := by
  unfold ofSource at h
  split at h
  · unfold ofText at h
    split at h
    · cases h
    · rename_i hread
      exact nodup_keys_of_ofJson (Json.distinct_of_read hread) h
  · exact nodup_keys_of_ofJson hs h

end Template

namespace Session

/-- In a context on which every condition has a verdict, an evaluation gives each key the value
that its parameter, the verdicts and the declared defaults determine. -/
theorem evaluate_resolves {source : Json} {t : Template} {x : ContextSource} {c : Context}
    (hs : source.Distinct) (ht : Template.ofSource source = .ok t) (hx : x.made = .ok c)
    (hc : ∀ named ∈ t.conditions, ∃ b, named.condition.holds c = .ok b)
    (declared : List (String × Json)) (loader : Option Loader) :
    ∃ config, ((empty (.ofMembers declared) loader).keep t).evaluate x = .ok config ∧
      ∀ key, config.get key = t.resolved c declared key := by
  have hfaults : ∀ named ∈ t.conditions, ¬ named.condition.Faults c 0 := fun named hmem =>
    (Condition.holdsAt_ok_iff c named.condition 0).1 (hc named hmem)
  obtain ⟨verdicts, hv⟩ := (Verdicts.extend_ok_iff c [] t.conditions).2 hfaults
  rw [evaluate_of_made _ hx]
  simp only [evaluateIn, keep, Config.evaluate, Verdicts.ofConditions, hv, empty]
  exact ⟨_, rfl, Config.get_evaluate declared (Template.nodup_keys_of_ofSource hs ht) hv⟩

/-- A template whose first condition is overruled by the last one, which has the same name. The
condition between them leaves the choice to the application. -/
def overruled : Json :=
  .obj [("conditions", .arr [.obj [("name", .str "a"), ("condition", .obj [("true", .obj [])])],
      .obj [("name", .str "b"), ("condition", .obj [("true", .obj [])])],
      .obj [("name", .str "a"), ("condition", .obj [("false", .obj [])])]]),
    ("parameters", .obj [("p", .obj [("defaultValue", .obj [("value", .str "own")]),
      ("conditionalValues", .obj [("a", .obj [("value", .str "first")]),
        ("b", .obj [("useInAppDefault", .bool true)])])])])]

/-- The later condition of a name overrules the earlier one, and the application chooses although
the parameter has a default. -/
theorem overruled_resolves :
    ∃ t config, Template.ofSource overruled = .ok t ∧
      ((empty (.ofMembers [("p", .bool true)]) none).keep t).evaluate (.flat .null) = .ok config ∧
      config.get "p" = .ofText .default "true" ∧ config.get "q" = .absent := by
  have hs : overruled.Distinct := by
    simp [overruled, Json.distinct_obj_iff, Json.distinct_arr_iff, Json.Distinct.str,
      Json.Distinct.bool]
  have hx : (ContextSource.flat .null).made = .ok (.ofSignals []) := rfl
  obtain ⟨config, hconfig, hget⟩ := evaluate_resolves hs rfl hx
    (by simp [Condition.holds, Condition.holdsAt]) [("p", .bool true)] none
  refine ⟨_, config, rfl, hconfig, ?_, ?_⟩
  · rw [hget]
    rfl
  · rw [hget]
    rfl

end Session

end Rollout
