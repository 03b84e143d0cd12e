import Rollout.Proofs.Config.Resolution

/-!
# The keys of a configuration

A configuration lists the keys of the declared defaults in their order, and after them, in the order
of the template, the parameters that were given a text and are no defaults. A parameter that
overrides a default takes its place. The response that is sent has the same keys in the same order.
-/

namespace Rollout

open Entries

/-- Recognise a text. -/
def ParameterValue.isExplicit : ParameterValue → Bool
  | .explicit _ => true
  | .inAppDefault => false

/-- The keys of the parameters for which a text is chosen, in order. -/
def Parameters.explicitKeys (chosen : Parameter → Option ParameterValue)
    (parameters : Parameters) : List String :=
  keys (parameters.filter fun e => (chosen e.2).any ParameterValue.isExplicit)

/-- The keys of a template in a context: the parameters for which a text is chosen. -/
def Template.explicitKeys (t : Template) (c : Context) : List String :=
  t.parameters.explicitKeys (t.chosen c)

theorem Parameters.mem_keys_of_mem_explicitKeys {chosen : Parameter → Option ParameterValue}
    {parameters : Parameters} {key : String} (h : key ∈ explicitKeys chosen parameters) :
    key ∈ keys parameters :=
  (List.filter_sublist.map Prod.fst).subset h

namespace Config

variable {verdicts : Verdicts} {conditions : List NamedCondition}

theorem putChosen_of_not_isExplicit {value : Option ParameterValue}
    (h : value.any ParameterValue.isExplicit = false) (entries : List (String × Value))
    (key : String) : putChosen entries key value = entries := by
  unfold putChosen
  split
  · cases h
  · rfl

theorem keys_putChosen_of_isExplicit {value : Option ParameterValue}
    (h : value.any ParameterValue.isExplicit = true) (entries : List (String × Value))
    (key : String) :
    keys (putChosen entries key value) =
      if key ∈ keys entries then keys entries else keys entries ++ [key] := by
  unfold putChosen
  split
  · split
    · rename_i hmem
      exact keys_put_of_mem hmem _
    · rename_i hmem
      exact keys_put_of_not_mem hmem _
  · rename_i hvalue
    match value with
    | some (.explicit text) => exact absurd rfl (hvalue text)

/-- The keys that parameters add stand behind those that are there, in the order of the
parameters. -/
theorem keys_putParameters (entries : List (String × Value)) {parameters : Parameters}
    (hk : (keys parameters).Nodup) :
    keys (putParameters verdicts conditions entries parameters) =
      keys entries ++ (Parameters.explicitKeys (chosenValue? verdicts conditions)
        parameters).filter (· ∉ keys entries) := by
  induction parameters generalizing entries with
  | nil => simp [putParameters, Parameters.explicitKeys]
  | cons e rest ih =>
      obtain ⟨key, p⟩ := e
      rw [keys_cons, List.nodup_cons] at hk
      rw [putParameters, ih _ hk.2, Parameters.explicitKeys, Parameters.explicitKeys,
        List.filter_cons]
      cases hp : (chosenValue? verdicts conditions p).any ParameterValue.isExplicit with
      | false => simp [putChosen_of_not_isExplicit hp]
      | true =>
          rw [keys_putChosen_of_isExplicit hp]
          by_cases hmem : key ∈ keys entries
          · simp [hmem]
          · rw [if_neg hmem, if_pos rfl, keys_cons, List.filter_cons_of_pos (by simpa using hmem),
              List.append_assoc, List.singleton_append]
            congr 2
            apply List.filter_congr
            intro k hlater
            have hne : k ≠ key := fun h =>
              hk.1 (h ▸ Parameters.mem_keys_of_mem_explicitKeys hlater)
            simp [hne]

theorem nodup_keys_putParameters (verdicts : Verdicts) (conditions : List NamedCondition)
    {entries : List (String × Value)} (h : (keys entries).Nodup) (parameters : Parameters) :
    (keys (putParameters verdicts conditions entries parameters)).Nodup := by
  induction parameters generalizing entries with
  | nil => exact h
  | cons e rest ih =>
      rw [putParameters]
      apply ih
      unfold putChosen
      split
      · exact nodup_keys_put h _ _
      · exact h

/-- The values that are stored: texts from the declared defaults or from the template. -/
def IsStored (v : Value) : Prop := ∃ text, v = .ofText .default text ∨ v = .ofText .remote text

theorem isStored_putParameters {entries : List (String × Value)}
    (h : ∀ e ∈ entries, IsStored e.2) (parameters : Parameters) :
    ∀ e ∈ putParameters verdicts conditions entries parameters, IsStored e.2 := by
  induction parameters generalizing entries with
  | nil => exact h
  | cons e rest ih =>
      rw [putParameters]
      apply ih
      unfold putChosen
      split
      · exact forall_put h _ ⟨_, .inr rfl⟩
      · exact h

theorem isStored_ofDefaults (defaults : Defaults) :
    ∀ e ∈ (ofDefaults defaults).entries, IsStored e.2 := by
  intro e he
  obtain ⟨d, _, rfl⟩ := List.mem_map.1 he
  exact ⟨_, .inl rfl⟩

theorem keys_ofDefaults (declared : List (String × Json)) :
    keys (ofDefaults (.ofMembers declared)).entries = keys declared := by
  simp [ofDefaults, Defaults.ofMembers, keys]

theorem evaluate_ok {defaults : Defaults} {t : Template} {c : Context} {config : Config}
    (h : evaluate defaults t c = .ok config) :
    ∃ verdicts, Verdicts.ofConditions c t.conditions = .ok verdicts ∧
      config = ⟨putParameters verdicts t.conditions (ofDefaults defaults).entries t.parameters⟩ := by
  unfold evaluate at h
  split at h
  · cases h
  · rename_i verdicts hv
    exact ⟨verdicts, hv, (Except.ok.inj h).symm⟩

theorem get_of_evaluate {defaults : Defaults} {t : Template} {c : Context} {config : Config}
    (h : evaluate defaults t c = .ok config) (hk : (keys t.parameters).Nodup) (key : String) :
    config.get key =
      ((((find? t.parameters key).bind (t.chosen c)).bind remote?).or
        (find? (ofDefaults defaults).entries key)).getD .absent := by
  obtain ⟨verdicts, hv, rfl⟩ := evaluate_ok h
  rw [get, find?_putParameters _ _ hk, funext (chosenValue?_eq hv)]

theorem keys_of_evaluate {defaults : Defaults} {t : Template} {c : Context} {config : Config}
    (h : evaluate defaults t c = .ok config) (hk : (keys t.parameters).Nodup) :
    keys config.entries = keys (ofDefaults defaults).entries ++
      (t.explicitKeys c).filter (· ∉ keys (ofDefaults defaults).entries) := by
  obtain ⟨verdicts, hv, rfl⟩ := evaluate_ok h
  rw [keys_putParameters _ hk, funext (chosenValue?_eq hv)]
  rfl

theorem isStored_of_evaluate {defaults : Defaults} {t : Template} {c : Context} {config : Config}
    (h : evaluate defaults t c = .ok config) : ∀ e ∈ config.entries, IsStored e.2 := by
  obtain ⟨verdicts, _, rfl⟩ := evaluate_ok h
  exact isStored_putParameters (isStored_ofDefaults _) _

theorem nodup_keys_of_evaluate {defaults : Defaults} {t : Template} {c : Context}
    {config : Config} (hd : (keys defaults).Nodup) (h : evaluate defaults t c = .ok config) :
    (keys config.entries).Nodup := by
  obtain ⟨verdicts, _, rfl⟩ := evaluate_ok h
  have hkeys : keys (ofDefaults defaults).entries = keys defaults := by
    simp [ofDefaults, keys, Function.comp_def]
  exact nodup_keys_putParameters _ _ (hkeys ▸ hd) _

theorem get_of_mem {config : Config} (h : (keys config.entries).Nodup) {e : String × Value}
    (he : e ∈ config.entries) : config.get e.1 = e.2 := by
  rw [get, find?_of_mem h he, Option.getD_some]

/-- The members of a response are the keys of the configuration in their order, each with the text
of its value. -/
theorem sent_eq {config : Config} (h : (keys config.entries).Nodup) (draw : Nat) :
    (Response.ofConfig config draw).toJson.field "config" =
      .obj ((keys config.entries).map fun key => (key, .str (config.get key).text)) := by
  have hsent : (Response.ofConfig config draw).toJson.field "config" =
      .obj (config.entries.map fun e => (e.1, .str e.2.text)) := rfl
  rw [hsent, keys, List.map_map]
  congr 1
  apply List.map_congr_left
  intro e he
  rw [Function.comp_apply, get_of_mem h he]

end Config

namespace Session

/-- The keys of an evaluated configuration are those of the declared defaults, and after them those
of the parameters with a chosen text that are not declared. No key is repeated, every value is the
one that its key is resolved to and a text of the defaults or of the template, and the response that
is sent has the same keys in the same order, each with the text of its value. -/
theorem evaluate_lists_keys {source : Json} {t : Template} {x : ContextSource} {c : Context}
    {declared : List (String × Json)} {loader : Option Loader} {config : Config}
    (hs : source.Distinct) (ht : Template.ofSource source = .ok t) (hx : x.made = .ok c)
    (hd : (keys declared).Nodup)
    (hconfig : ((empty (.ofMembers declared) loader).keep t).evaluate x = .ok config) :
    keys config.entries = keys declared ++ (t.explicitKeys c).filter (· ∉ keys declared) ∧
      (keys config.entries).Nodup ∧
      (∀ e ∈ config.entries, e.2 = t.resolved c declared e.1 ∧ Config.IsStored e.2) ∧
      ∀ draw, (Response.ofConfig config draw).toJson.field "config" =
        .obj ((keys config.entries).map fun key => (key, .str (config.get key).text)) := by
  rw [evaluate_of_made _ hx] at hconfig
  have hevaluate : Config.evaluate (.ofMembers declared) t c = .ok config := by
    simp only [evaluateIn, keep, empty] at hconfig
    split at hconfig
    · cases hconfig
    · rename_i h
      rwa [← Except.ok.inj hconfig]
  obtain ⟨verdicts, hv, rfl⟩ := Config.evaluate_ok hevaluate
  have hk := Template.nodup_keys_of_ofSource hs ht
  have hkeys := Config.keys_ofDefaults declared
  have hnodup := Config.nodup_keys_putParameters verdicts t.conditions (hkeys ▸ hd) t.parameters
  refine ⟨?_, hnodup, fun e he => ⟨?_, ?_⟩, Config.sent_eq hnodup⟩
  · rw [Config.keys_putParameters _ hk, hkeys, funext (Config.chosenValue?_eq hv)]
    rfl
  · rw [← Config.get_of_mem hnodup he, Config.get_evaluate declared hk hv]
  · exact Config.isStored_putParameters (Config.isStored_ofDefaults _) _ e he

/-- Defaults of an application. -/
def declaredSizes : List (String × Json) := [("size", .int 3), ("color", .str "red")]

/-- A template with a new parameter, one that overrides a default, and one that leaves the choice to
the application. -/
def recolored : Json :=
  .obj [("parameters", .obj [("title", .obj [("defaultValue", .obj [("value", .str "hi")])]),
    ("color", .obj [("defaultValue", .obj [("value", .str "blue")])]),
    ("mode", .obj [("defaultValue", .obj [("useInAppDefault", .bool true)])])])]

/-- The color keeps its place among the defaults, and the title comes after them. -/
theorem recolored_lists_keys :
    ∃ t config, Template.ofSource recolored = .ok t ∧
      ((empty (.ofMembers declaredSizes) none).keep t).evaluate (.flat .null) = .ok config ∧
      keys config.entries = ["size", "color", "title"] ∧
      (Response.ofConfig config 7).toJson.field "config" =
        .obj [("size", .str "3"), ("color", .str "blue"), ("title", .str "hi")] := by
  have hs : recolored.Distinct := by
    simp [recolored, Json.distinct_obj_iff, Json.Distinct.str, Json.Distinct.bool]
  have hx : (ContextSource.flat .null).made = .ok (.ofSignals []) := rfl
  have hd : (keys declaredSizes).Nodup := by decide
  obtain ⟨t, config, ht, hconfig, hexplicit, htexts⟩ :
      ∃ t config, Template.ofSource recolored = .ok t ∧
        ((empty (.ofMembers declaredSizes) none).keep t).evaluate (.flat .null) = .ok config ∧
        t.explicitKeys (.ofSignals []) = ["title", "color"] ∧
        ["size", "color", "title"].map (fun key => (config.get key).text) = ["3", "blue", "hi"] :=
    ⟨_, _, rfl, rfl, rfl, rfl⟩
  obtain ⟨hkeys, _, _, hsent⟩ := evaluate_lists_keys hs ht hx hd hconfig
  rw [hexplicit] at hkeys
  have hkeys' : keys config.entries = ["size", "color", "title"] := hkeys
  simp only [List.map_cons, List.map_nil, List.cons.injEq] at htexts
  refine ⟨t, config, ht, hconfig, hkeys', ?_⟩
  simp [hsent, hkeys', htexts]

end Session

end Rollout
