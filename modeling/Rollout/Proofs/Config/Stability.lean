import Mathlib.Data.List.Perm.Basic
import Mathlib.Logic.Relation
import Rollout.Proofs.Config.Priority
import Rollout.Proofs.Config.Shape
import Rollout.Proofs.Template.Edit
import Rollout.Proofs.Template.Irrelevance

/-!
# Edits that change no value

A template stays accepted when it is edited, and a configuration that is evaluated from it has the
same keys with the same values. They come in another order only if the parameters do. A condition
that is declared behind all others changes nothing for a parameter to which one of the others
already gives a value.

## Implementation notes

What an evaluation makes of a template are the values that it chooses, by key. An edit keeps them up
to their order. A condition at a new place is seen through the names with a true verdict, which
do not change when the verdict on it is false.
-/

namespace Rollout

open Entries

namespace Template

variable {x y : Json} {t u : Template} {c : Context}

/-! ## Names with a true verdict -/

section Insertion

variable {before after : List NamedCondition} {named : NamedCondition}

theorem verdict_insert_of_ne (ht : t.conditions = before ++ after)
    (hu : u.conditions = before ++ named :: after) {name : String} (hne : named.name ≠ name) :
    u.verdict c name = t.verdict c name := by
  rw [verdict, verdict, ht, hu]
  simp [List.find?_append, hne]

theorem verdict_insert_self (hu : u.conditions = before ++ named :: after)
    (fresh : ∀ other ∈ after, other.name ≠ named.name) :
    u.verdict c named.name = (named.condition.holds c).toOption := by
  have hlater : after.reverse.find? (fun other => other.name == named.name) = none := by
    simpa using fresh
  rw [verdict, hu]
  simp [List.find?_append, hlater]

/-- The names of some conditions under which the verdict is true. -/
def trueAmong (t : Template) (c : Context) (conditions : List NamedCondition) : List String :=
  (conditions.filter fun named => t.verdict c named.name == some true).map (·.name)

/-- A condition under a new name adds its name to those with a true verdict, or nothing. -/
theorem trueNames_insert (ht : t.conditions = before ++ after)
    (hu : u.conditions = before ++ named :: after)
    (fresh : ∀ other ∈ t.conditions, other.name ≠ named.name) {b : Bool}
    (hb : named.condition.holds c = .ok b) :
    u.trueNames c =
      t.trueAmong c before ++ ((if b then [named.name] else []) ++ t.trueAmong c after) := by
  have hothers : ∀ other ∈ t.conditions,
      (u.verdict c other.name == some true) = (t.verdict c other.name == some true) := by
    intro other hother
    rw [verdict_insert_of_ne ht hu (fresh other hother).symm]
  rw [ht, List.forall_mem_append] at fresh hothers
  have hself : u.verdict c named.name = some b := by
    rw [verdict_insert_self hu fresh.2, hb]
    rfl
  rw [trueNames, hu, List.filter_append, List.filter_cons, hself,
    List.filter_congr hothers.1, List.filter_congr hothers.2, trueAmong, trueAmong]
  cases b <;> simp

theorem trueNames_insert_false (ht : t.conditions = before ++ after)
    (hu : u.conditions = before ++ named :: after)
    (fresh : ∀ other ∈ t.conditions, other.name ≠ named.name)
    (unmet : named.condition.holds c = .ok false) : u.trueNames c = t.trueNames c := by
  rw [trueNames_insert ht hu fresh unmet, trueNames, ht, List.filter_append, List.map_append]
  rfl

end Insertion

/-! ## Chosen values -/

/-- The values that a template chooses for its parameters, by key. -/
def choices (t : Template) (c : Context) : List (String × Option ParameterValue) :=
  t.parameters.map fun e => (e.1, t.chosen c e.2)

theorem choices_eq :
    t.choices c = t.parameters.map fun e => (e.1, e.2.choose (t.trueNames c)) := by
  simp only [choices, chosen_eq]

theorem trueNames_congr (h : u.conditions = t.conditions) : u.trueNames c = t.trueNames c := by
  simp only [trueNames, verdict, h]

theorem trueNames_declared {name : String} (h : ofJson x = .ok t) (hname : name ∈ t.trueNames c) :
    ¬ Undeclared x name := by
  obtain ⟨named, hmem, rfl⟩ := List.mem_map.1 hname
  rw [undeclared_iff h]
  intro hfresh
  exact hfresh named (List.mem_of_mem_filter hmem) rfl

/-- Reordered parameters are given the same values, in another order. -/
theorem choices_reorder (h : ofJson x = .ok t) {members : List (String × Json)}
    (perm : members.Perm (parameterMembers x)) :
    ∃ u, ofJson (x.set "parameters" (.obj members)) = .ok u ∧ u.conditions = t.conditions ∧
      (u.choices c).Perm (t.choices c) := by
  obtain ⟨_, hparameters, _⟩ := parts_of_ofJson h
  obtain ⟨parameters, hread, hperm⟩ :=
    List.perm_comp_forall₂ perm (readParameters_ok_iff_forall₂.mp hparameters)
  obtain ⟨u, hu, rfl, hconditions⟩ :=
    ofJson_set_parameters h (readParameters_ok_iff_forall₂.mpr hread)
  refine ⟨u, hu, hconditions, ?_⟩
  rw [choices_eq, choices_eq, trueNames_congr hconditions]
  exact hperm.map _

/-- A parameter with edited conditional values is given the same value. -/
theorem choices_edit_values (h : ofJson x = .ok t) {before after : List (String × Json)}
    {key : String} {p : Json} {values : List (String × Json)}
    (found : parameterMembers x = before ++ (key, p) :: after)
    (hk : (keys (Parameter.valueMembers p)).Nodup)
    (edit : ValuesEdit x (Parameter.valueMembers p) values) :
    ∃ u, ofJson (x.set "parameters"
        (.obj (before ++ (key, p.set "conditionalValues" (.obj values)) :: after))) = .ok u ∧
      u.conditions = t.conditions ∧ u.choices c = t.choices c := by
  obtain ⟨_, hparameters, _⟩ := parts_of_ofJson h
  rw [found, readParameters_ok_iff_forall₂, forall₂_append_left_iff] at hparameters
  obtain ⟨first, _, hfirst, hrest, hsplit⟩ := hparameters
  obtain ⟨⟨_, q⟩, second, ⟨rfl, hq⟩, hsecond, rfl⟩ := List.forall₂_cons_left_iff.mp hrest
  obtain ⟨q', hq', hdefault, hvalues⟩ := Parameter.ofJson_set_values hq values
  have hread : readParameters
      (before ++ (key, p.set "conditionalValues" (.obj values)) :: after) =
        .ok (first ++ (key, q') :: second) := by
    rw [readParameters_ok_iff_forall₂, forall₂_append_left_iff]
    exact ⟨first, _, hfirst, .cons ⟨rfl, hq'⟩ hsecond, rfl⟩
  obtain ⟨u, hu, hparameters', hconditions⟩ := ofJson_set_parameters h hread
  refine ⟨u, hu, hconditions, ?_⟩
  have hchoose : q'.choose (t.trueNames c) = q.choose (t.trueNames c) := by
    apply Parameter.choose_congr hdefault
    intro name hname
    rw [Parameter.valueFor?, Parameter.valueFor?, hvalues, Parameter.conditional_of_ofJson hq,
      Parameter.find?_readConditional (edit.nodup hk), Parameter.find?_readConditional hk]
    exact edit.keeps_declared hk (trueNames_declared h hname)
  rw [choices_eq, choices_eq, trueNames_congr hconditions, hparameters', hsplit]
  simp only [List.map_append, List.map_cons, hchoose]

/-- A condition under a new name that does not hold leaves every parameter its value. -/
theorem choices_insert_false (h : ofJson x = .ok t) {before after : List Json} {item : Json}
    {named : NamedCondition} (found : conditionItems x = before ++ after)
    (read : readCondition item = .ok named) (fresh : Undeclared x named.name)
    (unmet : named.condition.holds c = .ok false) :
    ∃ u first second, ofJson (x.set "conditions" (.arr (before ++ item :: after))) = .ok u ∧
      t.conditions = first ++ second ∧ u.conditions = first ++ named :: second ∧
      u.choices c = t.choices c := by
  obtain ⟨u, first, second, hu, hparameters, hsplit, hconditions, _⟩ :=
    ofJson_insert_condition h found read
  refine ⟨u, first, second, hu, hsplit, hconditions, ?_⟩
  rw [choices_eq, choices_eq, hparameters,
    trueNames_insert_false hsplit hconditions ((undeclared_iff h _).1 fresh) unmet]

/-! ## Runs of edits -/

/-- A template is accepted, the context gives each of its conditions a verdict, and the values that
it chooses are the given ones up to their order. -/
structure Chooses (c : Context) (choices : List (String × Option ParameterValue)) (x : Json) :
    Prop where
  keyed : Keyed x
  accepted : ∃ t, ofJson x = .ok t ∧ (∀ named ∈ t.conditions, ∃ b, named.condition.holds c = .ok b) ∧
    (t.choices c).Perm choices

/-- An edit keeps the values that are chosen. -/
theorem Edit.keeps_choices {choices : List (String × Option ParameterValue)} (h : Edit c x y)
    (hx : Chooses c choices x) : Chooses c choices y := by
  obtain ⟨hkeyed, t, ht, hc, hperm⟩ := hx
  have hgrammatical := (parts_of_ofJson ht).1
  refine ⟨?_, ?_⟩
  · apply h.keeps_keyed hgrammatical.object hkeyed
    intro e he
    exact (hgrammatical.parameters.of_mem he).1
  · cases h with
    | parameters perm =>
        obtain ⟨u, hu, hconditions, hreorder⟩ := choices_reorder (c := c) ht perm
        exact ⟨u, hu, hconditions ▸ hc, hreorder.trans hperm⟩
    | @values before after key p values found edit =>
        have hmem : (key, p) ∈ parameterMembers x := by simp [found]
        have hk := hkeyed.values _ hmem
        obtain ⟨u, hu, hconditions, hsame⟩ := choices_edit_values ht found hk edit
        exact ⟨u, hu, hconditions ▸ hc, hsame ▸ hperm⟩
    | condition found read fresh unmet =>
        obtain ⟨u, first, second, hu, hsplit, hconditions, hsame⟩ :=
          choices_insert_false ht found read fresh unmet
        refine ⟨u, hu, ?_, hsame ▸ hperm⟩
        rw [hsplit, List.forall_mem_append] at hc
        rw [hconditions, List.forall_mem_append, List.forall_mem_cons]
        exact ⟨hc.1, ⟨false, unmet⟩, hc.2⟩

/-- So does any number of edits one after the other. -/
theorem keeps_choices_of_edits {choices : List (String × Option ParameterValue)}
    (h : Relation.ReflTransGen (Edit c) x y) (hx : Chooses c choices x) : Chooses c choices y := by
  induction h with
  | refl => exact hx
  | tail _ hedit ih => exact hedit.keeps_choices ih

/-- A condition under a new name that is declared behind all others changes nothing for a parameter
that has a value for one of the others with a true verdict. -/
theorem chosen_append {named : NamedCondition} (hu : u.conditions = t.conditions ++ [named])
    (fresh : ∀ other ∈ t.conditions, other.name ≠ named.name) {b : Bool}
    (hb : named.condition.holds c = .ok b) {p : Parameter}
    (h : ∃ other ∈ t.conditions, t.verdict c other.name = some true ∧
      (p.valueFor? other.name).isSome = true) : u.chosen c p = t.chosen c p := by
  have hsome : ((t.trueNames c).findSome? p.valueFor?).isSome = true := by
    obtain ⟨other, hmem, htrue, hvalue⟩ := h
    rw [List.findSome?_isSome_iff]
    refine ⟨other.name, ?_, hvalue⟩
    apply List.mem_map_of_mem
    rw [List.mem_filter, htrue]
    exact ⟨hmem, rfl⟩
  obtain ⟨value, hvalue⟩ := Option.isSome_iff_exists.1 hsome
  have hnames : t.trueAmong c t.conditions = t.trueNames c := rfl
  rw [chosen_eq, chosen_eq, trueNames_insert (List.append_nil _).symm hu fresh hb, hnames,
    Parameter.choose, Parameter.choose, List.findSome?_append, hvalue]
  rfl

end Template

/-! ## Configurations of edited templates -/

namespace Config

variable {defaults : Defaults} {t u : Template} {c : Context} {config config' : Config}

theorem putParameters_eq_foldl (verdicts : Verdicts) (conditions : List NamedCondition)
    (entries : List (String × Value)) (parameters : Parameters) :
    putParameters verdicts conditions entries parameters =
      (parameters.map fun e => (e.1, chosenValue? verdicts conditions e.2)).foldl
        (fun entries e => putChosen entries e.1 e.2) entries := by
  induction parameters generalizing entries with
  | nil => rfl
  | cons e rest ih => exact ih _

/-- A configuration is made of the chosen values, and of nothing else of a template. -/
theorem entries_of_evaluate (h : evaluate defaults t c = .ok config) :
    config.entries =
      (t.choices c).foldl (fun entries e => putChosen entries e.1 e.2)
        (ofDefaults defaults).entries := by
  obtain ⟨verdicts, hv, rfl⟩ := evaluate_ok h
  simp only [putParameters_eq_foldl, Template.choices, chosenValue?_eq hv]

theorem explicitKeys_eq :
    t.explicitKeys c = keys ((t.choices c).filter fun e => e.2.any ParameterValue.isExplicit) := by
  rw [Template.choices, List.filter_map, keys, List.map_map]
  rfl

/-- Templates with the same chosen values in another order give the same configuration, but for the
order of its keys. -/
theorem evaluate_perm (ht : evaluate defaults t c = .ok config)
    (hu : evaluate defaults u c = .ok config') (hk : (keys t.parameters).Nodup)
    (h : (u.choices c).Perm (t.choices c)) :
    (∀ key, config'.get key = config.get key) ∧
      (keys config'.entries).Perm (keys config.entries) ∧
      (keys u.parameters = keys t.parameters → config' = config) := by
  have hkeys : ∀ v : Template, keys (v.choices c) = keys v.parameters := fun v => by
    simp [Template.choices, keys, Function.comp_def]
  have hk' : (keys u.parameters).Nodup := by
    rw [← hkeys] at hk ⊢
    exact (h.map Prod.fst).nodup_iff.2 hk
  refine ⟨?_, ?_, ?_⟩
  · intro key
    have hfound : ∀ v : Template,
        (find? v.parameters key).bind (v.chosen c) = (find? (v.choices c) key).bind id := by
      intro v
      rw [Template.choices, find?_map, Option.bind_map, Function.id_comp]
    rw [get_of_evaluate ht hk, get_of_evaluate hu hk', hfound, hfound, find?_perm h (hkeys t ▸ hk)]
  · rw [keys_of_evaluate ht hk, keys_of_evaluate hu hk', explicitKeys_eq, explicitKeys_eq]
    exact (((h.filter _).map Prod.fst).filter _).append_left _
  · intro hsame
    rw [← hkeys, ← hkeys] at hsame
    have hchoices := eq_of_perm_of_keys_eq h hsame (hkeys t ▸ hk)
    have hentries := entries_of_evaluate hu
    rw [hchoices, ← entries_of_evaluate ht] at hentries
    exact congrArg mk hentries

end Config

namespace Session

theorem evaluate_edited {s : Session} {context : ContextSource} {c : Context} {x y : Json}
    {t : Template} {config : Config} (hx : x.Distinct) (ht : Template.ofJson x = .ok t)
    (hmade : context.made = .ok c) (hconfig : (s.keep t).evaluate context = .ok config)
    (hedits : Relation.ReflTransGen (Template.Edit c) x y) :
    ∃ u config', Template.ofJson y = .ok u ∧ (s.keep u).evaluate context = .ok config' ∧
      (∀ key, config'.get key = config.get key) ∧
      (keys config'.entries).Perm (keys config.entries) ∧
      (keys (Template.parameterMembers y) = keys (Template.parameterMembers x) →
        config' = config) := by
  rw [evaluate_keep_iff s t hmade] at hconfig
  have hc := (Config.evaluates_iff s.defaults t c).1 ⟨config, hconfig⟩
  have hchooses : Template.Chooses c (t.choices c) x :=
    ⟨Template.keyed_of_distinct hx, t, ht, hc, .refl _⟩
  obtain ⟨_, u, hu, hc', hperm⟩ := Template.keeps_choices_of_edits hedits hchooses
  obtain ⟨config', hconfig'⟩ := (Config.evaluates_iff s.defaults u c).2 hc'
  have hk := Template.nodup_keys_of_ofJson hx ht
  obtain ⟨hget, hkeys, hsame⟩ := Config.evaluate_perm hconfig hconfig' hk hperm
  refine ⟨u, config', hu, (evaluate_keep_iff s u hmade config').2 hconfig', hget, hkeys, ?_⟩
  intro hmembers
  apply hsame
  rw [Template.keys_readParameters (Template.parts_of_ofJson hu).2.1, hmembers,
    Template.keys_readParameters (Template.parts_of_ofJson ht).2.1]

theorem evaluate_appended {s : Session} {context : ContextSource} {c : Context} {x item : Json}
    {t : Template} {config : Config} {named : NamedCondition} {b : Bool} (hx : x.Distinct)
    (ht : Template.ofJson x = .ok t) (hmade : context.made = .ok c)
    (hconfig : (s.keep t).evaluate context = .ok config)
    (read : Template.readCondition item = .ok named)
    (fresh : Template.Undeclared x named.name) (hb : named.condition.holds c = .ok b) :
    ∃ u config', Template.ofJson
        (x.set "conditions" (.arr (Template.conditionItems x ++ [item]))) = .ok u ∧
      (s.keep u).evaluate context = .ok config' ∧
      ∀ key p, find? t.parameters key = some p →
        (∃ other ∈ t.conditions, t.verdict c other.name = some true ∧
          (p.valueFor? other.name).isSome = true) →
        config'.get key = config.get key := by
  obtain ⟨u, first, second, hu, hparameters, hsplit, hconditions, hlength⟩ :=
    Template.ofJson_insert_condition ht (List.append_nil _).symm read
  obtain rfl := List.eq_nil_of_length_eq_zero hlength
  rw [List.append_nil] at hsplit
  subst hsplit
  rw [evaluate_keep_iff s t hmade] at hconfig
  have hc : ∀ other ∈ u.conditions, ∃ b, other.condition.holds c = .ok b := by
    rw [hconditions, List.forall_mem_append, List.forall_mem_singleton]
    exact ⟨(Config.evaluates_iff s.defaults t c).1 ⟨config, hconfig⟩, b, hb⟩
  obtain ⟨config', hconfig'⟩ := (Config.evaluates_iff s.defaults u c).2 hc
  refine ⟨u, config', hu, (evaluate_keep_iff s u hmade config').2 hconfig', ?_⟩
  intro key p hp hdecided
  have hk := Template.nodup_keys_of_ofJson hx ht
  have hchosen := Template.chosen_append hconditions
    ((Template.undeclared_iff ht _).1 fresh) hb hdecided
  rw [Config.get_of_evaluate hconfig hk, Config.get_of_evaluate hconfig' (hparameters ▸ hk),
    hparameters, hp, Option.bind_some, Option.bind_some, hchosen]

theorem distinct_of_held {source x : Json} (hs : source.Distinct)
    (hheld : Template.held source = .ok x) : x.Distinct := by
  unfold Template.held at hheld
  split at hheld
  · exact Json.distinct_of_read hheld
  · exact Except.ok.inj hheld ▸ hs

/-- An accepted template that can be evaluated in a context is still accepted after any number of
edits, and the configuration that is then evaluated gives every key the same value. It has the same
keys, and is the same configuration when the parameters keep their order. When a condition under a
new name is declared behind all others instead, every parameter keeps its value for which there is
one under another name with a true verdict. -/
theorem irrelevant_edits_keep_values {s : Session} {context : ContextSource} {c : Context}
    {source x : Json} {t : Template} {config : Config} (hs : source.Distinct)
    (hheld : Template.held source = .ok x) (ht : Template.ofSource source = .ok t)
    (hmade : context.made = .ok c) (hconfig : (s.keep t).evaluate context = .ok config) :
    (∀ y, Relation.ReflTransGen (Template.Edit c) x y →
      ∃ u config', (∀ source', Template.held source' = .ok y → Template.ofSource source' = .ok u) ∧
        (s.keep u).evaluate context = .ok config' ∧
        (∀ key, config'.get key = config.get key) ∧
        (keys config'.entries).Perm (keys config.entries) ∧
        (keys (Template.parameterMembers y) = keys (Template.parameterMembers x) →
          config' = config)) ∧
      ∀ item named b, Template.readCondition item = .ok named →
        Template.Undeclared x named.name → named.condition.holds c = .ok b →
        ∃ u config', (∀ source', Template.held source' = .ok
            (x.set "conditions" (.arr (Template.conditionItems x ++ [item]))) →
              Template.ofSource source' = .ok u) ∧
          (s.keep u).evaluate context = .ok config' ∧
          ∀ key p, find? t.parameters key = some p →
            (∃ other ∈ t.conditions, t.verdict c other.name = some true ∧
              (p.valueFor? other.name).isSome = true) →
            config'.get key = config.get key := by
  have hx := distinct_of_held hs hheld
  rw [Template.ofSource_of_held hheld] at ht
  constructor
  · intro y hedits
    obtain ⟨u, config', hu, hconfig', hkept⟩ := evaluate_edited hx ht hmade hconfig hedits
    refine ⟨u, config', ?_, hconfig', hkept⟩
    intro source' hheld'
    rw [Template.ofSource_of_held hheld', hu]
  · intro item named b read fresh hb
    obtain ⟨u, config', hu, hconfig', hkept⟩ :=
      evaluate_appended hx ht hmade hconfig read fresh hb
    refine ⟨u, config', ?_, hconfig', hkept⟩
    intro source' hheld'
    rw [Template.ofSource_of_held hheld', hu]

/-- A parameter with a value for a condition and one under a name that is not declared. -/
def twoValued : Json :=
  .obj [("conditionalValues", .obj [("a", .obj [("value", .str "one")]),
    ("b", .obj [("value", .str "two")])])]

/-- A parameter with a default only. -/
def defaulted : Json := .obj [("defaultValue", .obj [("value", .str "three")])]

/-- A template with a condition that holds and two parameters. -/
def tidy : Json :=
  .obj [("conditions", .arr [.obj [("name", .str "b"), ("condition", .obj [("true", .obj [])])]]),
    ("parameters", .obj [("p", twoValued), ("q", defaulted)])]

/-- The template with a condition in front that does not hold, with its parameters the other way
round and with an empty value for one of them. -/
def untidy : Json :=
  .obj [("conditions", .arr [.obj [("name", .str "a"), ("condition", .obj [("false", .obj [])])],
      .obj [("name", .str "b"), ("condition", .obj [("true", .obj [])])]]),
    ("parameters", .obj [("q", .obj [("defaultValue", .obj [("value", .str "three")]),
      ("conditionalValues", .obj [("b", .obj [])])]), ("p", twoValued)])]

theorem undeclared_in_tidy : Template.Undeclared tidy "a" := by
  rw [Template.undeclared_iff rfl]
  simp

theorem untidy_of_tidy : Relation.ReflTransGen (Template.Edit (.ofSignals [])) tidy untidy := by
  have hfront := @Template.Edit.condition (.ofSignals []) tidy []
    (Template.conditionItems tidy) _ ⟨"a", .never⟩ rfl
    (show Template.readCondition (.obj [("name", .str "a"),
      ("condition", .obj [("false", .obj [])])]) = _ from rfl) undeclared_in_tidy rfl
  have hempty (x : Json) :
      Template.ValuesEdit x (Parameter.valueMembers defaulted) [("b", .obj [])] :=
    @Template.ValuesEdit.add x [] [] _ (by simp)
      (.inr ((ParameterValue.ofJson?_eq_none_iff _).1 rfl))
  have hturned := Relation.ReflTransGen.tail (.single hfront)
    (@Template.Edit.parameters _ _ [("q", defaulted), ("p", twoValued)] (.swap _ _ _))
  exact hturned.tail
    (@Template.Edit.values _ _ [] [("p", twoValued)] "q" defaulted _ rfl (hempty _))

/-- A condition that holds, under the name that the parameter has its first value for. -/
def late : Json := .obj [("name", .str "a"), ("condition", .obj [("true", .obj [])])]

/-- The parameters keep their values when the template is edited. The one with two values keeps the
one that it has also when a condition for the other one is declared at the end. -/
theorem untidy_keeps_values :
    ∃ t config u config' v config'', Template.ofSource tidy = .ok t ∧
      ((empty [] none).keep t).evaluate (.flat .null) = .ok config ∧
      keys config.entries = ["p", "q"] ∧
      Template.ofSource untidy = .ok u ∧
      ((empty [] none).keep u).evaluate (.flat .null) = .ok config' ∧
      (keys config'.entries).Perm ["p", "q"] ∧ config'.get "p" = .ofText .remote "two" ∧
      config'.get "q" = .ofText .remote "three" ∧
      Template.ofSource
        (tidy.set "conditions" (.arr (Template.conditionItems tidy ++ [late]))) = .ok v ∧
      ((empty [] none).keep v).evaluate (.flat .null) = .ok config'' ∧
      config''.get "p" = .ofText .remote "two" := by
  have hs : tidy.Distinct := by
    simp [tidy, twoValued, defaulted, Json.distinct_obj_iff, Json.distinct_arr_iff,
      Json.Distinct.str]
  obtain ⟨t, config, p, ht, hconfig, hkeys, hp, hq, hfound, hdecided⟩ :
      ∃ t config p, Template.ofSource tidy = .ok t ∧
        ((empty [] none).keep t).evaluate (.flat .null) = .ok config ∧
        keys config.entries = ["p", "q"] ∧ config.get "p" = .ofText .remote "two" ∧
        config.get "q" = .ofText .remote "three" ∧ find? t.parameters "p" = some p ∧
        ∃ other ∈ t.conditions, t.verdict (.ofSignals []) other.name = some true ∧
          (p.valueFor? other.name).isSome = true :=
    ⟨_, _, _, rfl, rfl, rfl, rfl, rfl, rfl, _, List.mem_singleton_self _, rfl, rfl⟩
  obtain ⟨hedits, hends⟩ := irrelevant_edits_keep_values hs rfl ht rfl hconfig
  obtain ⟨u, config', hu, hconfig', hget, hperm, _⟩ := hedits untidy untidy_of_tidy
  obtain ⟨v, config'', hv, hconfig'', hkept⟩ :=
    hends late ⟨"a", .always⟩ true rfl undeclared_in_tidy rfl
  refine ⟨t, config, u, config', v, config'', ht, hconfig, hkeys, hu untidy rfl, hconfig',
    hkeys ▸ hperm, ?_, ?_, hv _ rfl, hconfig'', ?_⟩
  · rw [hget, hp]
  · rw [hget, hq]
  · rw [hkept "p" p hfound hdecided, hp]

end Session

end Rollout
