import Rollout.Proofs.Template.Grammar

/-!
# Violations of the grammar of templates

A value that is refused as a template violates the grammar, and the rejection names the violation.
Apart from numbers beyond all bounds, nothing else keeps a value from being accepted. A text is
refused when it cannot be read, and otherwise like the value that it holds.
-/

namespace Rollout

open Entries

namespace Template

variable {j : Json} {t : Template}

/-- The violations of the grammar, by the rejections that name them. -/
inductive Violates (j : Json) : Rejection → Prop
  | notObject (noObject : ∀ members, j ≠ .obj members) : Violates j .notObject
  | parametersNotObject {declared : Json} (found : j.field? "parameters" = some declared)
      (noObject : ∀ members, declared ≠ .obj members) : Violates j .parametersNotObject
  | parameterNotObject {key : String} {p : Json} (mem : (key, p) ∈ parameterMembers j)
      (noObject : ∀ members, p ≠ .obj members) : Violates j (.parameterNotObject key)
  | conditionalValuesNotObject {key : String} {p : Json} (mem : (key, p) ∈ parameterMembers j)
      (isSet : (p.field "conditionalValues").isSet = true)
      (noObject : ∀ members, p.field "conditionalValues" ≠ .obj members) :
      Violates j (.conditionalValuesNotObject key)
  | conditionsNull (found : j.field? "conditions" = some .null) : Violates j .conditionsNull
  | conditionsNotArray {declared : Json} (found : j.field? "conditions" = some declared)
      (noArray : ∀ items, declared ≠ .arr items) : Violates j .conditionsNotArray
  | unnamedCondition {item : Json} (mem : item ∈ conditionItems j) (unnamed : ¬ Named item) :
      Violates j (.unnamedCondition item)

theorem Violates.not_grammatical {r : Rejection} (h : Violates j r) : ¬ Grammatical j := by
  intro hj
  cases h with
  | notObject noObject =>
      obtain ⟨members, hmembers⟩ := hj.object
      exact noObject members hmembers
  | parametersNotObject found noObject =>
      obtain ⟨members, hmembers, _⟩ := hj.parameters _ found
      exact noObject members hmembers
  | parameterNotObject mem noObject =>
      obtain ⟨⟨members, hmembers⟩, _⟩ := hj.parameters.of_mem mem
      exact noObject members hmembers
  | conditionalValuesNotObject mem isSet noObject =>
      obtain ⟨_, hunset | ⟨members, hmembers⟩⟩ := hj.parameters.of_mem mem
      · rw [hunset] at isSet
        cases isSet
      · exact noObject members hmembers
  | conditionsNull found =>
      obtain ⟨items, hitems, _⟩ := hj.conditions _ found
      cases hitems
  | conditionsNotArray found noArray =>
      obtain ⟨items, hitems, _⟩ := hj.conditions _ found
      exact noArray items hitems
  | unnamedCondition mem unnamed => exact unnamed (hj.conditions.of_mem mem)

/-! ## Rejections -/

theorem rejection_of_parameter {key : String} {p : Json} {r : Rejection}
    (h : Parameter.ofJson key p = .error r) :
    (∀ members, p ≠ .obj members) ∧ r = .parameterNotObject key ∨
      (p.field "conditionalValues").isSet = true ∧
        (∀ members, p.field "conditionalValues" ≠ .obj members) ∧
          r = .conditionalValuesNotObject key := by
  unfold Parameter.ofJson at h
  split at h
  · right
    split at h
    · rename_i r' hvalues
      obtain rfl := Except.error.inj h
      unfold Parameter.conditionalMembers at hvalues
      split at hvalues
      · cases hvalues
      · rename_i hset
        split at hvalues
        · cases hvalues
        · rename_i hno
          refine ⟨by simpa using hset, hno, ?_⟩
          exact (Except.error.inj hvalues).symm
    · cases h
  · rename_i hno
    left
    exact ⟨hno, (Except.error.inj h).symm⟩

theorem rejection_of_readParameters {members : List (String × Json)} {r : Rejection}
    (h : readParameters members = .error (.rejected r)) :
    ∃ e ∈ members, Parameter.ofJson e.1 e.2 = .error r := by
  induction members with
  | nil => cases h
  | cons e rest ih =>
      obtain ⟨key, p⟩ := e
      rw [readParameters] at h
      split at h
      · rename_i r' hp
        cases h
        exact ⟨(key, p), List.mem_cons_self, hp⟩
      · split at h
        · rename_i f hrest
          cases h
          obtain ⟨e, he, hr⟩ := ih hrest
          exact ⟨e, List.mem_cons_of_mem _ he, hr⟩
        · cases h

theorem rejection_of_readConditions {items : List Json} {r : Rejection}
    (h : readConditions items = .error (.rejected r)) :
    ∃ item ∈ items, ¬ Named item ∧ r = .unnamedCondition item := by
  induction items with
  | nil => cases h
  | cons item rest ih =>
      rw [readConditions] at h
      split at h
      · rename_i f hitem
        cases h
        refine ⟨item, List.mem_cons_self, ?_⟩
        unfold readCondition at hitem
        split at hitem
        · split at hitem <;> cases hitem
        · rename_i hno
          cases hitem
          refine ⟨?_, rfl⟩
          rintro ⟨name, hname⟩
          rw [hno] at hname
          cases hname
      · split at h
        · rename_i f hrest
          cases h
          obtain ⟨item, hitem, hr⟩ := ih hrest
          exact ⟨item, List.mem_cons_of_mem _ hitem, hr⟩
        · cases h

theorem violates_of_parametersOf {r : Rejection} (h : parametersOf j = .error (.rejected r)) :
    Violates j r := by
  unfold parametersOf at h
  split at h
  · cases h
  · rename_i members hfound
    obtain ⟨⟨key, p⟩, he, hr⟩ := rejection_of_readParameters h
    have hmem : (key, p) ∈ parameterMembers j := by
      simpa only [parameterMembers, hfound] using he
    rcases rejection_of_parameter hr with ⟨hno, rfl⟩ | ⟨hset, hno, rfl⟩
    · exact .parameterNotObject hmem hno
    · exact .conditionalValuesNotObject hmem hset hno
  · rename_i declared hno hfound
    cases h
    exact .parametersNotObject hfound hno

theorem violates_of_conditionsOf {r : Rejection} (h : conditionsOf j = .error (.rejected r)) :
    Violates j r := by
  unfold conditionsOf at h
  split at h
  · cases h
  · rename_i items hfound
    obtain ⟨item, hitem, hno, rfl⟩ := rejection_of_readConditions h
    have hmem : item ∈ conditionItems j := by
      simpa only [conditionItems, hfound] using hitem
    exact .unnamedCondition hmem hno
  · rename_i hfound
    cases h
    exact .conditionsNull hfound
  · rename_i declared hno _ hfound
    cases h
    exact .conditionsNotArray hfound hno

/-- A rejection names a violation of the grammar. -/
theorem violates_of_ofJson {r : Rejection} (h : ofJson j = .error (.rejected r)) :
    Violates j r := by
  unfold ofJson at h
  split at h
  · split at h
    · rename_i hparameters
      cases h
      exact violates_of_parametersOf hparameters
    · split at h
      · rename_i hconditions
        cases h
        exact violates_of_conditionsOf hconditions
      · cases h
  · rename_i hno
    cases h
    exact .notObject hno

/-! ## Acceptance -/

theorem not_reachesInfinity {items : List Json}
    (h : ∀ item ∈ items, ¬ Condition.InfiniteBound (item.field "condition")) :
    ¬ ReachesInfinity items := by
  rintro ⟨before, item, after, rfl, _, _, hinf⟩
  exact h item (List.mem_append_right before List.mem_cons_self) hinf

theorem Bounded.not_overflows (h : Bounded j) : ¬ Overflows j := by
  rintro ⟨_, items, hfound, hreaches⟩
  have hitems : ∀ item ∈ items, ¬ Condition.InfiniteBound (item.field "condition") := by
    simpa only [conditionItems, hfound] using h.finite
  exact not_reachesInfinity hitems hreaches

theorem ofJson_ok_iff (h : Bounded j) : (∃ t, ofJson j = .ok t) ↔ Grammatical j := by
  constructor
  · rintro ⟨t, ht⟩
    exact (parts_of_ofJson ht).1
  · intro hj
    rcases (ofJson_escapesIff j).proper h.not_overflows with ht | ⟨r, hr⟩
    · exact ht
    · exact absurd hj (violates_of_ofJson hr).not_grammatical

theorem ofJson_rejected_iff (h : Bounded j) :
    (∃ r, ofJson j = .error (.rejected r)) ↔ ¬ Grammatical j := by
  constructor
  · rintro ⟨r, hr⟩
    exact (violates_of_ofJson hr).not_grammatical
  · intro hj
    rcases (ofJson_escapesIff j).proper h.not_overflows with ht | hr
    · exact absurd ((ofJson_ok_iff h).mp ht) hj
    · exact hr

/-- A text is refused for what it says only when it can be read. -/
theorem ofText_unreadable_iff (text : String) (e : Json.ReadError) :
    ofText text = .error (.rejected (.unreadable e)) ↔ Json.read text = .error e := by
  rw [ofText]
  cases hread : Json.read text with
  | error e' => simp
  | ok j =>
      constructor
      · intro h
        cases violates_of_ofJson h
      · nofun

/-- A value with bounded numbers is accepted as a template just when it follows the grammar, and
rejected just when it does not; the rejection names a violation. Values with the same outline are
accepted together. The conditions of an accepted template are those of the listed entries, one by
one, and its parameters have the declared keys in their order. A text is rejected as unreadable just
when it cannot be read, and else like the value that it holds. -/
theorem acceptance_is_grammatical (h : Bounded j) :
    ((∃ t, ofJson j = .ok t) ↔ Grammatical j) ∧
      ((∃ r, ofJson j = .error (.rejected r)) ↔ ¬ Grammatical j) ∧
      (∀ r, ofJson j = .error (.rejected r) → Violates j r) ∧
      (∀ j', Bounded j' → outline j' = outline j →
        ((∃ t, ofJson j' = .ok t) ↔ ∃ t, ofJson j = .ok t)) ∧
      (∀ t, ofJson j = .ok t →
        List.Forall₂ (fun item named => (item.field "name").text? = some named.name ∧
            Condition.ofJson (item.field "condition") = .ok named.condition)
          (conditionItems j) t.conditions ∧
        keys t.parameters = keys (parameterMembers j)) ∧
      ∀ text,
        (∀ e, ofText text = .error (.rejected (.unreadable e)) ↔ Json.read text = .error e) ∧
          ∀ held, Json.read text = .ok held → ofText text = ofJson held := by
  refine ⟨ofJson_ok_iff h, ofJson_rejected_iff h, ?_, ?_, ?_, ?_⟩
  · intro r hr
    exact violates_of_ofJson hr
  · intro j' h' houtline
    rw [ofJson_ok_iff h', ofJson_ok_iff h, ← grammatical_outline_iff, houtline,
      grammatical_outline_iff]
  · intro t ht
    obtain ⟨_, hparameters, hconditions⟩ := parts_of_ofJson ht
    constructor
    · apply (readConditions_ok_iff_forall₂.mp hconditions).imp
      intro item named hread
      exact readCondition_ok hread
    · exact keys_readParameters hparameters
  · intro text
    constructor
    · exact ofText_unreadable_iff text
    · intro held hread
      rw [ofText, hread]

/-- A template in which everything that may be malformed is: a value that is no object, an unset
text in place of conditional values, types, tags, versions and groups of the wrong kinds, a bound
that is no number and a condition that is missing. -/
def careless : Json :=
  .obj [("parameters", .obj [("p", .obj [("defaultValue", .int 5), ("conditionalValues", .str ""),
      ("valueType", .arr [.int 1])]),
      ("q", .obj [("conditionalValues", .obj [("c", .null)])])]),
    ("conditions", .arr [.obj [("name", .str ""), ("condition", .obj [("percent",
      .obj [("microPercent", .str "many")])])], .obj [("name", .str "c")]]),
    ("etag", .int 5), ("version", .null), ("parameterGroups", .str "none")]

/-- It is accepted nevertheless, with all of its conditions and parameters. -/
theorem careless_is_accepted :
    Bounded careless ∧ Grammatical careless ∧ ∃ t, ofJson careless = .ok t ∧
      t.conditions.map (·.name) = ["", "c"] ∧ keys t.parameters = ["p", "q"] := by
  have hfinite : ∀ item ∈ conditionItems careless,
      ¬ Condition.InfiniteBound (item.field "condition") := by
    intro item hitem
    rw [← (Condition.ofJson_failsIff _).ok_iff]
    change item ∈ [_, _] at hitem
    rw [List.mem_pair] at hitem
    rcases hitem with rfl | rfl
    · exact ⟨_, rfl⟩
    · exact ⟨_, rfl⟩
  have hshort : careless.Short := by
    intro n hn
    obtain rfl | rfl | rfl : n = 5 ∨ n = 1 ∨ n = 5 := by
      simpa [careless, Json.scalars, Json.memberScalars, Json.itemScalars] using hn
    all_goals decide +kernel
  have hbounded : Bounded careless := ⟨hfinite, hshort⟩
  have hgrammatical : Grammatical careless := by
    refine ⟨⟨_, rfl⟩, ?_, ?_⟩
    · exact (parametersOf_ok_iff careless).mp ⟨_, rfl⟩
    · exact conditionsAccepted_of_conditionsOf (j := careless) rfl
  obtain ⟨haccepted, _, _, _, hparts, _⟩ := acceptance_is_grammatical hbounded
  obtain ⟨t, ht⟩ := haccepted.mpr hgrammatical
  obtain ⟨hconditions, hparameters⟩ := hparts t ht
  refine ⟨hbounded, hgrammatical, t, ht, ?_, hparameters⟩
  generalize t.conditions = conditions at hconditions
  change List.Forall₂ _ [_, _] conditions at hconditions
  cases hconditions with
  | cons hfirst hrest =>
      cases hrest with
      | cons hsecond hnil =>
          cases hnil
          have hname : "" = _ := Option.some.inj hfirst.1
          have hname' : "c" = _ := Option.some.inj hsecond.1
          rw [List.map_cons, List.map_cons, List.map_nil, ← hname, ← hname']

end Template

end Rollout
