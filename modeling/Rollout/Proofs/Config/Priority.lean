import Mathlib.Data.List.Nodup
import Rollout.Proofs.Config.Resolution

/-!
# Priority among declared conditions

Conditions are declared in the order of their priority: a parameter should take its value from the
first condition that holds and for whose name it has a value. It does so whenever no name is
declared twice. Verdicts are kept by name, however, so a condition whose name is declared again
stands at its own place with the verdict on the last condition of the name. Parameters then follow
the declared order just when the names of the conditions that hold and the names with a true
verdict come in the same order, each counted at its first place.
-/

namespace Rollout

open Entries

/-! ## First places -/

section FirstPlaces

variable {α β : Type} [BEq α]

theorem length_filter_bne_lt (a : α) (names : List α) :
    (names.filter fun b => !b == a).length < (a :: names).length :=
  Nat.lt_succ_of_le (List.length_filter_le _ names)

variable [LawfulBEq α]

theorem findSome?_filter_bne {f : α → Option β} {a : α} (ha : f a = none) (names : List α) :
    (names.filter fun b => !b == a).findSome? f = names.findSome? f := by
  induction names with
  | nil => rfl
  | cons b names ih =>
      by_cases hb : b = a
      · subst hb
        simp [ha, ih]
      · simp [hb, ih, List.findSome?_cons]

/-- What is found first among some names is found at the first place of a name. -/
theorem findSome?_eraseDups (f : α → Option β) : ∀ names : List α,
    names.eraseDups.findSome? f = names.findSome? f
  | [] => rfl
  | a :: names => by
      rw [List.eraseDups_cons, List.findSome?_cons, List.findSome?_cons]
      cases ha : f a with
      | some value => rfl
      | none => exact (findSome?_eraseDups f _).trans (findSome?_filter_bne ha names)
termination_by names => names.length
decreasing_by exact length_filter_bne_lt a names

theorem find?_filter_bne (picked : List α) (a : α) (names : List α) :
    (names.filter fun b => !b == a).find? picked.contains =
      (a :: names).find? (picked.filter fun b => !b == a).contains := by
  have hpicked : (picked.filter fun b => !b == a).contains =
      fun b => !b == a && picked.contains b := by
    funext b
    by_cases hb : b = a
    · simp [hb]
    · simp [hb, List.contains_eq_mem]
  rw [hpicked, List.find?_cons, List.find?_filter]
  simp

/-- Names whose first places come in another order are told apart by the first of some of them. -/
theorem eraseDups_eq_of_find? : ∀ {names others : List α},
    (∀ picked : List α, names.find? picked.contains = others.find? picked.contains) →
      names.eraseDups = others.eraseDups
  | [], [], _ => rfl
  | [], b :: _, h => by simpa using h [b]
  | a :: _, [], h => by simpa using h [a]
  | a :: names, b :: others, h => by
      have hab : a = b := by simpa using h [a, b]
      subst hab
      rw [List.eraseDups_cons, List.eraseDups_cons]
      congr 1
      apply eraseDups_eq_of_find?
      intro picked
      rw [find?_filter_bne, find?_filter_bne]
      exact h _
termination_by names => names.length
decreasing_by exact length_filter_bne_lt a names

end FirstPlaces

/-! ## The value for the first of some names -/

namespace Parameter

/-- The value for the first of some names for which a parameter has one, or else its default. -/
def choose (p : Parameter) (names : List String) : Option ParameterValue :=
  (names.findSome? p.valueFor?).or p.default

theorem choose_congr {p q : Parameter} {names : List String}
    (hdefault : q.default = p.default)
    (h : ∀ name ∈ names, q.valueFor? name = p.valueFor? name) : q.choose names = p.choose names := by
  rw [choose, choose, hdefault]
  congr 1
  induction names with
  | nil => rfl
  | cons name names ih =>
      rw [List.forall_mem_cons] at h
      rw [List.findSome?_cons, List.findSome?_cons, h.1, ih h.2]

theorem choose_filter (p : Parameter) (holds : NamedCondition → Bool)
    (conditions : List NamedCondition) :
    p.choose ((conditions.filter holds).map (·.name)) =
      match conditions.find? fun named => holds named && (p.valueFor? named.name).isSome with
      | some named => p.valueFor? named.name
      | none => p.default := by
  rw [choose]
  induction conditions with
  | nil => rfl
  | cons named rest ih =>
      rw [List.find?_cons]
      cases hn : holds named with
      | false => simpa [hn] using ih
      | true =>
          cases hv : p.valueFor? named.name with
          | none => simpa [hn, hv] using ih
          | some value => simp [hn, hv]

/-- The parameter that gives each of some names the name itself, and has no default. -/
def picking (names : List String) : Parameter :=
  { default := none
    conditional := names.map fun name => (name, .explicit name)
    valueType := .unspecified
    description := .null }

theorem valueFor?_picking (names : List String) (name : String) :
    (picking names).valueFor? name = if names.contains name then some (.explicit name) else none := by
  change find? (names.map fun name => (name, ParameterValue.explicit name)) name = _
  induction names with
  | nil => rfl
  | cons n names ih =>
      rw [List.map_cons, find?_cons, ih]
      by_cases hn : n = name
      · simp [hn]
      · simp [hn, Ne.symm hn]

theorem choose_picking (picked names : List String) :
    (picking picked).choose names = (names.find? picked.contains).map .explicit := by
  rw [choose, funext (valueFor?_picking picked), picking, Option.or_none]
  induction names with
  | nil => rfl
  | cons name names ih =>
      rw [List.findSome?_cons, List.find?_cons, ih]
      cases picked.contains name <;> rfl

/-- Two rows of names give every parameter the same value just when the names come in the same
order in both, each counted at its first place. -/
theorem forall_choose_eq_iff (names others : List String) :
    (∀ p : Parameter, p.choose names = p.choose others) ↔ names.eraseDups = others.eraseDups := by
  constructor
  · intro h
    apply eraseDups_eq_of_find?
    intro picked
    have hpicked := h (picking picked)
    rw [choose_picking, choose_picking] at hpicked
    exact Option.map_injective (fun _ _ => ParameterValue.explicit.inj) hpicked
  · intro h p
    rw [choose, choose, ← findSome?_eraseDups, h, findSome?_eraseDups]

end Parameter

/-! ## Conditions at their places -/

/-- A declared condition holds by itself, whatever the verdict under its name. -/
def NamedCondition.isMet (c : Context) (named : NamedCondition) : Bool :=
  (named.condition.holds c).toOption.getD false

namespace Template

variable {t : Template} {c : Context}

/-- The value of a parameter for the first declared condition that holds by itself and for whose
name there is one, or else its default. -/
def chosenInOrder (t : Template) (c : Context) (p : Parameter) : Option ParameterValue :=
  match t.conditions.find? fun named => named.isMet c && (p.valueFor? named.name).isSome with
  | some named => p.valueFor? named.name
  | none => p.default

/-- The names of the declared conditions that hold by themselves. -/
def metNames (t : Template) (c : Context) : List String :=
  (t.conditions.filter (·.isMet c)).map (·.name)

/-- The names of the declared conditions, as often as they are declared, under which the verdict is
true. -/
def trueNames (t : Template) (c : Context) : List String :=
  (t.conditions.filter fun named => t.verdict c named.name == some true).map (·.name)

theorem chosenInOrder_eq (p : Parameter) : t.chosenInOrder c p = p.choose (t.metNames c) := by
  rw [metNames, p.choose_filter]
  rfl

theorem chosen_eq (p : Parameter) : t.chosen c p = p.choose (t.trueNames c) := by
  rw [trueNames, p.choose_filter]
  rfl

/-- A condition whose name is declared once has the verdict under its name. -/
theorem verdict_of_nodup (h : (t.conditions.map (·.name)).Nodup) {named : NamedCondition}
    (hmem : named ∈ t.conditions) :
    t.verdict c named.name = (named.condition.holds c).toOption := by
  rw [verdict]
  cases hlast : t.conditions.reverse.find? fun other => other.name == named.name with
  | none =>
      have hne := List.find?_eq_none.mp hlast named (List.mem_reverse.mpr hmem)
      exact absurd (beq_self_eq_true named.name) hne
  | some other =>
      have hname : other.name = named.name := by simpa using List.find?_some hlast
      have hother := List.mem_reverse.mp (List.mem_of_find?_eq_some hlast)
      rw [List.inj_on_of_nodup_map h hother hmem hname]
      rfl

theorem metNames_eq_trueNames (h : (t.conditions.map (·.name)).Nodup) :
    t.metNames c = t.trueNames c := by
  have hmet : ∀ named ∈ t.conditions,
      named.isMet c = (t.verdict c named.name == some true) := by
    intro named hmem
    rw [verdict_of_nodup h hmem, NamedCondition.isMet]
    cases named.condition.holds c with
    | error e => rfl
    | ok b => cases b <;> rfl
  rw [metNames, trueNames, List.filter_congr hmet]

/-- In a context on which every condition has a verdict, all parameters take their values in the
declared order of the conditions just when the names of the conditions that hold by themselves and
the names with a true verdict have their first places in the same order. They do when no name is
declared twice. -/
theorem priority_is_declared_order_iff
    (hc : ∀ named ∈ t.conditions, ∃ b, named.condition.holds c = .ok b) :
    ∃ verdicts, Verdicts.ofConditions c t.conditions = .ok verdicts ∧
      ((∀ p, Config.chosenValue? verdicts t.conditions p = t.chosenInOrder c p) ↔
        (t.metNames c).eraseDups = (t.trueNames c).eraseDups) ∧
      ((t.conditions.map (·.name)).Nodup →
        ∀ p, Config.chosenValue? verdicts t.conditions p = t.chosenInOrder c p) := by
  have hfaults : ∀ named ∈ t.conditions, ¬ named.condition.Faults c 0 := fun named hmem =>
    (Condition.holdsAt_ok_iff c named.condition 0).1 (hc named hmem)
  obtain ⟨verdicts, hv⟩ := (Verdicts.extend_ok_iff c [] t.conditions).2 hfaults
  have hchosen : ∀ p, Config.chosenValue? verdicts t.conditions p = p.choose (t.trueNames c) := by
    intro p
    rw [Config.chosenValue?_eq hv, chosen_eq]
  refine ⟨verdicts, hv, ?_, ?_⟩
  · simp only [hchosen, chosenInOrder_eq]
    rw [Parameter.forall_choose_eq_iff, eq_comm]
  · intro h p
    rw [hchosen, chosenInOrder_eq, metNames_eq_trueNames h]

/-- A template that declares a name before and after another one. The first of the three conditions
does not hold, the others do. -/
def interleaved : Json :=
  .obj [("conditions", .arr [.obj [("name", .str "a"), ("condition", .obj [("false", .obj [])])],
      .obj [("name", .str "b"), ("condition", .obj [("true", .obj [])])],
      .obj [("name", .str "a"), ("condition", .obj [("true", .obj [])])]]),
    ("parameters", .obj [("p", .obj [("conditionalValues", .obj
      [("a", .obj [("value", .str "third")]), ("b", .obj [("value", .str "second")])])])])]

/-- The names that hold come as b and a, but the names with a true verdict as a and b, so not all
parameters take their values in the declared order. -/
theorem interleaved_loses_order :
    ∃ t verdicts, Template.ofSource interleaved = .ok t ∧
      Verdicts.ofConditions (.ofSignals []) t.conditions = .ok verdicts ∧
      (t.metNames (.ofSignals [])).eraseDups = ["b", "a"] ∧
      (t.trueNames (.ofSignals [])).eraseDups = ["a", "b"] ∧
      ¬ ∀ p, Config.chosenValue? verdicts t.conditions p =
        t.chosenInOrder (.ofSignals []) p := by
  obtain ⟨t, ht⟩ : ∃ t, Template.ofSource interleaved = .ok t := ⟨_, rfl⟩
  have hc : ∀ named ∈ t.conditions, ∃ b, named.condition.holds (.ofSignals []) = .ok b := by
    cases ht
    simp [Condition.holds, Condition.holdsAt]
  obtain ⟨verdicts, hv, horder, _⟩ := priority_is_declared_order_iff hc
  have hmet : (t.metNames (.ofSignals [])).eraseDups = ["b", "a"] := by
    cases ht
    decide
  have htrue : (t.trueNames (.ofSignals [])).eraseDups = ["a", "b"] := by
    cases ht
    decide
  refine ⟨t, verdicts, ht, hv, hmet, htrue, ?_⟩
  rw [horder, hmet, htrue]
  decide

/-- The second of three conditions is the first that holds, and the parameter has a value for its
name. The value for the third one is used, because the first has the same name. -/
theorem third_condition_takes_first_place :
    ∃ t config p, Template.ofSource interleaved = .ok t ∧
      ((Session.empty [] none).keep t).evaluate (.flat .null) = .ok config ∧
      find? t.parameters "p" = some p ∧
      t.chosenInOrder (.ofSignals []) p = some (.explicit "second") ∧
      config.get "p" = .ofText .remote "third" :=
  ⟨_, _, _, rfl, rfl, rfl, rfl, rfl⟩

end Template

end Rollout
