import Rollout.Proofs.Condition.Combination
import Rollout.Proofs.Condition.Reading

/-!
# Malformed conditions

A value is malformed as a condition when it is no object, sets none of the keys of a condition, or
has a payload of the wrong shape under the first key that it sets. Such a condition does not hold,
wherever it stands in a tree, with one exception: a conjunction with a payload of the wrong shape
counts as an empty one, which holds unless it lies too deep.

## Implementation notes

A condition in a tree is replaced whether or not the reader comes to it. Reading and evaluating are
compared together: both trees end in the same fault, or in conditions with the same verdict.
-/

namespace Rollout

open Entries

namespace Json

theorem field_put (members : List (String × Json)) (key k : String) (j : Json) :
    (obj (put members key j)).field k = if key == k then j else (obj members).field k := by
  simp only [field, find?_put]
  split <;> rfl

theorem field_of_kind_ne {j : Json} (h : j.kind ≠ .obj) (key : String) : j.field key = .null := by
  cases j with
  | obj members => exact absurd rfl h
  | _ => rfl

end Json

/-- Two computations end in the same fault, or in results that are related. -/
inductive Corresponds {α : Type} (R : α → α → Prop) : Except Fault α → Except Fault α → Prop
  | error (e : Fault) : Corresponds R (.error e) (.error e)
  | ok {x y : α} (related : R x y) : Corresponds R (.ok x) (.ok y)

theorem Corresponds.refl {α : Type} {R : α → α → Prop} (h : ∀ x, R x x) (r : Except Fault α) :
    Corresponds R r r := by
  cases r with
  | error e => exact .error e
  | ok x => exact .ok (h x)

namespace Condition

/-! ## The key that is read -/

/-- The kinds of conditions that a key can select. -/
inductive Variant
  | any
  | all
  | always
  | never
  | percent
  | signal
  deriving DecidableEq

namespace Variant

/-- The key of a variant. -/
def key : Variant → String
  | .any => "orCondition"
  | .all => "andCondition"
  | .always => "true"
  | .never => "false"
  | .percent => "percent"
  | .signal => "customSignal"

/-- The variants in the order in which their keys are looked for. -/
def inOrder : List Variant := [.any, .all, .always, .never, .percent, .signal]

end Variant

/-- The variant whose key is the first that a value sets to something other than null. -/
def variant? (j : Json) : Option Variant := Variant.inOrder.find? fun v => !(j.field v.key).isNull

/-- A condition is read from the payload of its variant. -/
theorem ofJson_eq_variant (j : Json) :
    ofJson j = match variant? j with
      | some .any => combine .any (readItems (listed (j.field Variant.any.key)))
      | some .all => combine .all (readItems (listed (j.field Variant.all.key)))
      | some .always => .ok .always
      | some .never => .ok .never
      | some .percent => readPercent (j.field Variant.percent.key)
      | some .signal => .ok (readSignal (j.field Variant.signal.key))
      | none => .ok (.unrecognized j) := by
  rw [ofJson_eq]
  simp only [readLeaf, variant?, Variant.inOrder, List.find?_cons, List.find?_nil, Variant.key]
  cases (j.field "orCondition").isNull
  · rfl
  cases (j.field "andCondition").isNull
  · rfl
  cases (j.field "true").isNull
  · rfl
  cases (j.field "false").isNull
  · rfl
  cases (j.field "percent").isNull
  · rfl
  cases (j.field "customSignal").isNull
  · rfl
  · rfl

/-! ## Malformed values -/

/-- The payload of a combination is no object, or gives something else than a list of conditions. -/
def BrokenCombination (payload : Json) : Prop :=
  payload.kind ≠ .obj ∨
    ((payload.field "conditions").isNull = false ∧ (payload.field "conditions").kind ≠ .arr)

/-- The payload of a comparison is no object, or gives targets that are no list and no text. -/
def BrokenSignal (payload : Json) : Prop :=
  payload.kind ≠ .obj ∨
    ((payload.field "targetCustomSignalValues").isSet = true ∧
      (payload.field "targetCustomSignalValues").kind ≠ .arr ∧
      (payload.field "targetCustomSignalValues").kind ≠ .str)

/-- The payloads of the wrong shape. -/
inductive Broken (payload : Json) : Variant → Prop
  | any (h : BrokenCombination payload) : Broken payload .any
  | all (h : BrokenCombination payload) : Broken payload .all
  | percent (h : payload.kind ≠ .obj) : Broken payload .percent
  | signal (h : BrokenSignal payload) : Broken payload .signal

/-- The values that are no condition. -/
inductive Malformed (j : Json) : Prop
  | notObject (h : j.kind ≠ .obj)
  | noVariant (h : variant? j = none)
  | broken {v : Variant} (h : variant? j = some v) (payload : Broken (j.field v.key) v)

theorem listed_of_broken {payload : Json} (h : BrokenCombination payload) :
    listed payload = [] := by
  unfold listed
  split
  · rename_i items hitems
    rcases h with h | ⟨_, h⟩
    · rw [Json.field_of_kind_ne h] at hitems
      cases hitems
    · rw [hitems] at h
      exact absurd rfl h
  · rfl

theorem readPercent_of_broken {payload : Json} (h : payload.kind ≠ .obj) :
    readPercent payload = .ok (.unrecognized (.obj [("percent", payload)])) := by
  cases payload with
  | obj members => exact absurd rfl h
  | _ => rfl

theorem readTargets_of_broken {j : Json} (hset : j.isSet = true) (harr : j.kind ≠ .arr)
    (hstr : j.kind ≠ .str) : readTargets j = none := by
  unfold readTargets
  rw [hset]
  cases j with
  | arr items => exact absurd rfl harr
  | str | stray => exact absurd rfl hstr
  | _ => rfl

theorem readSignal_of_broken {payload : Json} (h : BrokenSignal payload) :
    readSignal payload = .unrecognized (.obj [("customSignal", payload)]) := by
  cases payload with
  | obj members =>
      rcases h with h | ⟨hset, harr, hstr⟩
      · exact absurd rfl h
      · simp only [readSignal, readTargets_of_broken hset harr hstr]
  | _ => rfl

/-- What a malformed value is read as: a conjunction holds at the levels that are not too deep, and
nothing else holds. -/
theorem ofJson_of_malformed {j : Json} (h : Malformed j) :
    ∃ x, ofJson j = .ok x ∧ ∀ c level,
      holdsAt c x level = .ok (variant? j == some .all && decide (level < maxDepth)) := by
  have hnone (hv : variant? j = none) : ∃ x, ofJson j = .ok x ∧ ∀ c level,
      holdsAt c x level = .ok (variant? j == some .all && decide (level < maxDepth)) := by
    rw [ofJson_eq_variant, hv]
    exact ⟨_, rfl, fun c level => by rw [holdsAt]; rfl⟩
  cases h with
  | notObject hkind =>
      apply hnone
      simp [variant?, Json.field_of_kind_ne hkind, Json.isNull]
  | noVariant hv => exact hnone hv
  | broken hv payload =>
      rw [ofJson_eq_variant, hv]
      cases payload with
      | any hbroken =>
          refine ⟨.any [], by simp only [listed_of_broken hbroken, readItems, combine], ?_⟩
          intro c level
          rw [holdsAt, anyHoldsAt, ite_self]
          rfl
      | all hbroken =>
          refine ⟨.all [], by simp only [listed_of_broken hbroken, readItems, combine], ?_⟩
          intro c level
          rw [holdsAt, allHoldAt]
          by_cases hdeep : maxDepth ≤ level
          · simp [hdeep]
          · simp [hdeep, Int.not_le.mp hdeep]
      | percent hbroken =>
          exact ⟨_, readPercent_of_broken hbroken, fun c level => by rw [holdsAt]; rfl⟩
      | signal hbroken =>
          refine ⟨_, congrArg Except.ok (readSignal_of_broken hbroken), fun c level => ?_⟩
          rw [holdsAt]
          rfl

/-! ## Replacing a condition in a tree -/

/-- A tree becomes another one by replacing `sub` at one place, which is enclosed by a number of
combinations. -/
inductive Replaced (sub other : Json) : Nat → Json → Json → Prop
  | here : Replaced sub other 0 sub other
  | inside {depth : Nat} {v : Variant} {members payload : List (String × Json)}
      {before after : List Json} {x y : Json} (combining : v = .any ∨ v = .all)
      (member : find? members v.key = some (.obj payload))
      (conditions : find? payload "conditions" = some (.arr (before ++ x :: after)))
      (inner : Replaced sub other depth x y) :
      Replaced sub other (depth + 1) (.obj members)
        (.obj (put members v.key (.obj (put payload "conditions" (.arr (before ++ y :: after))))))

/-- The verdict on the condition that a value describes. -/
def judge (c : Context) (j : Json) (level : Int) : Except Fault Bool :=
  match ofJson j with
  | .error e => .error e
  | .ok condition => holdsAt c condition level

/-- Two conditions have the same verdict. -/
def Agree (c : Context) (level : Int) (x y : Condition) : Prop :=
  holdsAt c x level = holdsAt c y level

variable {c : Context} {level : Int}

theorem readItems_corresponds {x y : Json} (before after : List Json)
    (h : Corresponds (Agree c level) (ofJson x) (ofJson y)) :
    Corresponds (List.Forall₂ (Agree c level)) (readItems (before ++ x :: after))
      (readItems (before ++ y :: after)) := by
  induction before with
  | nil =>
      rw [List.nil_append, List.nil_append, readItems, readItems]
      generalize ofJson x = r, ofJson y = s at h
      cases h with
      | error e => exact .error e
      | ok hxy =>
          cases readItems after with
          | error e => exact .error e
          | ok conditions => exact .ok (.cons hxy (List.forall₂_same.2 fun _ _ => rfl))
  | cons z before ih =>
      rw [List.cons_append, List.cons_append, readItems, readItems]
      cases ofJson z with
      | error e => exact .error e
      | ok condition =>
          generalize readItems (before ++ x :: after) = r,
            readItems (before ++ y :: after) = s at ih
          cases ih with
          | error e => exact .error e
          | ok hrest => exact .ok (.cons rfl hrest)

theorem combine_any_corresponds {r s : Except Fault (List Condition)}
    (h : Corresponds (List.Forall₂ (Agree c (level + 1))) r s) :
    Corresponds (Agree c level) (combine .any r) (combine .any s) := by
  cases h with
  | error e => exact .error e
  | ok hrel =>
      apply Corresponds.ok
      rw [Agree, holdsAt, holdsAt, anyHoldsAt_congr hrel]

theorem combine_all_corresponds {r s : Except Fault (List Condition)}
    (h : Corresponds (List.Forall₂ (Agree c (level + 1))) r s) :
    Corresponds (Agree c level) (combine .all r) (combine .all s) := by
  cases h with
  | error e => exact .error e
  | ok hrel =>
      apply Corresponds.ok
      rw [Agree, holdsAt, holdsAt, allHoldAt_congr hrel]

/-- Other conditions put into a combination are read in place of those that were there, unless the
combination is not looked at. -/
theorem ofJson_combination_cases {v : Variant} {members payload : List (String × Json)}
    {items : List Json} (combining : v = .any ∨ v = .all)
    (member : find? members v.key = some (.obj payload))
    (conditions : find? payload "conditions" = some (.arr items)) (items' : List Json) :
    ofJson (.obj (put members v.key (.obj (put payload "conditions" (.arr items'))))) =
        ofJson (.obj members) ∨
      ∃ node, (node = .any ∨ node = .all) ∧
        ofJson (.obj members) = combine node (readItems items) ∧
        ofJson (.obj (put members v.key (.obj (put payload "conditions" (.arr items'))))) =
          combine node (readItems items') := by
  have hpayload : (Json.obj members).field v.key = .obj payload := by simp [Json.field, member]
  have hlisted : listed (.obj payload) = items := by simp [listed, Json.field, conditions]
  have hlisted' : listed (.obj (put payload "conditions" (.arr items'))) = items' := by
    simp [listed, Json.field]
  rw [ofJson_eq, ofJson_eq]
  rcases combining with rfl | rfl
  · right
    rw [Variant.key] at hpayload
    simp only [Variant.key, Json.field_put, beq_self_eq_true, if_true, Json.isNull, hpayload,
      hlisted, hlisted']
    exact ⟨.any, .inl rfl, rfl, rfl⟩
  · rw [Variant.key] at hpayload
    have hkey : ("andCondition" == "orCondition") = false := by decide
    simp only [Variant.key, Json.field_put, beq_self_eq_true, if_true, hpayload, hlisted,
      hlisted', hkey, Bool.false_eq_true, if_false]
    cases ((Json.obj members).field "orCondition").isNull with
    | false => exact .inl rfl
    | true => exact .inr ⟨.all, .inr rfl, rfl, rfl⟩

/-- A condition in a tree may be replaced by one that is read alike at its place. -/
theorem ofJson_corresponds {sub other tree tree' : Json} {depth : Nat}
    (h : Replaced sub other depth tree tree') {level : Int}
    (hsub : Corresponds (Agree c (level + depth)) (ofJson sub) (ofJson other)) :
    Corresponds (Agree c level) (ofJson tree) (ofJson tree') := by
  induction h generalizing level with
  | here => simpa using hsub
  | @inside depth v members payload before after x y combining member conditions inner ih =>
      have hlevel : level + 1 + depth = level + (depth + 1 : Nat) := by omega
      have hxy : Corresponds (Agree c (level + 1)) (ofJson x) (ofJson y) := ih (hlevel ▸ hsub)
      have hitems := readItems_corresponds before after hxy
      rcases ofJson_combination_cases combining member conditions (before ++ y :: after) with
        hsame | ⟨node, hnode, hread, hread'⟩
      · have hagree (z : Condition) : Agree c level z z := rfl
        rw [hsame]
        exact .refl hagree _
      · rw [hread, hread']
        rcases hnode with rfl | rfl
        · exact combine_any_corresponds hitems
        · exact combine_all_corresponds hitems

theorem judge_of_corresponds {j j' : Json}
    (h : Corresponds (Agree c level) (ofJson j) (ofJson j')) :
    judge c j level = judge c j' level := by
  unfold judge
  generalize ofJson j = r, ofJson j' = s at h
  cases h with
  | error e => rfl
  | ok hxy => exact hxy

/-- The condition that never holds. -/
def neverJson : Json := .obj [("false", .obj [])]

/-- The condition that always holds. -/
def alwaysJson : Json := .obj [("true", .obj [])]

/-- A constant condition that a malformed one may be replaced by at a level. -/
def constantFor (sub : Json) (level : Int) : Json :=
  if variant? sub = some .all ∧ level < maxDepth then alwaysJson else neverJson

theorem ofJson_constantFor {sub : Json} (h : Malformed sub) (level : Int) :
    Corresponds (Agree c level) (ofJson sub) (ofJson (constantFor sub level)) := by
  obtain ⟨x, hx, hverdict⟩ := ofJson_of_malformed h
  rw [hx, constantFor]
  split
  · rename_i hall
    refine .ok (?_ : holdsAt c x level = holdsAt c .always level)
    rw [hverdict, holdsAt, hall.1]
    simp [hall.2]
  · rename_i hall
    refine .ok (?_ : holdsAt c x level = holdsAt c .never level)
    rw [hverdict, holdsAt]
    simpa [imp_iff_not_or] using hall

/-- A malformed condition may be replaced by one that never holds, in every tree, unless it is a
conjunction. A malformed conjunction may be so replaced where it lies too deep, and everywhere else
by a condition that always holds. -/
theorem malformed_replaceable_iff {sub : Json} (h : Malformed sub) :
    ((∀ depth tree other, Replaced sub neverJson depth tree other →
        ∀ c level, judge c other level = judge c tree level) ↔ variant? sub ≠ some .all) ∧
      ∀ (depth : Nat) tree other c level,
        Replaced sub (constantFor sub (level + depth)) depth tree other →
          judge c other level = judge c tree level := by
  have hconstant : ∀ (depth : Nat) tree other c level,
      Replaced sub (constantFor sub (level + depth)) depth tree other →
        judge c other level = judge c tree level := fun depth tree other c level hrep =>
    (judge_of_corresponds (ofJson_corresponds hrep (ofJson_constantFor h _))).symm
  refine ⟨⟨fun hnever hall => ?_, fun hall depth tree other hrep c level => ?_⟩, hconstant⟩
  · have hroot := hnever 0 sub neverJson .here (.ofSignals []) 0
    have halways := hconstant 0 sub alwaysJson (.ofSignals []) 0
    rw [constantFor, if_pos ⟨hall, by decide⟩] at halways
    have hdiffer := hroot.trans (halways .here).symm
    cases hdiffer
  · apply hconstant depth
    rwa [constantFor, if_neg fun h => hall h.1]

/-- A comparison with targets that are no list. -/
def brokenSignal : Json := .obj [("customSignal", .obj [("targetCustomSignalValues", .int 5)])]

/-- A conjunction of conditions. -/
def conjunction (items : List Json) : Json :=
  .obj [("andCondition", .obj [("conditions", .arr items)])]

/-- A broken comparison counts as false inside a conjunction. -/
theorem brokenSignal_replaceable :
    Malformed brokenSignal ∧
      Replaced brokenSignal neverJson 1 (conjunction [alwaysJson, brokenSignal])
        (conjunction [alwaysJson, neverJson]) ∧
      ∀ c level, judge c (conjunction [alwaysJson, neverJson]) level =
        judge c (conjunction [alwaysJson, brokenSignal]) level := by
  have hmalformed : Malformed brokenSignal :=
    .broken (v := .signal) rfl (.signal (.inr ⟨rfl, by decide, by decide⟩))
  have hreplaced : Replaced brokenSignal neverJson 1 (conjunction [alwaysJson, brokenSignal])
      (conjunction [alwaysJson, neverJson]) :=
    @Replaced.inside _ _ 0 .all
      [("andCondition", .obj [("conditions", .arr [alwaysJson, brokenSignal])])]
      [("conditions", .arr [alwaysJson, brokenSignal])] [alwaysJson] [] _ _ (.inr rfl) rfl rfl .here
  have hvariant : variant? brokenSignal ≠ some .all := by decide
  exact ⟨hmalformed, hreplaced,
    ((malformed_replaceable_iff hmalformed).1.2 hvariant) _ _ _ hreplaced⟩

/-- A conjunction whose payload is no object holds, although the condition that never holds in its
place does not. -/
theorem broken_conjunction_holds :
    Malformed (.obj [("andCondition", .int 5)]) ∧
      Replaced (.obj [("andCondition", .int 5)]) neverJson 0 (.obj [("andCondition", .int 5)])
        neverJson ∧
      judge (.ofSignals []) (.obj [("andCondition", .int 5)]) 0 = .ok true ∧
      judge (.ofSignals []) neverJson 0 = .ok false :=
  ⟨.broken (v := .all) rfl (.all (.inl (by decide))), .here, rfl, rfl⟩

end Condition

end Rollout
