import Rollout.Condition.Reader

/-!
# What the reader of conditions refuses

A condition is read by the first key that its object sets, and the conditions below that key are
read in order. The only value that cannot be read is an infinite number in place of a bound of a
percent rule that is looked at; a bound of any other kind is an integer or counts as missing.

## Implementation notes

The reader goes through members by structural recursion. `ofJson_eq` restates it through
`Json.field`, for values of every kind; inductions on conditions then run on the size of the
value, because the conditions of a payload are smaller than the value around it.
-/

namespace Rollout

namespace Json

theorem field_cons (k key : String) (j : Json) (rest : List (String × Json)) :
    (obj ((k, j) :: rest)).field key = if k == key then j else (obj rest).field key := by
  by_cases h : k == key <;> simp [field, Entries.find?, h]

theorem sizeOf_lt_of_find? {members : List (String × Json)} {key : String} {j : Json}
    (h : Entries.find? members key = some j) : sizeOf j < sizeOf members := by
  have hmem := List.sizeOf_lt_of_mem (Entries.mem_of_find? h)
  rw [Prod.mk.sizeOf_spec] at hmem
  omega

/-- A member that is there is smaller than its object. -/
theorem sizeOf_field_lt {j : Json} {key : String} (h : (j.field key).isNull = false) :
    sizeOf (j.field key) < sizeOf j := by
  cases j with
  | obj members =>
      cases hf : Entries.find? members key with
      | none => simp [field, hf, isNull] at h
      | some v =>
          have := sizeOf_lt_of_find? hf
          simp only [field, hf, Option.getD_some, obj.sizeOf_spec]
          omega
  | _ => simp [field, isNull] at h

/-- Recognise the two infinite numbers. -/
def isInfinite : Json → Bool
  | .float (.infinite _) => true
  | _ => false

/-- The only value without an answer to the question for its integer is an infinite number. -/
theorem toInt?_eq (j : Json) :
    (j.isInfinite = true ∧ j.toInt? = .error .infiniteInteger) ∨
      (j.isInfinite = false ∧ ∃ n, j.toInt? = .ok n) := by
  cases j with
  | float x => cases x <;> simp [isInfinite, toInt?, Binary64.truncate?]
  | str s => cases h : Numeral.readInt s.toList <;> simp [isInfinite, toInt?, h]
  | _ => simp [isInfinite, toInt?]

end Json

/-- A computation ends in the fault of an infinite number when `p` holds, and succeeds when it
does not. -/
structure FailsIff {α : Type} (p : Prop) (r : Except Fault α) : Prop where
  error : p → r = .error .infiniteInteger
  ok : ¬ p → ∃ a, r = .ok a

namespace FailsIff

variable {α β : Type} {p q : Prop} {r : Except Fault α}

theorem of_ok {a : α} (hp : ¬ p) (hr : r = .ok a) : FailsIff p r :=
  ⟨fun h => absurd h hp, fun _ => ⟨a, hr⟩⟩

theorem of_iff (h : FailsIff p r) (hpq : p ↔ q) : FailsIff q r :=
  ⟨fun hq => h.error (hpq.mpr hq), fun hq => h.ok fun hp => hq (hpq.mp hp)⟩

theorem ok_iff (h : FailsIff p r) : (∃ a, r = .ok a) ↔ ¬ p := by
  constructor
  · rintro ⟨a, ha⟩ hp
    rw [h.error hp] at ha
    cases ha
  · exact h.ok

end FailsIff

namespace PercentRule

theorem readBound_failsIff (j : Json) : FailsIff (j.isInfinite = true) (readBound j) := by
  cases j with
  | bool b => exact .of_ok (by simp [Json.isInfinite]) rfl
  | _ =>
      simp only [readBound]
      rcases Json.toInt?_eq _ with ⟨hi, hr⟩ | ⟨hi, n, hr⟩
      · exact ⟨fun _ => hr, fun h => absurd hi h⟩
      · exact .of_ok (by simp [hi]) hr

/-- One of the bounds of a range is infinite. -/
def InfiniteRange (j : Json) : Prop :=
  (j.field "microPercentLowerBound").isInfinite = true ∨
    (j.field "microPercentUpperBound").isInfinite = true

/-- One of the bounds that the payload of a percent rule gives is infinite. -/
def InfiniteBound (j : Json) : Prop :=
  InfiniteRange (j.field "microPercentRange") ∨ (j.field "microPercent").isInfinite = true

theorem isNull_of_infiniteBound {j : Json} (h : InfiniteBound j) : j.isNull = false := by
  cases j with
  | null => simp [InfiniteBound, InfiniteRange, Json.field, Json.isInfinite] at h
  | _ => rfl

theorem readRange_failsIff (j : Json) : FailsIff (InfiniteRange j) (readRange j) := by
  cases j with
  | obj members =>
      have hl := readBound_failsIff ((Json.obj members).field "microPercentLowerBound")
      have hu := readBound_failsIff ((Json.obj members).field "microPercentUpperBound")
      constructor
      · rintro (h | h)
        · simp only [readRange, hl.error h]
        · by_cases h' : ((Json.obj members).field "microPercentLowerBound").isInfinite = true
          · simp only [readRange, hl.error h']
          · obtain ⟨lower, hlower⟩ := hl.ok h'
            simp only [readRange, hlower, hu.error h]
      · intro h
        obtain ⟨lower, hlower⟩ := hl.ok fun h' => h (.inl h')
        obtain ⟨upper, hupper⟩ := hu.ok fun h' => h (.inr h')
        exact ⟨some { lower := lower, upper := upper }, by simp only [readRange, hlower, hupper]⟩
  | _ => exact .of_ok (by simp [InfiniteRange, Json.field, Json.isInfinite]) rfl

theorem ofJson_failsIff (j : Json) : FailsIff (InfiniteBound j) (ofJson j) := by
  have hr := readRange_failsIff (j.field "microPercentRange")
  have hb := readBound_failsIff (j.field "microPercent")
  constructor
  · intro h
    by_cases hrange : InfiniteRange (j.field "microPercentRange")
    · simp only [ofJson, hr.error hrange]
    · obtain ⟨range, hrange'⟩ := hr.ok hrange
      simp only [ofJson, hrange', hb.error (h.resolve_left hrange)]
  · intro h
    obtain ⟨range, hrange⟩ := hr.ok fun h' => h (.inl h')
    obtain ⟨limit, hlimit⟩ := hb.ok fun h' => h (.inr h')
    exact ⟨_, by simp only [ofJson, hrange, hlimit]; rfl⟩

end PercentRule

namespace Condition

/-- The conditions that a payload of a combination lists. -/
def listed (payload : Json) : List Json :=
  match payload.field "conditions" with
  | .arr items => items
  | _ => []

theorem sizeOf_lt_of_mem_listed {payload j : Json} (h : j ∈ listed payload) :
    sizeOf j < sizeOf payload := by
  unfold listed at h
  split at h
  · rename_i items hitems
    have hnull : (payload.field "conditions").isNull = false := by rw [hitems]; rfl
    have hfield := Json.sizeOf_field_lt hnull
    have hitem := List.sizeOf_lt_of_mem h
    rw [hitems, Json.arr.sizeOf_spec] at hfield
    omega
  · simp at h

theorem isNull_of_mem_listed {payload j : Json} (h : j ∈ listed payload) :
    payload.isNull = false := by
  cases payload with
  | null => simp [listed, Json.field] at h
  | _ => rfl

/-- The conditions below a key are smaller than the value that has the key. -/
theorem sizeOf_lt_of_mem_listed_field {j sub : Json} {key : String}
    (h : sub ∈ listed (j.field key)) : sizeOf sub < sizeOf j :=
  Nat.lt_trans (sizeOf_lt_of_mem_listed h) (Json.sizeOf_field_lt (isNull_of_mem_listed h))

theorem readMember_eq (key : String) (members : List (String × Json)) :
    readMember key members =
      if ((Json.obj members).field key).isNull then none
      else some (readPayload ((Json.obj members).field key)) := by
  induction members with
  | nil => simp [readMember, Json.field, Json.isNull]
  | cons e rest ih =>
      obtain ⟨k, j⟩ := e
      rw [Json.field_cons, readMember, ih]
      by_cases hk : k == key
      · rw [if_pos hk, if_pos hk]
      · rw [if_neg hk, if_neg hk]

theorem readConditions_eq (members : List (String × Json)) :
    readConditions members = readItems (listed (.obj members)) := by
  induction members with
  | nil => simp [readConditions, listed, Json.field, readItems]
  | cons e rest ih =>
      obtain ⟨k, j⟩ := e
      rw [listed, Json.field_cons, readConditions, ih]
      by_cases hk : k == "conditions"
      · rw [if_pos hk, if_pos hk]
        cases j <;> simp [readArray, readItems]
      · rw [if_neg hk, if_neg hk, listed]

theorem readPayload_eq (payload : Json) : readPayload payload = readItems (listed payload) := by
  cases payload with
  | obj members => rw [readPayload, readConditions_eq]
  | _ => simp [readPayload, listed, Json.field, readItems]

/-- A condition is read by the first of the combining keys that is set, and as a leaf if there
is none. -/
theorem ofJson_eq (j : Json) :
    ofJson j =
      if (j.field "orCondition").isNull = false then
        combine .any (readItems (listed (j.field "orCondition")))
      else if (j.field "andCondition").isNull = false then
        combine .all (readItems (listed (j.field "andCondition")))
      else readLeaf j := by
  cases j with
  | obj members =>
      rw [ofJson, readMember_eq, readMember_eq, readPayload_eq, readPayload_eq]
      cases ((Json.obj members).field "orCondition").isNull <;>
        cases ((Json.obj members).field "andCondition").isNull <;> rfl
  | _ => simp [ofJson, readLeaf, Json.field, Json.isNull]

/-- A bound of a percent rule that the reader looks at is infinite: the rule stands at a leaf, and
on the way to it every combination is found under the first combining key that is set. -/
inductive InfiniteBound : Json → Prop
  | any {j sub : Json} (mem : sub ∈ listed (j.field "orCondition")) (inner : InfiniteBound sub) :
      InfiniteBound j
  | all {j sub : Json} (noAny : (j.field "orCondition").isNull = true)
      (mem : sub ∈ listed (j.field "andCondition")) (inner : InfiniteBound sub) :
      InfiniteBound j
  | percent {j : Json} (noAny : (j.field "orCondition").isNull = true)
      (noAll : (j.field "andCondition").isNull = true)
      (noAlways : (j.field "true").isNull = true) (noNever : (j.field "false").isNull = true)
      (bound : PercentRule.InfiniteBound (j.field "percent")) : InfiniteBound j

theorem infiniteBound_iff_of_any {j : Json} (h : (j.field "orCondition").isNull = false) :
    (∃ sub ∈ listed (j.field "orCondition"), InfiniteBound sub) ↔ InfiniteBound j := by
  constructor
  · rintro ⟨sub, hmem, hsub⟩
    exact .any hmem hsub
  · intro hj
    cases hj with
    | any hmem hsub => exact ⟨_, hmem, hsub⟩
    | all hnull => simp [h] at hnull
    | percent hnull => simp [h] at hnull

theorem infiniteBound_iff_of_all {j : Json} (ho : (j.field "orCondition").isNull = true)
    (ha : (j.field "andCondition").isNull = false) :
    (∃ sub ∈ listed (j.field "andCondition"), InfiniteBound sub) ↔ InfiniteBound j := by
  constructor
  · rintro ⟨sub, hmem, hsub⟩
    exact .all ho hmem hsub
  · intro hj
    cases hj with
    | any hmem => simp [isNull_of_mem_listed hmem] at ho
    | all _ hmem hsub => exact ⟨_, hmem, hsub⟩
    | percent _ hnull => simp [ha] at hnull

theorem infiniteBound_iff_of_leaf {j : Json} (ho : (j.field "orCondition").isNull = true)
    (ha : (j.field "andCondition").isNull = true) :
    InfiniteBound j ↔
      (j.field "true").isNull = true ∧ (j.field "false").isNull = true ∧
        PercentRule.InfiniteBound (j.field "percent") := by
  constructor
  · intro hj
    cases hj with
    | any hmem => simp [isNull_of_mem_listed hmem] at ho
    | all _ hmem => simp [isNull_of_mem_listed hmem] at ha
    | percent _ _ ht hf hbound => exact ⟨ht, hf, hbound⟩
  · rintro ⟨ht, hf, hbound⟩
    exact .percent ho ha ht hf hbound

theorem combine_failsIff {p : Prop} {node : List Condition → Condition}
    {r : Except Fault (List Condition)} (h : FailsIff p r) : FailsIff p (combine node r) := by
  constructor
  · intro hp
    rw [h.error hp, combine]
  · intro hp
    obtain ⟨conditions, hr⟩ := h.ok hp
    exact ⟨node conditions, by rw [hr, combine]⟩

theorem readItems_failsIff {items : List Json}
    (h : ∀ j ∈ items, FailsIff (InfiniteBound j) (ofJson j)) :
    FailsIff (∃ j ∈ items, InfiniteBound j) (readItems items) := by
  induction items with
  | nil => exact .of_ok (by simp) (by rw [readItems])
  | cons j rest ih =>
      have hj := h j (by simp)
      have hrest := ih fun j hj => h j (by simp [hj])
      constructor
      · rintro ⟨sub, hmem, hsub⟩
        by_cases hinf : InfiniteBound j
        · rw [readItems, hj.error hinf]
        · obtain ⟨condition, hc⟩ := hj.ok hinf
          have hsub' : sub ∈ rest := (List.mem_cons.mp hmem).resolve_left fun he => hinf (he ▸ hsub)
          rw [readItems, hc, hrest.error ⟨sub, hsub', hsub⟩]
      · intro hinf
        obtain ⟨condition, hc⟩ := hj.ok fun h' => hinf ⟨j, by simp, h'⟩
        obtain ⟨conditions, hcs⟩ := hrest.ok fun ⟨sub, hmem, hsub⟩ =>
          hinf ⟨sub, by simp [hmem], hsub⟩
        exact ⟨condition :: conditions, by rw [readItems, hc, hcs]⟩

theorem readPercent_failsIff (j : Json) :
    FailsIff (PercentRule.InfiniteBound j) (readPercent j) := by
  cases j with
  | obj members =>
      have h := PercentRule.ofJson_failsIff (.obj members)
      constructor
      · intro hinf
        rw [readPercent, h.error hinf]
      · intro hinf
        obtain ⟨rule, hr⟩ := h.ok hinf
        exact ⟨.percent rule, by rw [readPercent, hr]⟩
  | _ =>
      refine .of_ok ?_ rfl
      simp [PercentRule.InfiniteBound, PercentRule.InfiniteRange, Json.field, Json.isInfinite]

theorem readLeaf_failsIff {j : Json} (ho : (j.field "orCondition").isNull = true)
    (ha : (j.field "andCondition").isNull = true) :
    FailsIff (InfiniteBound j) (readLeaf j) := by
  have hiff := infiniteBound_iff_of_leaf ho ha
  unfold readLeaf
  split
  · rename_i ht
    refine .of_ok (fun h => ?_) rfl
    rw [(hiff.mp h).1] at ht
    cases ht
  rename_i ht
  split
  · rename_i hf
    refine .of_ok (fun h => ?_) rfl
    rw [(hiff.mp h).2.1] at hf
    cases hf
  rename_i hf
  split
  · apply (readPercent_failsIff _).of_iff
    simp only [Bool.not_eq_true', Bool.not_eq_false] at ht hf
    rw [hiff, and_iff_right ht, and_iff_right hf]
  rename_i hp
  have hno : ¬ InfiniteBound j := by
    intro hinf
    have hnull := PercentRule.isNull_of_infiniteBound (hiff.mp hinf).2.2
    simp [hnull] at hp
  split
  · exact .of_ok hno rfl
  · exact .of_ok hno rfl

/-- Reading a condition succeeds unless it meets an infinite bound. -/
theorem ofJson_failsIff (j : Json) : FailsIff (InfiniteBound j) (ofJson j) := by
  rw [ofJson_eq]
  split
  · rename_i ho
    have hitems : FailsIff (∃ sub ∈ listed (j.field "orCondition"), InfiniteBound sub)
        (readItems (listed (j.field "orCondition"))) :=
      readItems_failsIff fun sub hmem => ofJson_failsIff sub
    exact combine_failsIff (hitems.of_iff (infiniteBound_iff_of_any ho))
  rename_i ho
  simp only [Bool.not_eq_false] at ho
  split
  · rename_i ha
    have hitems : FailsIff (∃ sub ∈ listed (j.field "andCondition"), InfiniteBound sub)
        (readItems (listed (j.field "andCondition"))) :=
      readItems_failsIff fun sub hmem => ofJson_failsIff sub
    exact combine_failsIff (hitems.of_iff (infiniteBound_iff_of_all ho ha))
  · rename_i ha
    simp only [Bool.not_eq_false] at ha
    exact readLeaf_failsIff ho ha
termination_by sizeOf j
decreasing_by
  all_goals exact sizeOf_lt_of_mem_listed_field hmem

end Condition

end Rollout
