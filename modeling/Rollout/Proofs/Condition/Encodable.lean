import Rollout.Condition.Verdict

/-!
# When a client has a percentile

The percentile of a client is taken from the encoding of its id with a seed in front. There is one
just when neither the seed nor the id holds a stray surrogate; a percent rule that has to look at
the percentile ends in a fault otherwise.
-/

namespace Rollout

namespace Percentile

/-- Neither a seed nor an id is a text with a stray surrogate. -/
def Encodable (seed : Json) (id : RawText) : Prop :=
  (∀ t, seed ≠ .stray t) ∧ ∀ t, id ≠ .stray t

theorem characters_ok_iff (signs : List Sign) :
    (∃ cs, characters signs = .ok cs) ↔ ∀ s ∈ signs, s.char?.isNone = false := by
  induction signs with
  | nil => exact iff_of_true ⟨[], rfl⟩ nofun
  | cons s rest ih =>
      rw [List.forall_mem_cons, ← ih]
      cases s with
      | lone u => exact iff_of_false nofun fun h => nomatch h.1
      | char c =>
          cases hrest : characters rest with
          | error u => simp [characters, hrest]
          | ok cs => simp [characters, hrest, Sign.char?]

theorem hash_ok_iff (signs : List Sign) :
    (∃ n, hash signs = .ok n) ↔ ∀ s ∈ signs, s.char?.isNone = false := by
  rw [← characters_ok_iff, hash, encode]
  cases characters signs <;> simp

/-- A text consists of characters unless it is one with stray surrogates. -/
theorem forall_signs_iff (t : RawText) :
    (∀ s ∈ t.signs, s.char?.isNone = false) ↔ ∀ u, t ≠ .stray u := by
  cases t with
  | plain s => simp [RawText.signs, Sign.char?]
  | stray t =>
      have hstray := t.stray
      rw [List.any_eq_true] at hstray
      obtain ⟨s, hs, hlone⟩ := hstray
      constructor
      · intro h
        rw [h s hs] at hlone
        cases hlone
      · intro h
        exact absurd rfl (h t)

theorem rawText_ne_stray_iff (j : Json) : (∀ t, j.rawText ≠ .stray t) ↔ ∀ t, j ≠ .stray t := by
  cases j <;> simp [Json.rawText]

/-- An id has a percentile under a seed just when both can be encoded. -/
theorem ofId_ok_iff (seed : Json) (id : RawText) :
    (∃ n, ofId seed id = .ok n) ↔ Encodable seed id := by
  have hhash : (∃ n, ofId seed id = .ok n) ↔ ∃ n, hash (seeded seed id) = .ok n := by
    rw [ofId]
    cases hash (seeded seed id) <;> simp
  rw [hhash, hash_ok_iff, seeded, Encodable, ← forall_signs_iff id]
  by_cases hset : seed.isSet = true
  · rw [if_pos hset, List.forall_mem_append, List.forall_mem_cons, forall_signs_iff seed.rawText,
      rawText_ne_stray_iff]
    simp [Sign.char?]
  · have hseed : ∀ t, seed ≠ .stray t := by
      rintro t rfl
      exact hset rfl
    rw [if_neg hset, and_iff_right hseed]

end Percentile

theorem RawText.isEmpty_iff (t : RawText) : t.isEmpty = true ↔ t = "" := by
  cases t <;> simp [isEmpty]

namespace PercentRule

variable {rule : PercentRule} {c : Context}

theorem holds_eq_map {id : RawText} {op : PercentOperator} (hid : c.id = some id) (hne : id ≠ "")
    (hop : rule.operator = some op) :
    rule.holds c = (Percentile.ofId rule.seed id).map fun n : Nat => rule.accepts op n := by
  have hempty : ¬ id.isEmpty = true := fun h => hne (id.isEmpty_iff.mp h)
  rw [holds, hid, hop]
  simp only [if_neg hempty]
  cases Percentile.ofId rule.seed id <;> rfl

theorem holds_of_operator_none (h : rule.operator = none) : rule.holds c = .ok false := by
  unfold holds
  split
  · rename_i hop
    rw [h] at hop
    cases hop
  · rfl

theorem holds_of_unidentified (h : ∀ id, c.id = some id → id = "") : rule.holds c = .ok false := by
  unfold holds
  split
  · rename_i id op hid hop
    rw [h id hid]
    rfl
  · rfl

/-- A rule holds of a client whose percentile its operator accepts. -/
theorem holds_eq_true_iff :
    rule.holds c = .ok true ↔
      ∃ id op n, c.id = some id ∧ id ≠ "" ∧ rule.operator = some op ∧
        Percentile.ofId rule.seed id = .ok n ∧ rule.accepts op n = true := by
  constructor
  · intro h
    unfold holds at h
    split at h
    · rename_i id op hid hop
      split at h
      · cases h
      · rename_i hempty
        split at h
        · cases h
        · rename_i n hplace
          have hne : id ≠ "" := fun hid => hempty (id.isEmpty_iff.mpr hid)
          exact ⟨id, op, n, hid, hne, hop, hplace, Except.ok.inj h⟩
    · cases h
  · rintro ⟨id, op, n, hid, hne, hop, hplace, haccepts⟩
    rw [holds_eq_map hid hne hop, hplace, Except.map, haccepts]

/-- A rule ends in a fault when it has to look at the percentile of a client that has none. -/
def Faults (rule : PercentRule) (c : Context) : Prop :=
  rule.operator ≠ none ∧ ∃ id, c.id = some id ∧ id ≠ "" ∧ ¬ Percentile.Encodable rule.seed id

theorem holds_error_iff (rule : PercentRule) : (∃ e, rule.holds c = .error e) ↔ rule.Faults c := by
  cases hop : rule.operator with
  | none =>
      rw [holds_of_operator_none hop]
      exact iff_of_false nofun fun h => h.1 hop
  | some op =>
      by_cases hid : ∃ id, c.id = some id ∧ id ≠ ""
      · obtain ⟨id, hid, hne⟩ := hid
        have hfaults : rule.Faults c ↔ ¬ Percentile.Encodable rule.seed id := by
          simp [Faults, hop, hid, hne]
        rw [holds_eq_map hid hne hop, hfaults, ← Percentile.ofId_ok_iff]
        cases Percentile.ofId rule.seed id <;> simp [Except.map]
      · have hunidentified : ∀ id, c.id = some id → id = "" := fun id h =>
          Classical.not_not.mp fun hne => hid ⟨id, h, hne⟩
        rw [holds_of_unidentified hunidentified]
        apply iff_of_false nofun
        rintro ⟨_, id, h, hne, _⟩
        exact hid ⟨id, h, hne⟩

theorem holds_ok_iff (rule : PercentRule) : (∃ b, rule.holds c = .ok b) ↔ ¬ rule.Faults c := by
  rw [← holds_error_iff]
  cases rule.holds c <;> simp

theorem exists_holds_of_plain (hseed : ∀ t, rule.seed ≠ .stray t)
    (hid : ∀ t, c.id ≠ some (.stray t)) : ∃ b, rule.holds c = .ok b := by
  rw [holds_ok_iff]
  rintro ⟨_, id, h, _, hencodable⟩
  apply hencodable
  constructor
  · exact hseed
  · rintro t rfl
    exact hid t h

end PercentRule

end Rollout
