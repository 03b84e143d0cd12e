import Mathlib.Data.Ordering.Basic
import Mathlib.Order.Lattice
import Rollout.Signal.Comparison

/-!
# Relations on an order

A comparison by an order holds when the places of the signal and the target stand in its relation.
On a linear order exactly one of less, equal and greater holds, and each relation has a reverse in
which the two places change sides.
-/

namespace Rollout

/-- A signal that can be asked for has a given text. That of a missing signal is the text of the
null value. -/
structure Context.Shows (c : Context) (key : String) (text : List Char) : Prop where
  key_ne : key ≠ ""
  display_eq : (c.get key).display = text

/-- A signal that can be asked for is there, with a given value. -/
structure Context.Presents (c : Context) (key : String) (actual : Json) : Prop where
  key_ne : key ≠ ""
  get_eq : c.get key = actual
  present : actual ≠ .null

theorem Context.Presents.isNull_get {c : Context} {key : String} {actual : Json}
    (h : c.Presents key actual) : (c.get key).isNull = false := by
  rw [h.get_eq, Bool.eq_false_iff, ne_eq, Json.isNull_iff]
  exact h.present

namespace Signal

namespace Relation

section Relates

variable {α : Type} [LinearOrder α]

/-- Two places stand in a relation. -/
def Relates : Relation → α → α → Prop
  | .less, a, b => a < b
  | .lessEqual, a, b => a ≤ b
  | .equal, a, b => a = b
  | .notEqual, a, b => a ≠ b
  | .greater, a, b => b < a
  | .greaterEqual, a, b => b ≤ a

instance decidableRelates : ∀ (r : Relation) (a b : α), Decidable (r.Relates a b)
  | .less, a, b => inferInstanceAs (Decidable (a < b))
  | .lessEqual, a, b => inferInstanceAs (Decidable (a ≤ b))
  | .equal, a, b => inferInstanceAs (Decidable (a = b))
  | .notEqual, a, b => inferInstanceAs (Decidable (a ≠ b))
  | .greater, a, b => inferInstanceAs (Decidable (b < a))
  | .greaterEqual, a, b => inferInstanceAs (Decidable (b ≤ a))

/-- The relation of the same two places when they change sides. -/
def reverse : Relation → Relation
  | .less => .greater
  | .lessEqual => .greaterEqual
  | .equal => .equal
  | .notEqual => .notEqual
  | .greater => .less
  | .greaterEqual => .lessEqual

/-- The relations of which two places stand in exactly one. -/
def strict : List Relation := [.less, .equal, .greater]

variable {a b d : α}

/-- A relation holds for an order of two places just when they stand in it. -/
theorem holds_eq {o : Ordering} (h : o.Compares a b) (r : Relation) :
    r.holds o = decide (r.Relates a b) := by
  rw [Bool.eq_iff_iff, decide_eq_true_iff]
  cases o with
  | lt =>
      have hlt : a < b := h
      cases r <;> simp [holds, Relates, hlt, hlt.le, hlt.ne, hlt.not_gt, hlt.not_ge]
  | eq =>
      have heq : a = b := h
      cases r <;> simp [holds, Relates, heq]
  | gt =>
      have hgt : b < a := h
      cases r <;> simp [holds, Relates, hgt, hgt.le, hgt.ne', hgt.not_gt, hgt.not_ge]

theorem relates_reverse (r : Relation) : r.reverse.Relates b a ↔ r.Relates a b := by
  cases r with
  | equal | notEqual => simp only [reverse, Relates, ne_eq, eq_comm]
  | _ => exact Iff.rfl

theorem Relates.trans {r : Relation} (hr : r ≠ .notEqual) (hab : r.Relates a b)
    (hbd : r.Relates b d) : r.Relates a d := by
  cases r with
  | less => exact lt_trans hab hbd
  | lessEqual => exact le_trans hab hbd
  | equal => exact Eq.trans hab hbd
  | notEqual => exact absurd rfl hr
  | greater => exact lt_trans hbd hab
  | greaterEqual => exact le_trans hbd hab

/-- Relations look at nothing but the order. -/
theorem relates_map_iff {β : Type} [LinearOrder β] {f : α → β} (hf : StrictMono f)
    (r : Relation) : r.Relates (f a) (f b) ↔ r.Relates a b := by
  cases r with
  | less | greater => exact hf.lt_iff_lt
  | lessEqual | greaterEqual => exact hf.le_iff_le
  | equal => exact hf.injective.eq_iff
  | notEqual => exact hf.injective.ne_iff

theorem mem_strict_iff {r : Relation} :
    r ∈ strict ↔ r = .less ∨ r = .equal ∨ r = .greater := by
  simp [strict]

/-- Two places stand in exactly one of the relations less, equal and greater. -/
theorem existsUnique_strict (a b : α) : ∃! r, r ∈ strict ∧ r.Relates a b := by
  rcases lt_trichotomy a b with h | h | h
  · refine ⟨.less, ⟨mem_strict_iff.mpr (.inl rfl), h⟩, ?_⟩
    rintro r ⟨hr, hrelates⟩
    rcases mem_strict_iff.mp hr with rfl | rfl | rfl
    · rfl
    · exact absurd hrelates h.ne
    · exact absurd hrelates h.not_gt
  · refine ⟨.equal, ⟨mem_strict_iff.mpr (.inr (.inl rfl)), h⟩, ?_⟩
    rintro r ⟨hr, hrelates⟩
    rcases mem_strict_iff.mp hr with rfl | rfl | rfl
    · exact absurd h (ne_of_lt hrelates)
    · rfl
    · exact absurd h (ne_of_gt hrelates)
  · refine ⟨.greater, ⟨mem_strict_iff.mpr (.inr (.inr rfl)), h⟩, ?_⟩
    rintro r ⟨hr, hrelates⟩
    rcases mem_strict_iff.mp hr with rfl | rfl | rfl
    · exact absurd hrelates h.not_gt
    · exact absurd hrelates h.ne'
    · rfl

end Relates

end Relation

namespace Rule

/-- The comparison of a signal with targets, of which there is at least one. -/
def asking (op : Operator) (key target : String) (rest : List String) : Rule :=
  { operator := some op, key := some key, targets := target :: rest }

variable {c : Context} {key : String}

theorem holds_asking (hkey : key ≠ "") (hnull : (c.get key).isNull = false) (op : Operator)
    (target : String) (rest : List String) :
    (asking op key target rest).holds c = op.test (c.get key) (.str target :: rest.map .str) := by
  simp [holds, asking, hkey, hnull]

theorem holds_asking_of_isNull (hnull : (c.get key).isNull = true) (op : Operator)
    (target : String) (rest : List String) : (asking op key target rest).holds c = .ok false := by
  simp [holds, asking, hnull]

theorem holds_asking_of_presents {actual : Json} (h : c.Presents key actual) (op : Operator)
    (target : String) (rest : List String) :
    (asking op key target rest).holds c = op.test actual (.str target :: rest.map .str) := by
  rw [holds_asking h.key_ne h.isNull_get, h.get_eq]

/-- A rule lacks something to compare: a key, targets or the signal. -/
def Lacks (rule : Rule) (c : Context) : Prop :=
  rule.targets = [] ∨ ∀ key, rule.key = some key → key = "" ∨ c.get key = .null

theorem holds_of_lacks {rule : Rule} (h : rule.Lacks c) : rule.holds c = .ok false := by
  unfold holds
  split
  · rename_i op key _ hkey
    dsimp only
    rcases h with hempty | hmissing
    · simp [hempty]
    · rcases hmissing key hkey with rfl | hnull
      · simp
      · simp [hnull, Json.isNull]
  · rfl

end Rule

end Signal

end Rollout
