import Rollout.Proofs.Number.Overflow
import Rollout.Proofs.Until
import Rollout.Signal.Comparison

/-!
# Comparisons that cannot be carried out

Most comparisons that make no sense simply do not hold. Three kinds of them end in a fault: an
integer too large to be compared as a number, a version with a number of too many digits, and a
pattern that is refused for another reason than its form.
-/

namespace Rollout

namespace Pattern

/-- A pattern text that cannot be looked for: it is refused for another reason than its form, or
one of its groups ends before it begins. -/
def Unusable (pattern text : List Char) : Prop :=
  (∃ issue, compile pattern = .error issue ∧ issue ≠ .malformed) ∨
    ∃ c marks, compile pattern = .ok c ∧ find? c.pattern c.modes text = some marks ∧
      marks.isOrdered = false

theorem search_error_iff (pattern text : List Char) :
    (∃ e, search pattern text = .error e) ↔ Unusable pattern text := by
  unfold search Unusable
  cases hc : compile pattern with
  | error issue => cases issue <;> simp
  | ok c =>
      cases hf : find? c.pattern c.modes text with
      | none => simp [hf]
      | some marks => cases ho : marks.isOrdered <;> simp [hf, ho]

end Pattern

namespace Signal

open Text

/-! ## Numbers -/

theorem numberPlace?_eq_error_iff (j : Json) {e : Fault} :
    numberPlace? j = .error e ↔
      (∃ n, j = .int n ∧ Binary64.leastOverflow ≤ n.natAbs) ∧ e = .integerTooLarge := by
  cases j with
  | int n =>
      simp only [← Binary64.ofInt?_eq_none_iff]
      cases hn : Binary64.ofInt? n <;> simp [numberPlace?, Json.toFloat?, hn, eq_comm]
  | str s => cases hs : Numeral.readFloat s.toList <;> simp [numberPlace?, Json.toFloat?, hs]
  | _ => simp [numberPlace?, Json.toFloat?]

theorem numberPlace?_str (s : String) : ∃ place, numberPlace? (.str s) = .ok place := by
  cases h : numberPlace? (.str s) with
  | ok place => exact ⟨place, rfl⟩
  | error e =>
      obtain ⟨⟨n, hn, _⟩, _⟩ := (numberPlace?_eq_error_iff _).mp h
      cases hn

/-- A comparison of numbers can only report that the signal is too large an integer. -/
theorem compareNumbers_eq_error_iff (r : Relation) (actual : Json) (target : String) {e : Fault} :
    compareNumbers r actual (.str target) = .error e ↔
      (∃ n, actual = .int n ∧ Binary64.leastOverflow ≤ n.natAbs) ∧ e = .integerTooLarge := by
  obtain ⟨t, ht⟩ := numberPlace?_str target
  rw [← numberPlace?_eq_error_iff]
  simp only [compareNumbers, ht]
  cases ha : numberPlace? actual with
  | error e' => simp
  | ok a => cases a <;> cases t <;> simp

theorem compareNumbers_error_iff (r : Relation) (actual : Json) (target : String) :
    (∃ e, compareNumbers r actual (.str target) = .error e) ↔
      ∃ n, actual = .int n ∧ Binary64.leastOverflow ≤ n.natAbs := by
  simp only [compareNumbers_eq_error_iff, exists_and_left, exists_eq, and_true]

/-! ## Versions -/

namespace Version

/-- A text in the form of a version, with a number of too many digits. -/
def TooLong (text : List Char) : Prop :=
  ∃ pieces, pieces? text = some pieces ∧ ∃ piece ∈ pieces, Numeral.maxDigits < piece.length

theorem readPieces_error_iff (pieces : List (List Char)) :
    (∃ e, readPieces pieces = .error e) ↔
      ∃ piece ∈ pieces, Numeral.maxDigits < piece.length := by
  induction pieces with
  | nil => simp [readPieces]
  | cons piece rest ih =>
      by_cases hlong : Numeral.maxDigits < piece.length
      · simp [readPieces, readPiece, hlong]
      · have hpiece : readPiece piece = .ok (digitsToNat piece) := if_neg hlong
        simp only [List.mem_cons, exists_eq_or_imp, hlong, false_or, ← ih]
        cases hr : readPieces rest <;> simp [readPieces, hpiece, hr]

theorem read_error_iff (text : List Char) : (∃ e, read text = .error e) ↔ TooLong text := by
  unfold read TooLong
  cases hp : pieces? text with
  | none => simp
  | some pieces =>
      simp only [Option.some.injEq, exists_eq_left', ← readPieces_error_iff]
      cases hr : readPieces pieces <;> simp

end Version

theorem compareVersions_error_iff (r : Relation) (actual : Json) (target : String) :
    (∃ e, compareVersions r actual (.str target) = .error e) ↔
      Version.TooLong actual.display ∨ Version.TooLong target.toList := by
  simp only [← Version.read_error_iff, compareVersions, Json.display_str]
  cases ha : Version.read actual.display with
  | error e => simp
  | ok a =>
      cases ht : Version.read target.toList with
      | error e => simp
      | ok t => cases a <;> cases t <;> simp

/-! ## Patterns -/

theorem anyPattern_error_iff (actual : List Char) (targets : List Json) :
    (∃ e, anyPattern actual targets = .error e) ↔
      Until (fun t => Pattern.search t.display actual = .ok false)
        (fun t => Pattern.Unusable t.display actual) targets := by
  induction targets with
  | nil => simp [anyPattern]
  | cons t rest ih =>
      rw [until_cons_iff, ← ih, ← Pattern.search_error_iff]
      cases hs : Pattern.search t.display actual with
      | error e => simp [anyPattern, hs]
      | ok found => cases found <;> simp [anyPattern, hs]

/-! ## Operators and rules -/

/-- The comparisons of a present signal that end in a fault. -/
inductive Operator.Faults (actual : Json) : Operator → List String → Prop
  | number {r : Relation} {target : String} {rest : List String} {n : Int}
      (integer : actual = .int n) (large : Binary64.leastOverflow ≤ n.natAbs) :
      Faults actual (.numeric r) (target :: rest)
  | version {r : Relation} {target : String} {rest : List String}
      (long : Version.TooLong actual.display ∨ Version.TooLong target.toList) :
      Faults actual (.version r) (target :: rest)
  | pattern {targets : List String}
      (reached : Until (fun t => Pattern.search t.toList actual.display = .ok false)
        (fun t => Pattern.Unusable t.toList actual.display) targets) :
      Faults actual (.text .matchesPattern) targets

theorem Operator.test_text_error_iff (t : TextTest) (actual : Json) (targets : List String) :
    (∃ e, (Operator.text t).test actual (targets.map .str) = .error e) ↔
      (Operator.text t).Faults actual targets := by
  cases t with
  | matchesPattern =>
      have h := anyPattern_error_iff actual.display (targets.map .str)
      rw [until_map_iff] at h
      constructor
      · intro herr
        exact .pattern (h.mp herr)
      · intro hfault
        cases hfault with
        | pattern reached => exact h.mpr reached
  | _ =>
      refine iff_of_false (by simp [Operator.test, compareTexts]) ?_
      intro hfault
      cases hfault

theorem Operator.test_error_iff (op : Operator) (actual : Json) (targets : List String) :
    (∃ e, op.test actual (targets.map .str) = .error e) ↔ op.Faults actual targets := by
  cases op with
  | text t => exact test_text_error_iff t actual targets
  | numeric r =>
      cases targets with
      | nil => exact iff_of_false (by simp [Operator.test]) nofun
      | cons target rest =>
          rw [List.map_cons, Operator.test, compareNumbers_error_iff]
          constructor
          · rintro ⟨n, hn, hlarge⟩
            exact .number hn hlarge
          · intro hfault
            cases hfault with
            | number hn hlarge => exact ⟨_, hn, hlarge⟩
  | version r =>
      cases targets with
      | nil => exact iff_of_false (by simp [Operator.test]) nofun
      | cons target rest =>
          rw [List.map_cons, Operator.test, compareVersions_error_iff]
          constructor
          · intro hlong
            exact .version hlong
          · intro hfault
            cases hfault with
            | version hlong => exact hlong
  | unknown => exact iff_of_false (by simp [Operator.test]) nofun

/-- The rules whose comparison ends in a fault: they have an operator and a key, the signal is
there, and comparing it with the targets ends in a fault. -/
def Rule.Faults (rule : Rule) (c : Context) : Prop :=
  ∃ op key, rule.operator = some op ∧ rule.key = some key ∧ key ≠ "" ∧
    (c.get key).isNull = false ∧ op.Faults (c.get key) rule.targets

theorem Operator.Faults.targets_ne_nil {op : Operator} {actual : Json} {targets : List String}
    (h : op.Faults actual targets) : targets ≠ [] := by
  rintro rfl
  cases h with
  | pattern reached => exact not_until_nil reached

theorem Rule.holds_error_iff (rule : Rule) (c : Context) :
    (∃ e, rule.holds c = .error e) ↔ rule.Faults c := by
  constructor
  · rintro ⟨e, h⟩
    unfold Rule.holds at h
    split at h
    · rename_i op key hop hkey
      split at h
      · cases h
      · rename_i hgate
        simp only [Bool.or_eq_true, beq_iff_eq, not_or] at hgate
        dsimp only at h
        split at h
        · cases h
        · rename_i hnull
          exact ⟨op, key, hop, hkey, hgate.1, by simpa using hnull,
            (Operator.test_error_iff op _ _).mp ⟨e, h⟩⟩
    · cases h
  · rintro ⟨op, key, hop, hkey, hne, hnull, hfault⟩
    obtain ⟨e, he⟩ := (Operator.test_error_iff op _ _).mpr hfault
    refine ⟨e, ?_⟩
    have hempty : rule.targets.isEmpty = false := by
      simpa using hfault.targets_ne_nil
    simp [Rule.holds, hop, hkey, hne, hempty, hnull, he]

end Signal

end Rollout
