import Mathlib.Data.List.Lex
import Rollout.Proofs.Signal.Relation
import Rollout.Proofs.Signal.Version

/-!
# The order of versions

Two versions are compared by their numbers in lexicographic order. The operators on versions are the
relations of that order, and they all fail when one of the two texts is no version. Nothing but the
numbers counts, so neither more zeros nor further targets make a difference.
-/

namespace Rollout.Signal

open Text

namespace Version

/-! ## Rows of numbers -/

theorem compares_cons {o : Ordering} {ns ms : List Nat} (h : o.Compares ns ms) (n : Nat) :
    o.Compares (n :: ns) (n :: ms) := by
  cases o with
  | lt => exact List.cons_lt_cons_iff.mpr (.inr ⟨rfl, h⟩)
  | eq => exact congrArg (n :: ·) h
  | gt => exact List.cons_lt_cons_iff.mpr (.inr ⟨rfl, h⟩)

/-- Rows of numbers of the same length are compared in lexicographic order. -/
theorem compareParts_compares : ∀ {ns ms : List Nat}, ns.length = ms.length →
    (compareParts ns ms).Compares ns ms
  | [], [], _ => rfl
  | n :: ns, m :: ms, h => by
      have ih := compareParts_compares (Nat.succ.inj h)
      have hfirst : (compare n m).Compares n m := (compare_iff n m).mp rfl
      rw [compareParts]
      cases hcompare : compare n m with
      | lt =>
          rw [hcompare] at hfirst
          exact List.cons_lt_cons_iff.mpr (.inl hfirst)
      | gt =>
          rw [hcompare] at hfirst
          exact List.cons_lt_cons_iff.mpr (.inl hfirst)
      | eq =>
          rw [hcompare] at hfirst
          have hnm : n = m := hfirst
          subst hnm
          exact compares_cons ih n

/-! ## Versions in a relation -/

/-- Two texts are versions whose numbers stand in a relation. -/
def Related (r : Relation) (text target : List Char) : Prop :=
  ∃ ns ms, Spells text ns ∧ Spells target ms ∧ r.Relates ns ms

theorem Related.trans {r : Relation} {text target other : List Char} (hr : r ≠ .notEqual)
    (hfirst : Related r text target) (hsecond : Related r target other) : Related r text other := by
  obtain ⟨ns, ms, hns, hms, hrelates⟩ := hfirst
  obtain ⟨ms', ls, hms', hls, hrelates'⟩ := hsecond
  have hsame := Spells.unique hms' hms
  subst hsame
  exact ⟨ns, ls, hns, hls, hrelates.trans hr hrelates'⟩

theorem not_isVersion_null : ¬ IsVersion Json.null.display := by
  rintro ⟨ns, hns⟩
  cases read_of_spells hns

end Version

open Version Rule

/-! ## Comparisons -/

variable {actual : Json} {target : String}

theorem compareVersions_of_spells {ns ms : List Nat} (ha : Spells actual.display ns)
    (ht : Spells target.toList ms) (r : Relation) :
    compareVersions r actual (.str target) = .ok (decide (r.Relates ns ms)) := by
  have hcompares := compareParts_compares (ha.length_eq.trans ht.length_eq.symm)
  simp only [compareVersions, Json.display_str, read_of_spells ha, read_of_spells ht, order,
    Relation.holds_eq hcompares]

theorem compareVersions_of_not_isVersion (ha : ¬ TooLong actual.display)
    (ht : ¬ TooLong target.toList)
    (h : ¬ (IsVersion actual.display ∧ IsVersion target.toList)) (r : Relation) :
    compareVersions r actual (.str target) = .ok false := by
  by_cases hversion : IsVersion actual.display
  · obtain ⟨ns, hns⟩ := hversion
    have hnot : ¬ IsVersion target.toList := fun htarget => h ⟨⟨ns, hns⟩, htarget⟩
    simp only [compareVersions, Json.display_str, read_of_spells hns, read_of_not_isVersion hnot ht]
  · have hread := read_of_not_isVersion hversion ha
    obtain ⟨t, hread'⟩ := read_ok_of_not_tooLong ht
    simp only [compareVersions, Json.display_str, hread, hread']

/-- A comparison of versions holds just when both texts are versions whose numbers stand in the
relation. -/
theorem compareVersions_eq_true_iff (r : Relation) :
    compareVersions r actual (.str target) = .ok true ↔
      Related r actual.display target.toList := by
  constructor
  · intro h
    have hshort : ¬ (TooLong actual.display ∨ TooLong target.toList) := by
      rw [← compareVersions_error_iff r, h]
      rintro ⟨e, he⟩
      cases he
    rw [not_or] at hshort
    by_cases hversions : IsVersion actual.display ∧ IsVersion target.toList
    · obtain ⟨⟨ns, hns⟩, ms, hms⟩ := hversions
      rw [compareVersions_of_spells hns hms, Except.ok.injEq, decide_eq_true_iff] at h
      exact ⟨ns, ms, hns, hms, h⟩
    · rw [compareVersions_of_not_isVersion hshort.1 hshort.2 hversions] at h
      cases h
  · rintro ⟨ns, ms, hns, hms, hrelates⟩
    rw [compareVersions_of_spells hns hms, decide_eq_true hrelates]

variable {other : Json} {otherTarget : String}

/-- A comparison is reversed when the signal and the target change sides. -/
theorem compareVersions_reverse (ha : ¬ TooLong actual.display) (ht : ¬ TooLong target.toList)
    (hother : other.display = target.toList) (hotherTarget : otherTarget.toList = actual.display)
    (r : Relation) :
    compareVersions r.reverse other (.str otherTarget) = compareVersions r actual (.str target) := by
  by_cases hversions : IsVersion actual.display ∧ IsVersion target.toList
  · obtain ⟨⟨ns, hns⟩, ms, hms⟩ := hversions
    have hms' : Spells other.display ms := by rwa [hother]
    have hns' : Spells otherTarget.toList ns := by rwa [hotherTarget]
    rw [compareVersions_of_spells hns hms, compareVersions_of_spells hms' hns',
      decide_eq_decide.mpr (Relation.relates_reverse r)]
  · have hversions' : ¬ (IsVersion other.display ∧ IsVersion otherTarget.toList) := by
      rwa [hother, hotherTarget, and_comm]
    rw [compareVersions_of_not_isVersion ha ht hversions,
      compareVersions_of_not_isVersion (hother ▸ ht) (hotherTarget ▸ ha) hversions']

theorem compareVersions_of_pads (ha : Pads actual.display other.display)
    (ht : Pads target.toList otherTarget.toList) (r : Relation) :
    compareVersions r other (.str otherTarget) = compareVersions r actual (.str target) := by
  obtain ⟨ns, hns, hns'⟩ := ha.spells
  obtain ⟨ms, hms, hms'⟩ := ht.spells
  rw [compareVersions_of_spells hns hms, compareVersions_of_spells hns' hms']

/-! ## Operators -/

section Asking

variable {c : Context} {key : String} {text : List Char}

/-- A comparison with targets compares the text of the signal with the first of them. A signal that
is missing makes no difference, because the text of the null value is no version. -/
theorem holds_version (h : c.Shows key text) (ht : ¬ TooLong target.toList) (r : Relation)
    (rest : List String) :
    (asking (.version r) key target rest).holds c = compareVersions r (c.get key) (.str target) := by
  cases hnull : (c.get key).isNull with
  | false => exact holds_asking h.key_ne hnull (.version r) target rest
  | true =>
      have hget := (Json.isNull_iff _).mp hnull
      have hshort : ¬ TooLong Json.null.display := by
        rintro ⟨pieces, hpieces, _⟩
        cases hpieces
      have hnever := fun hversions : IsVersion Json.null.display ∧ IsVersion target.toList =>
        not_isVersion_null hversions.1
      rw [holds_asking_of_isNull hnull, hget, compareVersions_of_not_isVersion hshort ht hnever]

theorem holds_version_eq_true_iff (h : c.Shows key text) (r : Relation) (rest : List String) :
    (asking (.version r) key target rest).holds c = .ok true ↔ Related r text target.toList := by
  rw [← h.display_eq]
  cases hnull : (c.get key).isNull with
  | false =>
      rw [← compareVersions_eq_true_iff]
      exact iff_of_eq (congrArg (· = _) (holds_asking h.key_ne hnull (.version r) target rest))
  | true =>
      rw [holds_asking_of_isNull hnull, (Json.isNull_iff _).mp hnull]
      refine ⟨nofun, ?_⟩
      rintro ⟨ns, ms, hns, _⟩
      exact absurd ⟨ns, hns⟩ not_isVersion_null

end Asking

/-- The version operators compare five numbers. When the signal or the first target is no version,
none of them holds. Otherwise each answers whether the numbers stand in its relation in
lexicographic order. So exactly one of less, equal and greater holds of two versions, a relation is
reversed when signal and target change sides, all relations but the unequal one are transitive, more
zeros do not change an answer, and neither do other targets. -/
theorem version_operators_compare_numbers {c : Context} {key target : String} {text : List Char}
    (hc : c.Shows key text) (htext : ¬ TooLong text) (htarget : ¬ TooLong target.toList)
    (rest : List String) :
    (¬ (IsVersion text ∧ IsVersion target.toList) →
        ∀ r, (asking (.version r) key target rest).holds c = .ok false) ∧
      (∀ ns ms, Spells text ns → Spells target.toList ms →
        ∀ r, (asking (.version r) key target rest).holds c = .ok (decide (r.Relates ns ms))) ∧
      (IsVersion text → IsVersion target.toList →
        ∃! r, r ∈ Relation.strict ∧ (asking (.version r) key target rest).holds c = .ok true) ∧
      (∀ c' key' target' rest', c'.Shows key' target.toList → target'.toList = text →
        ∀ r, (asking (.version r.reverse) key' target' rest').holds c' =
          (asking (.version r) key target rest).holds c) ∧
      (∀ c' key' target' rest', c'.Shows key' target.toList → ∀ r, r ≠ .notEqual →
        (asking (.version r) key target rest).holds c = .ok true →
          (asking (.version r) key' target' rest').holds c' = .ok true →
            (asking (.version r) key target' rest').holds c = .ok true) ∧
      (∀ c' key' target' rest' padded, c'.Shows key' padded → Pads text padded →
        Pads target.toList target'.toList →
          ∀ r, (asking (.version r) key' target' rest').holds c' =
            (asking (.version r) key target rest).holds c) ∧
      ∀ rest' r, (asking (.version r) key target rest').holds c =
        (asking (.version r) key target rest).holds c := by
  have hdisplay := hc.display_eq
  subst hdisplay
  refine ⟨?_, ?_, ?_, ?_, ?_, ?_, ?_⟩
  · intro hversions r
    rw [holds_version hc htarget]
    exact compareVersions_of_not_isVersion htext htarget hversions r
  · intro ns ms hns hms r
    rw [holds_version hc htarget]
    exact compareVersions_of_spells hns hms r
  · rintro ⟨ns, hns⟩ ⟨ms, hms⟩
    simp only [holds_version hc htarget, compareVersions_of_spells hns hms, Except.ok.injEq,
      decide_eq_true_iff]
    exact Relation.existsUnique_strict ns ms
  · intro c' key' target' rest' hc' htarget' r
    rw [holds_version hc htarget, holds_version hc' (htarget' ▸ htext)]
    exact compareVersions_reverse htext htarget hc'.display_eq htarget' r
  · intro c' key' target' rest' hc' r hr hfirst hsecond
    rw [holds_version_eq_true_iff hc] at hfirst ⊢
    rw [holds_version_eq_true_iff hc'] at hsecond
    exact hfirst.trans hr hsecond
  · intro c' key' target' rest' padded hc' htext' htarget' r
    obtain ⟨ms, _, hms'⟩ := htarget'.spells
    rw [holds_version hc htarget, holds_version hc' hms'.not_tooLong]
    exact compareVersions_of_pads (hc'.display_eq ▸ htext') htarget' r
  · intro rest' r
    rw [holds_version hc htarget, holds_version hc htarget]

/-- A signal that is a text. -/
def spoken (text : String) : Context := { id := none, signals := .ofMembers [("v", .str text)] }

theorem spoken_shows (text : String) : (spoken text).Shows "v" text.toList :=
  ⟨by decide, rfl⟩

/-- The third number decides by its value and not by its first digit, in both directions and however
many zeros are written. A text with a sixth number is no version. -/
theorem release_versions_compare :
    (asking (.version .greater) "v" "1.2.9" ["x"]).holds (spoken "1.2.10") = .ok true ∧
      (asking (.version .less) "v" "1.2.10" []).holds (spoken "1.2.9") = .ok true ∧
      (asking (.version .greater) "v" "1.02.9.0.0" []).holds (spoken "01.2.0010") = .ok true ∧
      (asking (.version .greater) "v" "0.9.9" []).holds (spoken "1.2.10") = .ok true ∧
      (asking (.version .notEqual) "v" "1.2.9.0.0.0" []).holds (spoken "1.2.10") = .ok false := by
  have hten : Spells "1.2.10".toList [1, 2, 10, 0, 0] := (read_eq_some_iff _ _).mp rfl
  have hnine : Spells "1.2.9".toList [1, 2, 9, 0, 0] := (read_eq_some_iff _ _).mp rfl
  have htenPads : Pads "1.2.10".toList "01.2.0010".toList :=
    ⟨[['1'], ['2'], ['1', '0']], [['0', '1'], ['2'], ['0', '0', '1', '0']],
      by decide, by decide, .cons 1 (.cons 0 (.cons 2 (.after 0))), rfl, rfl⟩
  have hninePads : Pads "1.2.9".toList "1.02.9.0.0".toList :=
    ⟨[['1'], ['2'], ['9']], [['1'], ['0', '2'], ['9'], ['0'], ['0']],
      by decide, by decide, .cons 0 (.cons 1 (.cons 0 (.after 2))), rfl, rfl⟩
  obtain ⟨_, hanswer, _, hreverse, htrans, hpads, _⟩ := version_operators_compare_numbers
    (spoken_shows "1.2.10") hten.not_tooLong hnine.not_tooLong ["x"]
  have hnumbers : Relation.greater.Relates [1, 2, 10, 0, 0] [1, 2, 9, 0, 0] := by decide
  have hgreater := hanswer _ _ hten hnine .greater
  rw [decide_eq_true hnumbers] at hgreater
  have hsix : ¬ TooLong "1.2.9.0.0.0".toList := by
    rintro ⟨pieces, hpieces, _⟩
    cases hpieces
  obtain ⟨hnever, _⟩ := version_operators_compare_numbers
    (spoken_shows "1.2.10") hten.not_tooLong hsix []
  refine ⟨hgreater, ?_, ?_, ?_, ?_⟩
  · exact (hreverse _ "v" "1.2.10" [] (spoken_shows "1.2.9") rfl .greater).trans hgreater
  · exact (hpads _ "v" _ [] _ (spoken_shows "01.2.0010") htenPads hninePads .greater).trans hgreater
  · exact htrans _ "v" "0.9.9" [] (spoken_shows "1.2.9") .greater (by decide) hgreater rfl
  · apply hnever
    rintro ⟨_, ns, hns⟩
    cases read_of_spells hns

end Rollout.Signal
