import Rollout.Proofs.Signal.NumberOrder

/-!
# The order of integers

Integers are compared through the floating-point numbers nearest to them. Rounding keeps their
order, so a comparison can take two large integers for equal but never finds them in the other
order, and it is exact for integers of magnitude at most `2 ^ 53`. An integer and its text are
rounded to the same number.
-/

namespace Rollout.Signal

open Text Rule

/-- A value denotes an integer: it is the integer itself or a text of it. -/
inductive Denotes : Json → Int → Prop
  | int (n : Int) : Denotes (.int n) n
  | text {s : String} {n : Int} (h : Numeral.IsIntegerText s.toList n) : Denotes (.str s) n

variable {a b : Int}

theorem Denotes.standsAt {j : Json} (h : Denotes j a) (ha : a.natAbs < Binary64.leastOverflow) :
    StandsAt j (Binary64.roundedPlace a) := by
  cases h with
  | int => exact standsAt_int ha
  | text htext => exact standsAt_of_isIntegerText htext

/-- Places that differ come from integers that differ in the same direction. -/
theorem lt_of_roundedPlace_lt (h : Binary64.roundedPlace a < Binary64.roundedPlace b) : a < b := by
  by_contra hnot
  have hplaces := Binary64.roundedPlace_mono (Int.not_lt.mp hnot)
  exact Int.not_lt.mpr hplaces h

theorem holds_numeric_of_denotes {c : Context} {key target : String} {actual : Json}
    (hc : c.Presents key actual) (ha : Denotes actual a)
    (hlarge : a.natAbs < Binary64.leastOverflow) (hb : Numeral.IsIntegerText target.toList b)
    (r : Relation) (rest : List String) :
    (asking (.numeric r) key target rest).holds c =
      .ok (decide (r.Relates (Binary64.roundedPlace a) (Binary64.roundedPlace b))) := by
  rw [holds_asking_of_presents hc]
  exact compareNumbers_of_standsAt (ha.standsAt hlarge) (standsAt_of_isIntegerText hb) r

/-- The comparison of an integer with the text of another one is sound. The six operators answer for
the rounded places of the two integers, so that less and greater are only found where they are. Of
integers up to `2 ^ 53` the operators answer for the integers themselves. How the integers are
written makes no difference: as a value or as a text, and with which digits. -/
theorem integer_comparisons_are_sound {c : Context} {key target : String} {actual : Json}
    (hc : c.Presents key actual) (ha : Denotes actual a)
    (hlarge : a.natAbs < Binary64.leastOverflow) (hb : Numeral.IsIntegerText target.toList b)
    (rest : List String) :
    (∀ r, (asking (.numeric r) key target rest).holds c =
        .ok (decide (r.Relates (Binary64.roundedPlace a) (Binary64.roundedPlace b)))) ∧
      ((asking (.numeric .less) key target rest).holds c = .ok true → a < b) ∧
      ((asking (.numeric .greater) key target rest).holds c = .ok true → b < a) ∧
      (a.natAbs ≤ 2 ^ 53 → b.natAbs ≤ 2 ^ 53 →
        ∀ r, (asking (.numeric r) key target rest).holds c = .ok (decide (r.Relates a b))) ∧
      ∀ c' key' actual' target' rest', c'.Presents key' actual' → Denotes actual' a →
        Numeral.IsIntegerText target'.toList b →
          ∀ r, (asking (.numeric r) key' target' rest').holds c' =
            (asking (.numeric r) key target rest).holds c := by
  have hanswer (r : Relation) := holds_numeric_of_denotes hc ha hlarge hb r rest
  refine ⟨hanswer, ?_, ?_, ?_, ?_⟩
  · intro hless
    rw [hanswer, Except.ok.injEq, decide_eq_true_iff] at hless
    exact lt_of_roundedPlace_lt hless
  · intro hgreater
    rw [hanswer, Except.ok.injEq, decide_eq_true_iff] at hgreater
    exact lt_of_roundedPlace_lt hgreater
  · intro hexact hexact' r
    rw [hanswer, decide_eq_decide.mpr (relates_roundedPlace_iff hexact hexact' r)]
  · intro c' key' actual' target' rest' hc' ha' hb' r
    rw [hanswer, holds_numeric_of_denotes hc' ha' hlarge hb']

/-- The first integer that is not kept is taken for the one before it, whether it is a value or a
text; the one before it is not taken for anything less. -/
theorem large_integers_merge :
    (asking (.numeric .equal) "load" "9007199254740992" []).holds
        (loaded (.int 9007199254740993)) = .ok true ∧
      (asking (.numeric .equal) "load" "9_007_199_254_740_992" []).holds
        (loaded (.str "9007199254740993")) = .ok true ∧
      (asking (.numeric .greater) "load" "9007199254740991" []).holds
        (loaded (.int 9007199254740992)) = .ok true := by
  have hinteger (n : Int) : (loaded (.int n)).Presents "load" (.int n) := loaded_presents nofun
  have htext (s : String) : (loaded (.str s)).Presents "load" (.str s) := loaded_presents nofun
  have hmerge : Relation.equal.Relates (Binary64.roundedPlace 9007199254740993)
      (Binary64.roundedPlace 9007199254740992) := by
    decide +kernel
  have hodd : Denotes (.str "9007199254740993") 9007199254740993 :=
    .text (Numeral.isIntegerText_intDigits 9007199254740993)
  have heven : Numeral.IsIntegerText "9007199254740992".toList 9007199254740992 :=
    Numeral.isIntegerText_intDigits _
  have hbefore : Numeral.IsIntegerText "9007199254740991".toList 9007199254740991 :=
    Numeral.isIntegerText_intDigits _
  have hgrouped : Numeral.IsIntegerText "9_007_199_254_740_992".toList 9007199254740992 := by
    refine ⟨"9_007_199_254_740_992".toList, ⟨[], false,
      ["9", "007", "199", "254", "740", "992"].map String.toList, .missing, ?_, ?_, rfl, rfl⟩, ?_⟩
    · decide
    · simp [Spelling.IsDigits, isAsciiDigit]
    · exact .refl _ _
  obtain ⟨hanswer, _, _, _, hsame⟩ := integer_comparisons_are_sound
    (hinteger 9007199254740993) (.int _) (by decide +kernel) heven []
  obtain ⟨_, _, _, hexact, _⟩ := integer_comparisons_are_sound
    (hinteger 9007199254740992) (.int _) (Binary64.lt_leastOverflow (by decide)) hbefore []
  have hequal := hanswer .equal
  rw [decide_eq_true hmerge] at hequal
  refine ⟨hequal, ?_, ?_⟩
  · exact (hsame _ "load" _ _ [] (htext "9007199254740993") hodd hgrouped .equal).trans hequal
  · exact hexact (by decide) (by decide) .greater

end Rollout.Signal
