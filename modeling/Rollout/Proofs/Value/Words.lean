import Rollout.Proofs.Json.Legible
import Rollout.Proofs.Text.CaseVariant
import Rollout.Template.ParameterValue
import Rollout.Value

/-!
# Words that are read in any case

A value is true when its text is one of six words, and a parameter leaves the choice to the
application when it says so by the truth value or by the word for it. The words may be written in
letters of either case, but in no other way: no other text has one of them as its lower-case form,
and no value but a text and the truth value is displayed as the word for true.

## Implementation notes

What is displayed of any other value already differs from the word in its first character.
-/

namespace Rollout

open Text

/-! ## Displayed values -/

namespace Binary64

theorem isSpelled_of_mem_writeMagnitude (m : Nat) (e : Int) :
    ∀ c ∈ writeMagnitude m e, Spelling.isSpelled c = true := by
  by_cases hm : m = 0
  · rw [writeMagnitude, if_pos hm]
    exact List.all_eq_true.mp rfl
  · rcases hshortest : shortest m e with ⟨d, x⟩
    obtain ⟨t, _, hlays⟩ := Spelling.exists_lays false (Spelling.isDigits_natDigits d)
      (x + ((natDigits d).length : Int))
    rw [writeMagnitude, if_neg hm, hshortest]
    dsimp only
    rw [hlays.body]
    exact hlays.proper.isSpelled_of_mem_body

/-- The numeral of a number does not begin with the letter `t`. -/
theorem head?_write (x : Binary64) : x.write.head? ≠ some 't' ∧ x.write.head? ≠ some 'T' := by
  cases x with
  | nan => decide
  | infinite negative => cases negative <;> decide
  | finite negative m e =>
      have hspelled : ∀ c ∈ (finite negative m e).write, Spelling.isSpelled c = true := by
        rw [write_finite, List.forall_mem_append]
        exact ⟨Spelling.isSpelled_of_mem_sign negative, isSpelled_of_mem_writeMagnitude m e⟩
      constructor
      · intro h
        exact absurd (hspelled 't' (List.mem_of_head? h)) (by decide)
      · intro h
        exact absurd (hspelled 'T' (List.mem_of_head? h)) (by decide)

end Binary64

namespace Json

/-- Only texts and the truth value are displayed with the letter `t` at the beginning. -/
theorem eq_of_head?_display {j : Json}
    (h : j.display.head? = some 't' ∨ j.display.head? = some 'T') :
    j = .bool true ∨ (∃ s, j = .str s) ∨ ∃ t, j = .stray t := by
  cases j with
  | str s => exact .inr (.inl ⟨s, rfl⟩)
  | stray t => exact .inr (.inr ⟨t, rfl⟩)
  | bool b =>
      cases b with
      | true => exact .inl rfl
      | false => simp [display, inspect] at h
  | int n =>
      have hspelled := Spelling.isSpelled_of_mem_intDigits n
      simp only [display, inspect] at h
      rcases h with h | h
      · exact absurd (hspelled 't' (List.mem_of_head? h)) (by decide)
      · exact absurd (hspelled 'T' (List.mem_of_head? h)) (by decide)
  | float x =>
      simp only [display, inspect] at h
      rcases h with h | h
      · exact absurd h x.head?_write.1
      · exact absurd h x.head?_write.2
  | _ => simp [display, inspect] at h

end Json

/-! ## Words -/

/-- The words that mean true consist of plain characters. -/
theorem isPlainWord_of_trueWords : ∀ word ∈ Value.trueWords, IsPlainWord word.toList := by
  decide

theorem Value.truth_ofText_iff (source : Source) (text : String) :
    (ofText source text).truth = true ↔
      ∃ word ∈ trueWords, IsCaseVariant text.toList word.toList := by
  rw [truth, ofText, Json.display_str, List.contains_iff_mem]
  constructor
  · intro hmem
    refine ⟨_, hmem, ?_⟩
    rw [String.toList_ofList]
    exact (lower_eq_iff (w := lower text.toList) (by simpa using isPlainWord_of_trueWords _ hmem)
      text.toList).mp rfl
  · rintro ⟨word, hword, hvariant⟩
    rw [(lower_eq_iff (isPlainWord_of_trueWords word hword) text.toList).mpr hvariant,
      String.ofList_toList]
    exact hword

namespace ParameterValue

/-- A value says that the application chooses: it is the truth value, or a text that is the word for
it in letters of any case. -/
def SaysTrue (j : Json) : Prop :=
  j = .bool true ∨ ∃ text, j = .str text ∧ IsCaseVariant text.toList "true".toList

theorem choosesInApp_iff (j : Json) : choosesInApp j = true ↔ SaysTrue j := by
  have hword : trueWord = "true".toList := rfl
  have hplain : IsPlainWord trueWord := by decide
  rw [choosesInApp, beq_iff_eq, lower_eq_iff hplain, SaysTrue, ← hword]
  constructor
  · intro hvariant
    obtain ⟨c, cs, hc, _, hdisplay⟩ := List.forall₂_cons_right_iff.mp hvariant
    have hhead : j.display.head? = some 't' ∨ j.display.head? = some 'T' := by
      rw [hdisplay, List.head?_cons, Option.some.injEq, Option.some.injEq]
      rcases hc with hc | ⟨_, _, hc⟩ | ⟨_, hlow, hc⟩
      · exact .inl hc
      · right
        apply Char.toNat_inj.mp
        change c.toNat + 32 = 116 at hc
        change c.toNat = 84
        omega
      · change 116 + 32 = c.toNat at hc
        omega
    rcases Json.eq_of_head?_display hhead with rfl | ⟨text, rfl⟩ | ⟨t, rfl⟩
    · exact .inl rfl
    · exact .inr ⟨text, rfl, hvariant⟩
    · exact absurd (hvariant.lt_of_mem hplain _ t.replacement_mem_shown) (by decide)
  · rintro (rfl | ⟨text, rfl, hvariant⟩)
    · decide
    · exact hvariant

theorem ofJson?_obj (members : List (String × Json)) :
    ofJson? (.obj members) =
      if choosesInApp ((Json.obj members).field "useInAppDefault") then some .inAppDefault
      else if ((Json.obj members).field "value").isNull then none
      else some (.explicit ((Json.obj members).field "value").displayText) := rfl

/-- An object leaves the choice to the application if it says so, whatever its value is. -/
theorem ofJson?_obj_eq_inAppDefault_iff (members : List (String × Json)) :
    ofJson? (.obj members) = some .inAppDefault ↔
      SaysTrue ((Json.obj members).field "useInAppDefault") := by
  rw [ofJson?_obj, ← choosesInApp_iff]
  split
  · simp [*]
  · split <;> simp [*]

/-- An object that does not leave the choice to the application gives the text of its value. -/
theorem ofJson?_obj_eq_explicit_iff {members : List (String × Json)}
    (hshort : (Json.obj members).Short) (hplain : ∀ t, (Json.obj members).field "value" ≠ .stray t)
    (text : String) :
    ofJson? (.obj members) = some (.explicit text) ↔
      ¬ SaysTrue ((Json.obj members).field "useInAppDefault") ∧
        (Json.obj members).field "value" ≠ .null ∧
        ((Json.obj members).field "value").HasText text.toList := by
  rw [ofJson?_obj, ← choosesInApp_iff, ne_eq, ← Json.isNull_iff,
    Json.hasText_toList_iff (hshort.field "value") hplain]
  split
  · simp [*]
  · split <;> simp [*]

theorem ofJson?_obj_eq_none_iff (members : List (String × Json)) :
    ofJson? (.obj members) = none ↔
      ¬ SaysTrue ((Json.obj members).field "useInAppDefault") ∧
        (Json.obj members).field "value" = .null := by
  rw [ofJson?_obj, ← choosesInApp_iff, ← Json.isNull_iff]
  split
  · simp [*]
  · split <;> simp [*]

end ParameterValue

/-- A text is true when it is one of six words up to the case of the letters `A` to `Z`. An object
leaves the choice to the application when its `useInAppDefault` is the truth value or a text of the
word for it, whatever else it has; otherwise it gives the text of its value, or nothing if it has no
value. No text but the variants of a word has the word as its lower-case form. -/
theorem words_are_read_in_any_case :
    (∀ source text, (Value.ofText source text).truth = true ↔
        ∃ word ∈ ["1", "true", "t", "yes", "y", "on"],
          IsCaseVariant text.toList word.toList) ∧
      (∀ members, (Json.obj members).Short →
        (ParameterValue.ofJson? (.obj members) = some .inAppDefault ↔
          ParameterValue.SaysTrue ((Json.obj members).field "useInAppDefault")) ∧
        ((∀ t, (Json.obj members).field "value" ≠ .stray t) → ∀ text,
          ParameterValue.ofJson? (.obj members) = some (.explicit text) ↔
            ¬ ParameterValue.SaysTrue ((Json.obj members).field "useInAppDefault") ∧
              (Json.obj members).field "value" ≠ .null ∧
              ((Json.obj members).field "value").HasText text.toList) ∧
        (ParameterValue.ofJson? (.obj members) = none ↔
          ¬ ParameterValue.SaysTrue ((Json.obj members).field "useInAppDefault") ∧
            (Json.obj members).field "value" = .null)) ∧
      ∀ word ∈ ["1", "true", "t", "yes", "y", "on"], ∀ text : List Char,
        lower text = word.toList ↔ IsCaseVariant text word.toList := by
  refine ⟨Value.truth_ofText_iff, ?_, ?_⟩
  · intro members hshort
    exact ⟨ParameterValue.ofJson?_obj_eq_inAppDefault_iff members,
      ParameterValue.ofJson?_obj_eq_explicit_iff hshort,
      ParameterValue.ofJson?_obj_eq_none_iff members⟩
  · intro word hword text
    exact lower_eq_iff (isPlainWord_of_trueWords word hword) text

/-- Capitals are read like the other letters, a blank in front of a word or a letter of another
script is not. The value of a parameter does not matter when it leaves the choice. -/
theorem capitals_are_read :
    (Value.ofText .remote "yES").truth = true ∧ (Value.ofText .remote " on").truth = false ∧
      ParameterValue.ofJson? (.obj [("value", .int 5), ("useInAppDefault", .str "TRue")]) =
        some .inAppDefault ∧
      ParameterValue.ofJson? (.obj [("value", .int 5), ("useInAppDefault", .str "tru\u00cb")]) =
        some (.explicit "5") ∧
      lower "oN".toList = "on".toList ∧ lower "\u039fN".toList ≠ "on".toList := by
  obtain ⟨htruth, hobject, hlower⟩ := words_are_read_in_any_case
  have hshort (word : String) :
      (Json.obj [("value", .int 5), ("useInAppDefault", .str word)]).Short := by
    intro n hn
    obtain rfl : n = 5 := by simpa [Json.scalars, Json.memberScalars] using hn
    decide +kernel
  obtain ⟨hchoice, _, _⟩ := hobject _ (hshort "TRue")
  obtain ⟨_, hexplicit, _⟩ := hobject _ (hshort "tru\u00cb")
  refine ⟨?_, ?_, ?_, ?_, ?_, ?_⟩
  · rw [htruth]
    decide
  · rw [← Bool.not_eq_true, htruth]
    decide
  · rw [hchoice]
    exact .inr ⟨"TRue", rfl, by decide⟩
  · rw [hexplicit (by rintro t ⟨⟩)]
    refine ⟨?_, by rintro ⟨⟩, (hshort _).field "value", by rintro t ⟨⟩, rfl⟩
    rintro (h | ⟨text, h, hvariant⟩)
    · cases h
    · cases h
      revert hvariant
      decide
  · rw [hlower "on" (by decide)]
    decide
  · rw [ne_eq, hlower "on" (by decide)]
    decide

end Rollout
