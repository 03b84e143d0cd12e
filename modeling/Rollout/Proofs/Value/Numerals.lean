import Rollout.Proofs.Number.Conversion
import Rollout.Proofs.Number.IntegerText
import Rollout.Value

/-!
# Numerals in values

A text that has an integer has a number as well, which is the integer rounded to a floating-point
number, and a text without a number has no integer. So the readers of a value never contradict
each other: where the reader of numbers gives the zero that stands for nothing, the others give
zero, too.

## Implementation notes

The zero that stands for nothing is an integer, while every number that is read is a
floating-point number. The two are therefore told apart in the result.
-/

namespace Rollout.Value

open Binary64 Numeral

variable {source : Source} {text : String}

theorem number_of_readFloat {x : Binary64} (h : readFloat text.toList = some x)
    (hnan : x.isNan = false) : (ofText source text).number = .ok (.float x) := by
  simp [number, ofText, Json.toFloat?, h, hnan]

/-- A text has no number when it is not read as one, or as what is not a number. -/
theorem number_eq_fallback_iff :
    (ofText source text).number = .ok (.int 0) ↔
      readFloat text.toList = none ∨ readFloat text.toList = some .nan := by
  simp only [number, ofText, Json.toFloat?]
  cases readFloat text.toList with
  | none => simp
  | some x => cases x <;> simp [isNan]

theorem integer_of_readInt {n : Int} (h : readInt text.toList = .ok n) :
    (ofText source text).integer = .ok n := by
  simp [integer, ofText, Json.toInt?, h]

theorem integer_of_issue {issue : IntIssue} (h : readInt text.toList = .error issue) :
    (ofText source text).integer = .ok 0 := by
  simp [integer, ofText, Json.toInt?, h]

variable {v : Value}

theorem float_of_number_float {x : Binary64} (h : v.number = .ok (.float x)) :
    v.float = .ok x.positiveZero := by
  rw [float, h, positiveZero]

theorem float_of_number_zero (h : v.number = .ok (.int 0)) : v.float = .ok (.zero false) := by
  rw [float, h]
  rfl

/-- What is read as an integer is read as a number, too: as the integer rounded, but for the sign of
a zero. -/
theorem readFloat_of_readInt {s : List Char} {n : Int} (h : readInt s = .ok n) :
    ∃ x, readFloat s = some x ∧ x.isNan = false ∧ x.positiveZero = rounded n := by
  obtain ⟨negative, ds, hdigits, _, rfl⟩ := readInt_eq_ok_iff.mp h
  refine ⟨_, readFloat_of_hasDigits hdigits, isNan_ofFraction _ _ _, ?_⟩
  rw [positiveZero_ofFraction_one, ofInt_eq_rounded]

/-- A text with an integer has a number, which is the integer rounded, and so is its floating-point
number. A text has no number when it is not read as one or is read as what is not a number, and its
integer and its floating-point number are then zero. -/
theorem numeric_readers_agree (source : Source) (text : String) :
    (∀ n, readInt text.toList = .ok n →
        (ofText source text).integer = .ok n ∧
        ∃ x, (ofText source text).number = .ok (.float x) ∧ x.SameNumber (rounded n) ∧
          (ofText source text).float = .ok (rounded n)) ∧
      ((ofText source text).number = .ok (.int 0) ↔
        readFloat text.toList = none ∨ readFloat text.toList = some .nan) ∧
      ((ofText source text).number = .ok (.int 0) →
        (ofText source text).integer = .ok 0 ∧ (ofText source text).float = .ok (.zero false)) := by
  refine ⟨?_, number_eq_fallback_iff, ?_⟩
  · intro n hn
    obtain ⟨x, hx, hnan, hrounded⟩ := readFloat_of_readInt hn
    have hnumber : (ofText source text).number = .ok (.float x) := number_of_readFloat hx hnan
    refine ⟨integer_of_readInt hn, x, hnumber, ?_, ?_⟩
    · rw [← hrounded]
      exact (sameNumber_positiveZero hnan).symm
    · rw [float_of_number_float hnumber, hrounded]
  · intro hnumber
    refine ⟨?_, float_of_number_zero hnumber⟩
    cases hint : readInt text.toList with
    | error issue => exact integer_of_issue hint
    | ok n =>
        obtain ⟨x, hx, hnan, _⟩ := readFloat_of_readInt hint
        rw [number_of_readFloat hx hnan] at hnumber
        cases hnumber

/-- Blanks, underscores and digits of other scripts do not matter, and what is not a number counts as
zero. -/
theorem numerals_are_read :
    (ofText .remote "\u2003-1_\u0660 ").integer = .ok (-10) ∧
      (ofText .remote "\u2003-1_\u0660 ").float = .ok (rounded (-10)) ∧
      (ofText .remote " nan").number = .ok (.int 0) ∧
      (ofText .remote " nan").integer = .ok 0 ∧
      (ofText .remote " nan").float = .ok (.zero false) := by
  obtain ⟨hread, _, _⟩ := numeric_readers_agree .remote "\u2003-1_\u0660 "
  obtain ⟨hinteger, _, _, _, hfloat⟩ := hread (-10) rfl
  obtain ⟨_, hiff, hfallback⟩ := numeric_readers_agree .remote " nan"
  have hnumber := hiff.mpr (.inr rfl)
  exact ⟨hinteger, hfloat, hnumber, hfallback hnumber⟩

end Rollout.Value
