/-!
# Texts with stray surrogates

Two surrogates that stand next to each other, a high one and a low one, are read as one character. A
surrogate without its partner is no character, and a text that holds one has no encoding: it can be
kept and compared, and written in escapes, but no bytes stand for it.

## Implementation notes

Nearly all texts are rows of characters, and these are strings. A text with stray surrogates is kept
apart from them; where it is shown, each of its surrogates is replaced by one character.
-/

namespace Rollout

/-- The code points that come in pairs. -/
structure Surrogate where
  code : Nat
  valid : 0xd800 ≤ code ∧ code < 0xe000
  deriving DecidableEq, Repr

/-- Recognise the surrogates that come first in a pair. -/
def Surrogate.isHigh (u : Surrogate) : Bool := u.code < 0xdc00

/-- What stands at a place of a text: a character, or a surrogate without its partner. -/
inductive Sign
  | char (c : Char)
  | lone (u : Surrogate)
  deriving DecidableEq, Repr

namespace Sign

/-- The character that stands at a place, if one does. -/
def char? : Sign → Option Char
  | .char c => some c
  | .lone _ => none

/-- The character by which a place is shown. -/
def shown : Sign → Char
  | .char c => c
  | .lone _ => '\ufffd'

/-- Recognise the surrogates that come first in a pair. -/
def isFirst : Sign → Bool
  | .char _ => false
  | .lone u => u.isHigh

/-- Recognise the surrogates that come second in a pair. -/
def isSecond : Sign → Bool
  | .char _ => false
  | .lone u => !u.isHigh

/-- No two neighbours are a pair. -/
def unpaired : List Sign → Bool
  | s :: s' :: rest => !(s.isFirst && s'.isSecond) && unpaired (s' :: rest)
  | _ => true

theorem unpaired_cons_iff (s : Sign) (rest : List Sign) :
    unpaired (s :: rest) = true ↔
      (s.isFirst = true → ∀ s' ∈ rest.head?, s'.isSecond = false) ∧ unpaired rest = true := by
  cases rest with
  | nil => simp [unpaired]
  | cons s' rest => cases hfirst : s.isFirst <;> simp [unpaired, hfirst]

end Sign

/-- A text in which some surrogate has no partner. -/
structure StrayText where
  signs : List Sign
  stray : signs.any (·.char?.isNone) = true
  unpaired : Sign.unpaired signs = true
  deriving DecidableEq, Repr

/-- The text in which a character replaces every stray surrogate. -/
def StrayText.shown (t : StrayText) : String := String.ofList (t.signs.map Sign.shown)

theorem StrayText.replacement_mem_shown (t : StrayText) : '\ufffd' ∈ t.shown.toList := by
  have hstray := t.stray
  rw [List.any_eq_true] at hstray
  obtain ⟨s, hs, hlone⟩ := hstray
  cases s with
  | char c => cases hlone
  | lone u =>
    rw [shown, String.toList_ofList]
    exact List.mem_map_of_mem hs

/-- Texts of either kind. -/
inductive RawText
  | plain (s : String)
  | stray (t : StrayText)
  deriving DecidableEq, Repr

namespace RawText

instance : Coe String RawText := ⟨.plain⟩

/-- What stands at the places of a text. -/
def signs : RawText → List Sign
  | .plain s => s.toList.map .char
  | .stray t => t.signs

/-- Recognise the text without places. -/
def isEmpty : RawText → Bool
  | .plain s => s == ""
  | .stray _ => false

/-- The text as it is shown. -/
def shown : RawText → String
  | .plain s => s
  | .stray t => t.shown

/-- The text of what stands at its places. -/
def ofSigns (signs : List Sign) (h : Sign.unpaired signs = true) : RawText :=
  if hstray : signs.any (·.char?.isNone) = true then .stray ⟨signs, hstray, h⟩
  else .plain (String.ofList (signs.map Sign.shown))

theorem unpaired_signs (t : RawText) : Sign.unpaired t.signs = true := by
  cases t with
  | stray t => exact t.unpaired
  | plain s =>
    rw [signs]
    induction s.toList with
    | nil => rfl
    | cons c cs ih =>
      rw [List.map_cons, Sign.unpaired_cons_iff]
      exact ⟨nofun, ih⟩

@[simp] theorem ofSigns_signs (t : RawText) : ofSigns t.signs t.unpaired_signs = t := by
  cases t with
  | stray t => exact dif_pos t.stray
  | plain s =>
    have hplain : (s.toList.map Sign.char).any (·.char?.isNone) = false := by
      simp [Sign.char?]
    have hshown : (s.toList.map Sign.char).map Sign.shown = s.toList := by
      simp [Function.comp_def, Sign.shown]
    rw [ofSigns]
    simp only [signs, hplain, hshown, String.ofList_toList, Bool.false_eq_true, dite_false]

end RawText

end Rollout
