import Rollout.Json.Display
import Rollout.Proofs.Json.Distinct
import Rollout.Proofs.Number.Spelling

/-!
# Values that can be read again

A value can be read from its own text when no object in it repeats a key, when its integers are
not too long for the reader and when its floating-point numbers read back as themselves. The
first two hold of every value that was itself read from a text.

## Implementation notes

The length of integers is bounded in both directions: one that is too long to be read is not written
either. What is said of the text of a value is therefore said of short values.
-/

namespace Rollout.Json

open Entries Text

mutual

/-- The values inside a value that have no parts, in the order of their places. -/
def scalars : Json → List Json
  | .null => [.null]
  | .bool b => [.bool b]
  | .int n => [.int n]
  | .float x => [.float x]
  | .str s => [.str s]
  | .stray t => [.stray t]
  | .arr items => itemScalars items
  | .obj members => memberScalars members

def itemScalars : List Json → List Json
  | [] => []
  | j :: rest => j.scalars ++ itemScalars rest

def memberScalars : List (String × Json) → List Json
  | [] => []
  | (_, j) :: rest => j.scalars ++ memberScalars rest

end

theorem itemScalars_eq_flatMap (items : List Json) : itemScalars items = items.flatMap scalars := by
  induction items with
  | nil => rfl
  | cons j rest ih => rw [itemScalars, ih, List.flatMap_cons]

theorem memberScalars_eq_flatMap (members : List (String × Json)) :
    memberScalars members = members.flatMap fun e => e.2.scalars := by
  induction members with
  | nil => rfl
  | cons e rest ih => rw [memberScalars, ih, List.flatMap_cons]

theorem mem_scalars_arr {items : List Json} {k : Json} :
    k ∈ (Json.arr items).scalars ↔ ∃ j ∈ items, k ∈ j.scalars := by
  rw [scalars, itemScalars_eq_flatMap, List.mem_flatMap]

theorem mem_scalars_obj {members : List (String × Json)} {k : Json} :
    k ∈ (Json.obj members).scalars ↔ ∃ e ∈ members, k ∈ e.2.scalars := by
  rw [scalars, memberScalars_eq_flatMap, List.mem_flatMap]

/-- No integer in a value is too long to be read. -/
def Short (j : Json) : Prop := ∀ n, .int n ∈ j.scalars → n.natAbs < 10 ^ Numeral.maxDigits

/-- The text of a value is its displayed form. An integer that is too long to be read cannot be
written either, and a text with stray surrogates is no row of characters, so these have no text. -/
structure HasText (j : Json) (text : List Char) : Prop where
  short : j.Short
  plain : ∀ t, j ≠ .stray t
  display_eq : j.display = text

/-- Every floating-point number in a value reads back as itself. -/
def Exact (j : Json) : Prop := ∀ x, .float x ∈ j.scalars → x.ReadsBack

/-- A value that can be read from its own text. -/
structure Legible (j : Json) : Prop where
  distinct : j.Distinct
  short : j.Short
  exact : j.Exact

theorem hasText_toList_iff {j : Json} (hshort : j.Short) (hplain : ∀ t, j ≠ .stray t)
    (text : String) : j.HasText text.toList ↔ j.displayText = text := by
  constructor
  · intro h
    rw [displayText, h.display_eq, String.ofList_toList]
  · rintro rfl
    exact ⟨hshort, hplain, String.toList_ofList.symm⟩

theorem Short.field {j : Json} (h : j.Short) (key : String) : (j.field key).Short := by
  have hnull : Json.null.Short := by
    simp [Short, scalars]
  cases j with
  | obj members =>
      simp only [Json.field]
      cases hfound : find? members key with
      | none => exact hnull
      | some v =>
          intro n hn
          exact h n (mem_scalars_obj.2 ⟨(key, v), mem_of_find? hfound, hn⟩)
  | _ => exact hnull

namespace Legible

theorem of_mem {items : List Json} (h : Legible (.arr items)) :
    ∀ j ∈ items, j.Legible := fun j hj =>
  { distinct := distinct_arr_iff.1 h.distinct j hj
    short := fun n hn => h.short n (mem_scalars_arr.2 ⟨j, hj, hn⟩)
    exact := fun x hx => h.exact x (mem_scalars_arr.2 ⟨j, hj, hx⟩) }

theorem of_mem_members {members : List (String × Json)} (h : Legible (.obj members)) :
    ∀ e ∈ members, e.2.Legible := fun e he =>
  { distinct := (distinct_obj_iff.1 h.distinct).2 e he
    short := fun n hn => h.short n (mem_scalars_obj.2 ⟨e, he, hn⟩)
    exact := fun x hx => h.exact x (mem_scalars_obj.2 ⟨e, he, hx⟩) }

end Legible

/-! ## What a reader gives -/

theorem short_of_readNumber {cs rest : List Char} {j : Json}
    (h : readNumber cs = .ok (j, rest)) : j.Short := by
  intro n hn
  rcases readNumber_ok h with ⟨negative, ds, hdigits, hlength, rfl⟩ | ⟨x, rfl⟩
  · rw [scalars, List.mem_singleton, Json.int.injEq] at hn
    calc
      n.natAbs = digitsToNat ds := by cases negative <;> simp [hn, Binary64.signed]
      _ < 10 ^ ds.length := digitsToNat_lt hdigits
      _ ≤ 10 ^ Numeral.maxDigits := Nat.pow_le_pow_right (by decide) hlength
  · simp [scalars] at hn

theorem inherited_short : Inherited Short where
  word := by
    simp [wordValues, Short, scalars]
  number := short_of_readNumber
  text t := by cases t <;> simp [Json.ofRaw, Short, scalars]
  arr h n hn := by
    obtain ⟨j, hj, hn⟩ := mem_scalars_arr.1 hn
    exact h j hj n hn
  obj h n hn := by
    obtain ⟨e, he, hn⟩ := mem_scalars_obj.1 hn
    exact forall_putAll (p := Short) (by simp) h e he n hn

/-- A value that was read from a text has no integer that is too long. -/
theorem short_of_read {text : String} {j : Json} (h : read text = .ok j) : j.Short :=
  inherited_short.of_read h

end Rollout.Json
