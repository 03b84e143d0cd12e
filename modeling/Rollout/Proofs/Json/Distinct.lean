import Rollout.Proofs.Json.Walk

/-!
# Values without repeated keys

A value that was read from a text gives no key of an object twice, at any depth, because the
reader puts the members of an object one after the other.
-/

namespace Rollout.Json

open Entries

/-- No object in a value gives a key twice. -/
inductive Distinct : Json → Prop
  | null : Distinct .null
  | bool (b : Bool) : Distinct (.bool b)
  | int (n : Int) : Distinct (.int n)
  | float (x : Binary64) : Distinct (.float x)
  | str (s : String) : Distinct (.str s)
  | stray (t : StrayText) : Distinct (.stray t)
  | arr {items : List Json} (values : ∀ j ∈ items, Distinct j) : Distinct (.arr items)
  | obj {members : List (String × Json)} (keys : (keys members).Nodup)
      (values : ∀ e ∈ members, Distinct e.2) : Distinct (.obj members)

theorem distinct_arr_iff {items : List Json} :
    Distinct (.arr items) ↔ ∀ j ∈ items, j.Distinct := by
  constructor
  · intro h
    cases h with
    | arr values => exact values
  · exact .arr

theorem distinct_obj_iff {members : List (String × Json)} :
    Distinct (.obj members) ↔ (keys members).Nodup ∧ ∀ e ∈ members, e.2.Distinct := by
  constructor
  · intro h
    cases h with
    | obj keys values => exact ⟨keys, values⟩
  · intro h
    exact .obj h.1 h.2

namespace Distinct

theorem putAll {members : List (String × Json)} (h : ∀ e ∈ members, Distinct e.2) :
    Distinct (.obj (putAll [] members)) := by
  constructor
  · apply nodup_keys_putAll
    exact List.nodup_nil
  · apply forall_putAll _ h
    simp

theorem nodup_keys {members : List (String × Json)} (h : Distinct (.obj members)) :
    (keys members).Nodup :=
  (distinct_obj_iff.1 h).1

theorem field? {j value : Json} {key : String} (h : Distinct j) (hf : j.field? key = some value) :
    Distinct value := by
  cases h with
  | obj _ values => exact values _ (mem_of_find? hf)
  | null | bool | int | float | str | stray | arr => cases hf

theorem field {j : Json} (h : Distinct j) (key : String) : Distinct (j.field key) := by
  rw [field_eq_getD]
  cases hf : j.field? key with
  | none => exact .null
  | some value => exact h.field? hf

end Distinct

theorem distinct_of_readNumber {cs rest : List Char} {j : Json}
    (h : readNumber cs = .ok (j, rest)) : j.Distinct := by
  rcases readNumber_ok h with ⟨_, _, _, _, rfl⟩ | ⟨_, rfl⟩ <;> constructor

theorem inherited_distinct : Inherited Distinct where
  word := by
    simp only [wordValues, List.forall_mem_cons]
    exact ⟨.null, .bool _, .bool _, .float _, .float _, .float _, by simp⟩
  number := distinct_of_readNumber
  text t := by cases t <;> constructor
  arr := .arr
  obj := .putAll

/-- A value that was read from a text has no repeated keys. -/
theorem distinct_of_read {text : String} {j : Json} (h : read text = .ok j) : j.Distinct :=
  inherited_distinct.of_read h

end Rollout.Json
