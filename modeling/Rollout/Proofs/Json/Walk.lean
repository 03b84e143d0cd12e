import Mathlib.Tactic.Common
import Rollout.Json.Reader

/-!
# What is true of every value that is read

A property that words, numbers and texts have, and that passes from items and members to arrays
and objects, is a property of every value that is read from a text.

## Implementation notes

The readers call each other with less fuel, so what they give is described for all three at once
and the induction is on the fuel.
-/

namespace Rollout.Json

open Entries Text

theorem isAsciiDigit_of_mem_splitWhole {cs : List Char} :
    ∀ c ∈ (splitWhole cs).1, isAsciiDigit c = true := by
  intro c hc
  unfold splitWhole at hc
  split at hc
  · split at hc
    · rw [List.mem_singleton.1 hc]
      rfl
    · exact List.all_eq_true.1 List.all_takeWhile c hc
  · cases hc

/-- A number that is read is an integer of a row of digits, not too long, or a floating-point
number. -/
theorem readNumber_ok {cs rest : List Char} {j : Json} (h : readNumber cs = .ok (j, rest)) :
    (∃ negative ds, (∀ c ∈ ds, isAsciiDigit c = true) ∧ ds.length ≤ Numeral.maxDigits ∧
      j = .int (Binary64.signed negative (digitsToNat ds))) ∨ ∃ x, j = .float x := by
  unfold readNumber at h
  split at h
  rename_i body _
  split at h
  rename_i hwhole
  split at h
  · contradiction
  split at h
  split at h
  split at h
  · split at h
    · contradiction
    · rename_i hlength
      cases h
      refine .inl ⟨_, _, ?_, Nat.not_lt.1 hlength, rfl⟩
      have hdigits := @isAsciiDigit_of_mem_splitWhole body
      rwa [hwhole] at hdigits
  · cases h
    exact .inr ⟨_, rfl⟩

/-- A property that reading establishes, from the plain values up. The members of an object pass
it on as they were read, before those with the same key are put together. -/
structure Inherited (p : Json → Prop) : Prop where
  word : ∀ e ∈ wordValues, p e.2
  number : ∀ {cs rest : List Char} {j : Json}, readNumber cs = .ok (j, rest) → p j
  text : ∀ t : RawText, p (.ofRaw t)
  arr : ∀ {items : List Json}, (∀ j ∈ items, p j) → p (.arr items)
  obj : ∀ {members : List (String × Json)}, (∀ e ∈ members, p e.2) → p (.obj (putAll [] members))

variable {p : Json → Prop}

theorem Inherited.plain (hp : Inherited p) {cs rest : List Char} {j : Json}
    (h : readPlain cs = .ok (j, rest)) : p j := by
  unfold readPlain at h
  split at h
  · rename_i hword
    cases h
    obtain ⟨e, he, heq⟩ := List.exists_of_findSome?_eq_some hword
    obtain ⟨_, _, heq⟩ := Option.map_eq_some_iff.1 heq
    cases heq
    exact hp.word e he
  · exact hp.number h

/-- What the readers give with some fuel has a property. -/
structure Reads (p : Json → Prop) (fuel : Nat) : Prop where
  value : ∀ {cs rest : List Char} {j : Json}, readValue fuel cs = .ok (j, rest) → p j
  items : ∀ {cs rest : List Char} {items : List Json},
    readItems fuel cs = .ok (items, rest) → ∀ j ∈ items, p j
  members : ∀ {cs rest : List Char} {members : List (String × Json)},
    readMembers fuel cs = .ok (members, rest) → ∀ e ∈ members, p e.2

namespace Reads

theorem zero : Reads p 0 := by
  constructor <;> intro _ _ _ h
  · cases h
  · cases h
  · cases h

variable {fuel : Nat} {cs rest : List Char}

theorem readValue_succ (hp : Inherited p) (h : Reads p fuel) {j : Json}
    (hr : readValue (fuel + 1) cs = .ok (j, rest)) : p j := by
  unfold readValue at hr
  split at hr
  · cases hr
  split at hr
  · split at hr
    · cases hr
    · cases hr
      exact hp.text _
  split at hr
  · split at hr
    · cases hr
      exact hp.arr (by simp)
    · split at hr
      · cases hr
      · rename_i hitems
        cases hr
        exact hp.arr (h.items hitems)
  split at hr
  · split at hr
    · cases hr
      exact @hp.obj [] (by simp)
    · split at hr
      · cases hr
      · rename_i hmembers
        cases hr
        exact hp.obj (h.members hmembers)
  · exact hp.plain hr

theorem readItems_succ (h : Reads p fuel) {items : List Json}
    (hr : readItems (fuel + 1) cs = .ok (items, rest)) : ∀ j ∈ items, p j := by
  unfold readItems at hr
  split at hr
  · cases hr
  rename_i hvalue
  split at hr
  · cases hr
    exact List.forall_mem_singleton.2 (h.value hvalue)
  · split at hr
    · cases hr
    · rename_i hitems
      cases hr
      exact List.forall_mem_cons.2 ⟨h.value hvalue, h.items hitems⟩
  · cases hr

theorem readMembers_succ (h : Reads p fuel) {members : List (String × Json)}
    (hr : readMembers (fuel + 1) cs = .ok (members, rest)) : ∀ e ∈ members, p e.2 := by
  unfold readMembers at hr
  split at hr
  · split at hr
    · cases hr
    split at hr
    · split at hr
      · cases hr
      rename_i hvalue
      split at hr
      · cases hr
        exact List.forall_mem_singleton.2 (h.value hvalue)
      · split at hr
        · cases hr
        · rename_i hmembers
          cases hr
          exact List.forall_mem_cons.2 ⟨h.value hvalue, h.members hmembers⟩
      · cases hr
    · cases hr
  · cases hr

theorem all (hp : Inherited p) (fuel : Nat) : Reads p fuel := by
  induction fuel with
  | zero => exact zero
  | succ fuel ih => exact ⟨ih.readValue_succ hp, ih.readItems_succ, ih.readMembers_succ⟩

end Reads

namespace Inherited

/-- An inherited property is a property of what is read from a text. -/
theorem of_read (hp : Inherited p) {text : String} {j : Json} (h : read text = .ok j) : p j := by
  simp only [read, readAll] at h
  split at h
  · contradiction
  split at h
  · contradiction
  rename_i hall
  split at hall
  · contradiction
  rename_i hvalue
  split at hall
  · cases hall
    cases h
    exact (Reads.all hp _).value hvalue
  · contradiction

end Inherited

end Rollout.Json
