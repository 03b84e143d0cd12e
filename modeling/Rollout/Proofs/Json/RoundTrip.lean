import Rollout.Proofs.Json.Legible
import Rollout.Proofs.Json.Plain
import Rollout.Proofs.Json.Text

/-!
# Values that are written and read

A legible value is read from its own text as it was.

## Implementation notes

The induction is on the value. What is true of the items of an array, or of the members of an
object, goes into a lemma about the list of them, by induction on the list. A reader has enough
fuel when it has two units for every character of the written value, and one more for a list.
-/

namespace Rollout.Json

open Entries Text

/-! ## Steps of the readers -/

theorem skipSpaces_cons {c : Char} (h : isSpace c = false) (cs : List Char) :
    skipSpaces (c :: cs) = c :: cs :=
  List.dropWhile_cons_of_neg (by simp [h])

theorem skipSpaces_space (cs : List Char) : skipSpaces (' ' :: cs) = skipSpaces cs := rfl

section Steps

variable {fuel : Nat} {c : Char} {cs ds rest : List Char} {j : Json}

theorem readValue_plain (hc : isPlainStart c = true) :
    readValue (fuel + 1) (c :: cs) = readPlain (c :: cs) := by
  have hne {d : Char} (hd : isPlainStart d = false) : (c == d) = false := by
    simpa using Spelling.ne_of_test hc hd
  rw [readValue, hne rfl, hne rfl, hne rfl]
  rfl

theorem readValue_text {t : RawText} (h : readString ('\x22' :: cs) cs = .ok (t, rest)) :
    readValue (fuel + 1) ('\x22' :: cs) = .ok (.ofRaw t, rest) := by
  simp [readValue, h]

theorem readValue_arr_nil : readValue (fuel + 1) ('[' :: ']' :: rest) = .ok (.arr [], rest) := rfl

theorem readValue_arr {items : List Json} (hspace : isSpace c = false) (hc : c ≠ ']')
    (h : readItems fuel (c :: cs) = .ok (items, rest)) :
    readValue (fuel + 1) ('[' :: c :: cs) = .ok (.arr items, rest) := by
  simp [readValue, skipSpaces_cons hspace, hc, h]

theorem readValue_obj_nil :
    readValue (fuel + 1) ('\x7b' :: '\x7d' :: rest) = .ok (.obj [], rest) := rfl

theorem readValue_obj {members : List (String × Json)}
    (h : readMembers fuel ('\x22' :: cs) = .ok (members, rest)) :
    readValue (fuel + 1) ('\x7b' :: '\x22' :: cs) = .ok (.obj (putAll [] members), rest) := by
  have hspace : skipSpaces ('\x22' :: cs) = '\x22' :: cs := rfl
  simp [readValue, hspace, h]

theorem readItems_last (h : readValue fuel cs = .ok (j, ']' :: rest)) :
    readItems (fuel + 1) cs = .ok ([j], rest) := by
  have hspace : skipSpaces (']' :: rest) = ']' :: rest := rfl
  simp [readItems, h, hspace]

theorem readItems_more {items : List Json} (h : readValue fuel cs = .ok (j, itemSeparator ++ ds))
    (hspace : skipSpaces ds = ds) (hrest : readItems fuel ds = .ok (items, rest)) :
    readItems (fuel + 1) cs = .ok (j :: items, rest) := by
  have hcomma : skipSpaces (',' :: ' ' :: ds) = ',' :: ' ' :: ds := rfl
  simp [readItems, h, itemSeparator, hcomma, skipSpaces_space, hspace, hrest]

theorem readMembers_last {key : String} (hspace : skipSpaces cs = cs)
    (h : readValue fuel cs = .ok (j, '\x7d' :: rest)) :
    readMembers (fuel + 1) (writeString key.toList ++ (keySeparator ++ cs)) =
      .ok ([(key, j)], rest) := by
  have hkey := readString_write_plain (writeString key.toList ++ (keySeparator ++ cs)) key
    (keySeparator ++ cs)
  have hcolon : skipSpaces (':' :: ' ' :: cs) = ':' :: ' ' :: cs := rfl
  have hbrace : skipSpaces ('\x7d' :: rest) = '\x7d' :: rest := rfl
  simp only [writeString, keySeparator, List.cons_append, List.append_assoc, List.nil_append]
    at hkey ⊢
  simp [readMembers, hkey, hcolon, skipSpaces_space, hspace, h, hbrace, RawText.shown]

theorem readMembers_more {key : String} {members : List (String × Json)}
    (hspace : skipSpaces cs = cs) (h : readValue fuel cs = .ok (j, itemSeparator ++ ds))
    (hds : skipSpaces ds = ds) (hrest : readMembers fuel ds = .ok (members, rest)) :
    readMembers (fuel + 1) (writeString key.toList ++ (keySeparator ++ cs)) =
      .ok ((key, j) :: members, rest) := by
  have hkey := readString_write_plain (writeString key.toList ++ (keySeparator ++ cs)) key
    (keySeparator ++ cs)
  have hcolon : skipSpaces (':' :: ' ' :: cs) = ':' :: ' ' :: cs := rfl
  have hcomma : skipSpaces (',' :: ' ' :: ds) = ',' :: ' ' :: ds := rfl
  simp only [writeString, keySeparator, itemSeparator, List.cons_append, List.append_assoc,
    List.nil_append] at hkey h ⊢
  simp [readMembers, hkey, hcolon, skipSpaces_space, hspace, h, hcomma, hds, hrest,
    RawText.shown]

end Steps

/-! ## Written values -/

/-- The text of an array between its brackets. -/
def itemsText (items : List Json) : List Char := separated itemSeparator (writeItems items)

/-- The text of an object between its braces. -/
def membersText (members : List (String × Json)) : List Char :=
  separated itemSeparator (writeMembers members)

theorem itemsText_singleton (j : Json) : itemsText [j] = write j := by
  simp [itemsText, writeItems, separated]

theorem itemsText_cons_cons (j k : Json) (items : List Json) :
    itemsText (j :: k :: items) = write j ++ (itemSeparator ++ itemsText (k :: items)) := by
  simp [itemsText, writeItems, separated]

theorem membersText_singleton (key : String) (j : Json) :
    membersText [(key, j)] = writeString key.toList ++ (keySeparator ++ write j) := by
  simp [membersText, writeMembers, separated]

theorem membersText_cons_cons (key : String) (j : Json) (e : String × Json)
    (members : List (String × Json)) :
    membersText ((key, j) :: e :: members) =
      writeString key.toList ++
        (keySeparator ++ (write j ++ (itemSeparator ++ membersText (e :: members)))) := by
  simp [membersText, writeMembers, separated]

theorem isSpace_of_isPlainStart {c : Char} (hc : isPlainStart c = true) : isSpace c = false := by
  have hne (d : Char) (hd : isPlainStart d = false) : c ≠ d := Spelling.ne_of_test hc hd
  simp [isSpace, hne ' ' rfl, hne '\t' rfl, hne '\n' rfl, hne '\r' rfl]

/-- A legible value is plain, a text, an array or an object. -/
theorem spells_write {j : Json} (h : j.Legible) :
    Spells (write j) j ∨ (∃ t, j = .ofRaw t) ∨ (∃ items, j = .arr items) ∨
      ∃ members, j = .obj members := by
  cases j with
  | null => exact .inl (spells_word ("null".toList, .null) (by simp [wordValues]))
  | bool b =>
      cases b with
      | false => exact .inl (spells_word ("false".toList, .bool false) (by simp [wordValues]))
      | true => exact .inl (spells_word ("true".toList, .bool true) (by simp [wordValues]))
  | int n => exact .inl (spells_int (h.short n (by simp [scalars])))
  | float x => exact .inl (spells_float (h.exact x (by simp [scalars])))
  | str s => exact .inr (.inl ⟨.plain s, rfl⟩)
  | stray t => exact .inr (.inl ⟨.stray t, rfl⟩)
  | arr items => exact .inr (.inr (.inl ⟨items, rfl⟩))
  | obj members => exact .inr (.inr (.inr ⟨members, rfl⟩))

/-- A written value begins neither with a blank nor with a bracket that closes, and not with a
mark of the byte order. -/
theorem write_eq_cons {j : Json} (h : j.Legible) :
    ∃ c cs, write j = c :: cs ∧ isSpace c = false ∧ c ≠ ']' ∧ c ≠ '\ufeff' := by
  rcases spells_write h with hspells | ⟨t, rfl⟩ | ⟨items, rfl⟩ | ⟨members, rfl⟩
  · obtain ⟨c, cs, hcs, hc⟩ := hspells.start
    exact ⟨c, cs, hcs, isSpace_of_isPlainStart hc, Spelling.ne_of_test hc rfl,
      Spelling.ne_of_test hc rfl⟩
  · exact ⟨'\x22', _, write_ofRaw t, rfl, by decide, by decide⟩
  · exact ⟨'[', _, rfl, rfl, by decide, by decide⟩
  · exact ⟨'\x7b', _, rfl, rfl, by decide, by decide⟩

theorem itemsText_eq_cons {j : Json} (h : j.Legible) (items : List Json) :
    ∃ c cs, itemsText (j :: items) = c :: cs ∧ isSpace c = false ∧ c ≠ ']' := by
  obtain ⟨c, cs, hcs, hspace, hbracket, _⟩ := write_eq_cons h
  exact ⟨c, _, by rw [itemsText, writeItems, separated, hcs, List.cons_append], hspace, hbracket⟩

theorem membersText_eq_cons (e : String × Json) (members : List (String × Json)) :
    ∃ cs, membersText (e :: members) = '\x22' :: cs :=
  ⟨_, rfl⟩

theorem skipSpaces_write {j : Json} (h : j.Legible) (rest : List Char) :
    skipSpaces (write j ++ rest) = write j ++ rest := by
  obtain ⟨c, cs, hcs, hc, _⟩ := write_eq_cons h
  rw [hcs, List.cons_append, skipSpaces_cons hc]

/-! ## Reading -/

/-- A value that is read from its own text, whatever ends it. -/
def Rereads (j : Json) : Prop :=
  ∀ ⦃rest : List Char⦄ ⦃fuel : Nat⦄, Ends rest → 2 * (write j).length ≤ fuel →
    readValue fuel (write j ++ rest) = .ok (j, rest)

theorem rereads_of_spells {j : Json} (h : Spells (write j) j) : Rereads j := by
  intro rest fuel hrest hfuel
  obtain ⟨c, cs, hcs, hc⟩ := h.start
  have hreads := h.reads rest hrest
  rw [hcs] at hreads hfuel ⊢
  cases fuel with
  | zero => simp at hfuel
  | succ fuel => rw [List.cons_append, readValue_plain hc, ← List.cons_append, hreads]

theorem rereads_text (t : RawText) : Rereads (.ofRaw t) := by
  intro rest fuel _ hfuel
  have hread := readString_write (write (.ofRaw t) ++ rest) t rest
  simp only [write_ofRaw, List.cons_append, List.append_assoc, List.nil_append] at hread ⊢
  cases fuel with
  | zero => simp [write_ofRaw] at hfuel
  | succ fuel => exact readValue_text hread

theorem readItems_write {j : Json} {items : List Json} (hlegible : ∀ k ∈ j :: items, k.Legible)
    (h : ∀ k ∈ j :: items, k.Rereads) {rest : List Char} {fuel : Nat}
    (hfuel : 2 * (itemsText (j :: items)).length < fuel) :
    readItems fuel (itemsText (j :: items) ++ ']' :: rest) = .ok (j :: items, rest) := by
  induction items generalizing j fuel with
  | nil =>
      rw [itemsText_singleton] at hfuel ⊢
      rw [List.forall_mem_singleton] at h
      cases fuel with
      | zero => cases hfuel
      | succ fuel => exact readItems_last (h (by simp [Ends]) (by omega))
  | cons k items ih =>
      rw [List.forall_mem_cons] at hlegible h
      obtain ⟨c, cs, hcs, hspace, _⟩ := itemsText_eq_cons (hlegible.2 k (by simp)) items
      have hds : skipSpaces (itemsText (k :: items) ++ ']' :: rest) =
          itemsText (k :: items) ++ ']' :: rest := by
        rw [hcs, List.cons_append, skipSpaces_cons hspace]
      simp only [itemsText_cons_cons, itemSeparator, List.length_append, List.length_cons] at hfuel
      simp only [itemsText_cons_cons, List.append_assoc]
      cases fuel with
      | zero => cases hfuel
      | succ fuel =>
          exact readItems_more (h.1 (by simp [Ends, itemSeparator]) (by omega)) hds
            (ih hlegible.2 h.2 (by omega))

theorem readMembers_write {e : String × Json} {members : List (String × Json)}
    (hlegible : ∀ k ∈ e :: members, k.2.Legible) (h : ∀ k ∈ e :: members, k.2.Rereads)
    {rest : List Char} {fuel : Nat} (hfuel : 2 * (membersText (e :: members)).length < fuel) :
    readMembers fuel (membersText (e :: members) ++ '\x7d' :: rest) = .ok (e :: members, rest) := by
  induction members generalizing e fuel with
  | nil =>
      obtain ⟨key, j⟩ := e
      rw [membersText_singleton] at hfuel ⊢
      rw [List.forall_mem_singleton] at h hlegible
      have hj : j.Rereads := h
      simp only [List.length_append] at hfuel
      simp only [List.append_assoc]
      cases fuel with
      | zero => cases hfuel
      | succ fuel =>
          exact readMembers_last (skipSpaces_write hlegible _) (hj (by simp [Ends]) (by omega))
  | cons k members ih =>
      obtain ⟨key, j⟩ := e
      rw [List.forall_mem_cons] at hlegible h
      have hj : j.Rereads := h.1
      simp only [membersText_cons_cons, itemSeparator, List.length_append, List.length_cons]
        at hfuel
      simp only [membersText_cons_cons, List.append_assoc]
      cases fuel with
      | zero => cases hfuel
      | succ fuel =>
          exact readMembers_more (skipSpaces_write hlegible.1 _)
            (hj (by simp [Ends, itemSeparator]) (by omega)) rfl (ih hlegible.2 h.2 (by omega))

theorem rereads_arr {items : List Json} (h : Legible (.arr items))
    (hitems : ∀ j ∈ items, j.Rereads) : Rereads (.arr items) := by
  intro rest fuel _ hfuel
  have hwrite : write (.arr items) = '[' :: itemsText items ++ [']'] := rfl
  simp only [hwrite, List.length_append, List.length_cons, List.length_nil] at hfuel
  rw [hwrite, List.append_assoc, List.cons_append, List.singleton_append]
  cases fuel with
  | zero => cases hfuel
  | succ fuel =>
      cases items with
      | nil => exact readValue_arr_nil
      | cons j items =>
          obtain ⟨c, cs, hcs, hspace, hc⟩ := itemsText_eq_cons (h.of_mem j (by simp)) items
          have hread := @readItems_write j items h.of_mem hitems rest fuel (by omega)
          rw [hcs, List.cons_append] at hread ⊢
          exact readValue_arr hspace hc hread

theorem rereads_obj {members : List (String × Json)} (h : Legible (.obj members))
    (hmembers : ∀ e ∈ members, e.2.Rereads) : Rereads (.obj members) := by
  intro rest fuel _ hfuel
  have hwrite : write (.obj members) = '\x7b' :: membersText members ++ ['\x7d'] := rfl
  simp only [hwrite, List.length_append, List.length_cons, List.length_nil] at hfuel
  rw [hwrite, List.append_assoc, List.cons_append, List.singleton_append]
  cases fuel with
  | zero => cases hfuel
  | succ fuel =>
      cases members with
      | nil => exact readValue_obj_nil
      | cons e members =>
          obtain ⟨cs, hcs⟩ := membersText_eq_cons e members
          have hread := @readMembers_write e members h.of_mem_members hmembers rest fuel (by omega)
          have hput : putAll [] (e :: members) = e :: members :=
            putAll_of_nodup h.distinct.nodup_keys
          rw [hcs, List.cons_append] at hread ⊢
          rw [readValue_obj hread, hput]

/-- A legible value is read from its own text, whatever ends it. -/
theorem rereads {j : Json} (h : j.Legible) : j.Rereads := by
  have hdistinct := h.distinct
  induction hdistinct with
  | null | bool | int | float =>
      apply rereads_of_spells ((spells_write h).resolve_right _)
      rintro (⟨t, htext⟩ | ⟨items, hitems⟩ | ⟨members, hmembers⟩)
      · exact ne_ofRaw (by simp [kind]) t htext
      · cases hitems
      · cases hmembers
  | str s => exact rereads_text (.plain s)
  | stray t => exact rereads_text (.stray t)
  | arr _ ih => exact rereads_arr h fun j hj => ih j hj (h.of_mem j hj)
  | obj _ _ ih => exact rereads_obj h fun e he => ih e he (h.of_mem_members e he)

theorem hasByteOrderMark_cons {c : Char} (hc : c ≠ '\ufeff') (cs : List Char) :
    hasByteOrderMark (c :: cs) = false := by
  rw [hasByteOrderMark, beq_eq_false_iff_ne]
  exact fun hcode => hc (by rw [← Char.ofNat_toNat c, hcode])

/-- A plain value is read from its text. -/
theorem read_of_spells {cs : List Char} {j : Json} (h : Spells cs j) :
    read (String.ofList cs) = .ok j := by
  obtain ⟨c, ds, rfl, hc⟩ := h.start
  have hmark := hasByteOrderMark_cons (Spelling.ne_of_test hc rfl) ds
  have hplain := h.reads [] ends_nil
  rw [List.append_nil] at hplain
  simp only [read, String.toList_ofList, hmark, readAll,
    skipSpaces_cons (isSpace_of_isPlainStart hc), readValue_plain hc, hplain]
  rfl

/-- A legible value is read from its own text. -/
theorem read_render {j : Json} (h : j.Legible) : read j.render = .ok j := by
  have hmark : hasByteOrderMark (write j) = false := by
    obtain ⟨c, cs, hcs, _, _, hc⟩ := write_eq_cons h
    rw [hcs, hasByteOrderMark_cons hc]
  have hskip := skipSpaces_write h []
  rw [List.append_nil] at hskip
  have hvalue := @rereads j h [] (2 * (write j).length + 2) ends_nil (by omega)
  rw [List.append_nil] at hvalue
  simp only [read, render, String.toList_ofList, hmark, readAll, hskip, hvalue]
  rfl

end Rollout.Json
