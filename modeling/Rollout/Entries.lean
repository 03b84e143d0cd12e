/-!
# Entries in order

A table is a list of entries, a key with a value each. Putting a key that is present replaces its
value and keeps its place; a new key goes to the end. Reading takes the first entry of a key.
-/

namespace Rollout.Entries

variable {κ ν : Type}

/-- The keys in order. -/
def keys (entries : List (κ × ν)) : List κ := entries.map Prod.fst

@[simp] theorem keys_nil : keys ([] : List (κ × ν)) = [] := rfl

@[simp] theorem keys_cons (e : κ × ν) (entries : List (κ × ν)) :
    keys (e :: entries) = e.1 :: keys entries := rfl

variable [BEq κ]

/-- Replace the value of a present key, or append a new entry. -/
def put (entries : List (κ × ν)) (key : κ) (value : ν) : List (κ × ν) :=
  match entries with
  | [] => [(key, value)]
  | (k, v) :: rest => if k == key then (k, value) :: rest else (k, v) :: put rest key value

/-- Put the entries of a list one after the other. -/
def putAll (entries : List (κ × ν)) (more : List (κ × ν)) : List (κ × ν) :=
  more.foldl (fun acc e => put acc e.1 e.2) entries

/-- The value of a key. -/
def find? (entries : List (κ × ν)) (key : κ) : Option ν :=
  match entries with
  | [] => none
  | (k, v) :: rest => if k == key then some v else find? rest key

@[simp] theorem find?_nil (key : κ) : find? ([] : List (κ × ν)) key = none := rfl

variable [LawfulBEq κ]

theorem find?_put (entries : List (κ × ν)) (key k : κ) (value : ν) :
    find? (put entries key value) k = if key == k then some value else find? entries k := by
  induction entries with
  | nil => simp [put, find?]
  | cons e rest ih =>
    obtain ⟨k', v⟩ := e
    by_cases h : k' = key
    · subst h
      by_cases hk : k' = k <;> simp [put, find?, hk]
    · by_cases hk : k' = k
      · subst hk
        have : key ≠ k' := fun h' => h h'.symm
        simp [put, find?, h, this]
      · simp [put, find?, h, hk, ih]

@[simp] theorem find?_put_self (entries : List (κ × ν)) (key : κ) (value : ν) :
    find? (put entries key value) key = some value := by
  simp [find?_put]

theorem find?_isSome_iff (entries : List (κ × ν)) (key : κ) :
    (find? entries key).isSome = true ↔ key ∈ keys entries := by
  induction entries with
  | nil => simp
  | cons e rest ih =>
    obtain ⟨k, v⟩ := e
    by_cases h : k = key
    · simp [find?, h]
    · have : key ≠ k := fun h' => h h'.symm
      simp [find?, h, this, ih]

theorem find?_eq_none_iff (entries : List (κ × ν)) (key : κ) :
    find? entries key = none ↔ key ∉ keys entries := by
  rw [← find?_isSome_iff, Option.not_isSome_iff_eq_none]

theorem keys_put_of_mem {entries : List (κ × ν)} {key : κ} (h : key ∈ keys entries)
    (value : ν) : keys (put entries key value) = keys entries := by
  induction entries with
  | nil => simp at h
  | cons e rest ih =>
    obtain ⟨k, v⟩ := e
    by_cases hk : k = key
    · simp [put, hk]
    · have hmem : key ∈ keys rest := by
        rcases List.mem_cons.1 h with h | h
        · exact absurd h.symm hk
        · exact h
      simp [put, hk, ih hmem]

theorem put_of_not_mem {entries : List (κ × ν)} {key : κ} (h : key ∉ keys entries) (value : ν) :
    put entries key value = entries ++ [(key, value)] := by
  induction entries with
  | nil => rfl
  | cons e rest ih =>
    obtain ⟨k, v⟩ := e
    simp only [keys_cons, List.mem_cons, not_or] at h
    have hk : k ≠ key := fun h' => h.1 h'.symm
    simp [put, hk, ih h.2]

theorem keys_put_of_not_mem {entries : List (κ × ν)} {key : κ} (h : key ∉ keys entries)
    (value : ν) : keys (put entries key value) = keys entries ++ [key] := by
  rw [put_of_not_mem h, keys, List.map_append]
  rfl

theorem nodup_keys_put {entries : List (κ × ν)} (h : (keys entries).Nodup) (key : κ)
    (value : ν) : (keys (put entries key value)).Nodup := by
  by_cases hmem : key ∈ keys entries
  · rwa [keys_put_of_mem hmem]
  · rw [keys_put_of_not_mem hmem, List.nodup_append]
    refine ⟨h, by simp, fun k hk k' hk' => ?_⟩
    rintro rfl
    exact hmem (List.mem_singleton.1 hk' ▸ hk)

theorem nodup_keys_putAll {entries : List (κ × ν)} (h : (keys entries).Nodup)
    (more : List (κ × ν)) : (keys (putAll entries more)).Nodup := by
  induction more generalizing entries with
  | nil => exact h
  | cons e rest ih => exact ih (nodup_keys_put h e.1 e.2)

/-- Entries with new keys go to the end in their order. -/
theorem putAll_of_nodup {entries more : List (κ × ν)} (h : (keys (entries ++ more)).Nodup) :
    putAll entries more = entries ++ more := by
  induction more generalizing entries with
  | nil => exact (List.append_nil _).symm
  | cons e rest ih =>
    have hnew : e.1 ∉ keys entries := by
      rw [keys, List.map_append, List.nodup_append] at h
      exact fun hmem => h.2.2 e.1 hmem e.1 (by simp) rfl
    have hcons : entries ++ e :: rest = (entries ++ [e]) ++ rest := by simp
    rw [hcons] at h ⊢
    rw [← ih h, ← put_of_not_mem hnew e.2]
    rfl

omit [LawfulBEq κ] in
theorem forall_put {p : ν → Prop} {entries : List (κ × ν)} (h : ∀ e ∈ entries, p e.2)
    (key : κ) {value : ν} (hv : p value) : ∀ e ∈ put entries key value, p e.2 := by
  induction entries with
  | nil => simpa [put] using hv
  | cons e rest ih =>
    obtain ⟨k, v⟩ := e
    rw [List.forall_mem_cons] at h
    rw [put]
    split
    · exact List.forall_mem_cons.2 ⟨hv, h.2⟩
    · exact List.forall_mem_cons.2 ⟨h.1, ih h.2⟩

omit [LawfulBEq κ] in
theorem forall_putAll {p : ν → Prop} {entries more : List (κ × ν)}
    (h : ∀ e ∈ entries, p e.2) (hm : ∀ e ∈ more, p e.2) :
    ∀ e ∈ putAll entries more, p e.2 := by
  induction more generalizing entries with
  | nil => exact h
  | cons e rest ih =>
    rw [List.forall_mem_cons] at hm
    exact ih (forall_put h e.1 hm.1) hm.2

omit [LawfulBEq κ] in
theorem find?_cons (k : κ) (v : ν) (rest : List (κ × ν)) (key : κ) :
    find? ((k, v) :: rest) key = if k == key then some v else find? rest key := rfl

theorem mem_of_find? {entries : List (κ × ν)} {key : κ} {value : ν}
    (h : find? entries key = some value) : (key, value) ∈ entries := by
  induction entries with
  | nil => cases h
  | cons e rest ih =>
    obtain ⟨k, v⟩ := e
    rw [find?_cons] at h
    split at h
    · rename_i hk
      rw [← eq_of_beq hk, ← Option.some.inj h]
      exact List.mem_cons_self
    · exact List.mem_cons_of_mem _ (ih h)

/-- When no key is given twice, every entry is found under its key. -/
theorem find?_of_mem {entries : List (κ × ν)} (h : (keys entries).Nodup) {e : κ × ν}
    (he : e ∈ entries) : find? entries e.1 = some e.2 := by
  induction entries with
  | nil => cases he
  | cons e' rest ih =>
    rw [keys_cons, List.nodup_cons] at h
    rcases List.mem_cons.1 he with rfl | he
    · simp [find?]
    · have hne : e'.1 ≠ e.1 := fun h' => h.1 (h' ▸ List.mem_map_of_mem he)
      simp [find?, hne, ih h.2 he]

/-! ## The order of entries -/

omit [LawfulBEq κ] in
theorem find?_append (entries more : List (κ × ν)) (key : κ) :
    find? (entries ++ more) key = (find? entries key).or (find? more key) := by
  induction entries with
  | nil => rfl
  | cons e rest ih =>
    obtain ⟨k, v⟩ := e
    rw [List.cons_append, find?_cons, find?_cons, ih]
    split <;> rfl

/-- An entry is not seen under any other key than its own. -/
theorem find?_insert (before after : List (κ × ν)) (e : κ × ν) {key : κ} (h : key ≠ e.1) :
    find? (before ++ e :: after) key = find? (before ++ after) key := by
  have hne : e.1 ≠ key := fun h' => h h'.symm
  rw [find?_append, find?_append, find?_cons, if_neg (by simpa using hne)]

omit [BEq κ] [LawfulBEq κ] in
theorem nodup_keys_insert_iff (before after : List (κ × ν)) (e : κ × ν) :
    (keys (before ++ e :: after)).Nodup ↔
      e.1 ∉ keys (before ++ after) ∧ (keys (before ++ after)).Nodup := by
  rw [← List.nodup_cons, ← keys_cons]
  exact (List.perm_middle.map Prod.fst).nodup_iff

omit [LawfulBEq κ] in
theorem find?_map {μ : Type} (f : ν → μ) (entries : List (κ × ν)) (key : κ) :
    find? (entries.map fun e => (e.1, f e.2)) key = (find? entries key).map f := by
  induction entries with
  | nil => rfl
  | cons e rest ih =>
    obtain ⟨k, v⟩ := e
    rw [List.map_cons, find?_cons, find?_cons, ih]
    split <;> rfl

/-- When no key is given twice, nothing depends on the order of the entries. -/
theorem find?_perm {entries entries' : List (κ × ν)} (h : entries'.Perm entries)
    (hk : (keys entries).Nodup) (key : κ) : find? entries' key = find? entries key := by
  have hkeys : (keys entries').Perm (keys entries) := h.map Prod.fst
  cases hf : find? entries key with
  | none =>
    rw [find?_eq_none_iff] at hf ⊢
    exact fun hmem => hf (hkeys.mem_iff.1 hmem)
  | some value =>
    have hmem : (key, value) ∈ entries' := h.mem_iff.2 (mem_of_find? hf)
    exact find?_of_mem (hkeys.nodup_iff.2 hk) hmem

/-- Reordered entries with distinct keys that come in the same order are the same. -/
theorem eq_of_perm_of_keys_eq {entries entries' : List (κ × ν)} (h : entries'.Perm entries)
    (hkeys : keys entries' = keys entries) (hk : (keys entries).Nodup) : entries' = entries := by
  induction entries generalizing entries' with
  | nil => exact h.eq_nil
  | cons e rest ih =>
    cases entries' with
    | nil => cases hkeys
    | cons e' rest' =>
      rw [keys_cons, keys_cons, List.cons.injEq] at hkeys
      have hvalue : find? (e' :: rest') e'.1 = some e'.2 := by simp [find?]
      rw [find?_perm h hk, hkeys.1] at hvalue
      have he : e' = e := by
        refine Prod.ext hkeys.1 ?_
        simpa [find?] using hvalue.symm
      subst he
      rw [ih (List.Perm.cons_inv h) hkeys.2 (List.nodup_cons.1 hk).2]

end Rollout.Entries
