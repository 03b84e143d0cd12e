import Rollout.Json.Reader
import Rollout.Json.Writer

/-!
# Texts that are written and read

Every character of a text is written as one or two code points, as itself or in an escape, and the
reader puts the two surrogates of a character together again. A text is therefore read as it was
before it was written, whatever follows it.
-/

namespace Rollout.Json

open Text

/-! ## Escapes -/

theorem hexValue?_digitChar : ∀ d < 16, hexValue? (Nat.digitChar d) = some d := by decide

theorem hexDigits_four (n : Nat) :
    hexDigits 4 n = [Nat.digitChar (n / 4096 % 16), Nat.digitChar (n / 256 % 16),
      Nat.digitChar (n / 16 % 16), Nat.digitChar (n / 1 % 16)] := rfl

theorem hexUnit?_hexDigits {n : Nat} (h : n < 0x10000) :
    hexUnit? (Nat.digitChar (n / 4096 % 16)) (Nat.digitChar (n / 256 % 16))
      (Nat.digitChar (n / 16 % 16)) (Nat.digitChar (n / 1 % 16)) = some n := by
  have hvalue (k : Nat) : hexValue? (Nat.digitChar (k % 16)) = some (k % 16) :=
    hexValue?_digitChar _ (Nat.mod_lt _ (by decide))
  simp only [hexUnit?, hvalue, Option.bind_eq_bind, Option.bind_some, Option.pure_def,
    Option.some.injEq]
  omega

variable (opening : List Char)

theorem readCodes_unitEscape {n : Nat} (h : n < 0x10000) {rest : List Char} (hrest : rest ≠ []) :
    readCodes opening (unitEscape n ++ rest) = prepend n (readCodes opening rest) := by
  rw [unitEscape, hexDigits_four]
  simp only [List.cons_append, List.nil_append]
  rw [readCodes, hexUnit?_hexDigits h]
  simp [hrest]

theorem readCodes_escape {c d : Char} (hu : c ≠ 'u') (h : unescape? c = some d)
    (rest : List Char) :
    readCodes opening ('\\' :: c :: rest) = prepend d.toNat (readCodes opening rest) := by
  rw [readCodes]
  · simp [hu, h]
  · exact fun _ _ _ _ _ he => absurd he hu

theorem readCodes_plain {c : Char} (hescape : c ≠ '\\') (hmark : c ≠ '\x22')
    (hshown : 32 ≤ c.toNat) (rest : List Char) :
    readCodes opening (c :: rest) = prepend c.toNat (readCodes opening rest) := by
  rw [readCodes]
  · simp [hmark, Nat.not_lt.2 hshown]
  all_goals
    intros
    contradiction

theorem readCodes_mark (rest : List Char) :
    readCodes opening ('\x22' :: rest) = .ok ([], rest) := by
  simp [readCodes]

/-! ## Characters -/

theorem toNat_valid (c : Char) : c.toNat < 0xd800 ∨ 0xdfff < c.toNat ∧ c.toNat < 0x110000 :=
  c.valid

/-- The code points by which a character is written: itself, or its two surrogates. -/
def units (c : Char) : List Nat :=
  if c.toNat < 0x10000 then [c.toNat]
  else [0xd800 + (c.toNat - 0x10000) / 0x400, 0xdc00 + (c.toNat - 0x10000) % 0x400]

/-- A character is written by a letter after a backslash, as it stands, or by the escapes of its
code points. -/
theorem writeChar_cases (c : Char) :
    (c.toNat < 0x10000 ∧ ∃ e, writeChar c = ['\\', e] ∧ e ≠ 'u' ∧ unescape? e = some c) ∨
      (c.toNat < 0x10000 ∧ writeChar c = [c] ∧ c ≠ '\\' ∧ c ≠ '\x22' ∧ 32 ≤ c.toNat) ∨
      writeChar c = (units c).flatMap unitEscape := by
  unfold writeChar
  split
  · rename_i hc
    simp only [Bool.or_eq_true, beq_iff_eq] at hc
    rcases hc with rfl | rfl
    · exact .inl ⟨by decide, _, rfl, by decide, rfl⟩
    · exact .inl ⟨by decide, _, rfl, by decide, rfl⟩
  rename_i hplain
  iterate 5
    split
    · rename_i hc
      obtain rfl := eq_of_beq hc
      exact .inl ⟨by decide, _, rfl, by decide, rfl⟩
  split
  · rename_i hshown
    simp only [Bool.or_eq_true, beq_iff_eq, not_or] at hplain
    simp only [Bool.and_eq_true, decide_eq_true_eq] at hshown
    exact .inr (.inl ⟨by omega, rfl, hplain.2, hplain.1, hshown.1⟩)
  split
  · rename_i hone
    exact .inr (.inr (by rw [units, if_pos hone, List.flatMap_singleton]))
  · rename_i htwo
    refine .inr (.inr ?_)
    rw [units, if_neg htwo, List.flatMap_cons, List.flatMap_singleton]

theorem units_lt {c : Char} {n : Nat} (h : n ∈ units c) : n < 0x10000 := by
  have hvalid := toNat_valid c
  unfold units at h
  split at h
  · simp only [List.mem_singleton] at h
    omega
  · simp only [List.mem_cons, List.not_mem_nil, or_false] at h
    omega

theorem readCodes_escapes {ns : List Nat} (h : ∀ n ∈ ns, n < 0x10000) {rest : List Char}
    (hrest : rest ≠ []) :
    readCodes opening (ns.flatMap unitEscape ++ rest) =
      ns.foldr prepend (readCodes opening rest) := by
  induction ns with
  | nil => rfl
  | cons n ns ih =>
      rw [List.forall_mem_cons] at h
      rw [List.flatMap_cons, List.append_assoc, readCodes_unitEscape opening h.1, ih h.2,
        List.foldr_cons]
      simp [hrest]

theorem readCodes_writeChar (c : Char) {rest : List Char} (hrest : rest ≠ []) :
    readCodes opening (writeChar c ++ rest) =
      (units c).foldr prepend (readCodes opening rest) := by
  rcases writeChar_cases c with
    ⟨hone, e, he, hu, hunescape⟩ | ⟨hone, he, hescape, hmark, hshown⟩ | he
  · rw [he, units, if_pos hone]
    exact readCodes_escape opening hu hunescape rest
  · rw [he, units, if_pos hone]
    exact readCodes_plain opening hescape hmark hshown rest
  · rw [he, readCodes_escapes opening (fun n => units_lt) hrest]

/-- The code points by which what stands at one place is written. -/
def signUnits : Sign → List Nat
  | .char c => units c
  | .lone u => [u.code]

theorem readCodes_writeSign (s : Sign) {rest : List Char} (hrest : rest ≠ []) :
    readCodes opening (writeSign s ++ rest) =
      (signUnits s).foldr prepend (readCodes opening rest) := by
  cases s with
  | char c => exact readCodes_writeChar opening c hrest
  | lone u =>
      have hcode : u.code < 0x10000 := by
        have hvalid := u.valid
        omega
      exact readCodes_unitEscape opening hcode hrest

/-! ## Surrogates -/

theorem codeSign_char (c : Char) : codeSign c.toNat = .char c := by
  have hvalid := toNat_valid c
  rw [codeSign, dif_neg (by omega), Char.ofNat_toNat]

theorem codeSign_lone (u : Surrogate) : codeSign u.code = .lone u := by
  rw [codeSign, dif_pos u.valid]

theorem isHighSurrogate_code (u : Surrogate) : isHighSurrogate u.code = u.isHigh := by
  rw [← isFirst_codeSign, codeSign_lone, Sign.isFirst]

theorem isLowSurrogate_code (u : Surrogate) : isLowSurrogate u.code = !u.isHigh := by
  rw [← isSecond_codeSign, codeSign_lone, Sign.isSecond]

/-- The reader takes a character together from the code points by which it is written. -/
theorem joinSurrogates_units (c : Char) (ns : List Nat) :
    joinSurrogates none (units c ++ ns) = .char c :: joinSurrogates none ns := by
  have hvalid := toNat_valid c
  unfold units
  split
  · have hhigh : isHighSurrogate c.toNat = false := by
      simp [isHighSurrogate]
      omega
    simp [joinSurrogates, codeSign_char, hhigh]
  · generalize hk : c.toNat - 0x10000 = k
    have hhigh : isHighSurrogate (0xd800 + k / 0x400) = true := by
      simp [isHighSurrogate]
      omega
    have hlow : isLowSurrogate (0xdc00 + k % 0x400) = true := by
      simp [isLowSurrogate]
      omega
    have hpair : pairChar (0xd800 + k / 0x400) (0xdc00 + k % 0x400) = c := by
      rw [pairChar, show 0x10000 + (0xd800 + k / 0x400 - 0xd800) * 0x400 +
        (0xdc00 + k % 0x400 - 0xdc00) = c.toNat by omega, Char.ofNat_toNat]
    simp [joinSurrogates, hhigh, hlow, hpair]

/-- A first surrogate that waits for its second stays as it is when no second one follows. -/
theorem joinSurrogates_some (high : Nat) {ns : List Nat}
    (h : ∀ n ∈ ns.head?, isLowSurrogate n = false) :
    joinSurrogates (some high) ns = codeSign high :: joinSurrogates none ns := by
  cases ns with
  | nil => rfl
  | cons n ns =>
      have hlow : isLowSurrogate n = false := h n rfl
      rw [joinSurrogates, joinSurrogates, hlow]
      cases isHighSurrogate n <;> rfl

theorem joinSurrogates_lone (u : Surrogate) {ns : List Nat}
    (h : u.isHigh = true → ∀ n ∈ ns.head?, isLowSurrogate n = false) :
    joinSurrogates none (u.code :: ns) = .lone u :: joinSurrogates none ns := by
  rw [joinSurrogates, isHighSurrogate_code]
  cases hhigh : u.isHigh with
  | true => rw [if_pos rfl, joinSurrogates_some u.code (h hhigh), codeSign_lone]
  | false => rw [if_neg Bool.false_ne_true, codeSign_lone]

/-- A character is not written by a second surrogate first. -/
theorem isLowSurrogate_head_units (c : Char) (ns : List Nat) :
    ∀ n ∈ (units c ++ ns).head?, isLowSurrogate n = false := by
  have hvalid := toNat_valid c
  intro n hn
  unfold units at hn
  split at hn
  · obtain rfl : c.toNat = n := by simpa using hn
    simp [isLowSurrogate]
    omega
  · obtain rfl : 0xd800 + (c.toNat - 0x10000) / 0x400 = n := by simpa using hn
    simp [isLowSurrogate]
    omega

/-- Signs without a pair among them are read from the code points by which they are written. -/
theorem joinSurrogates_signUnits {signs : List Sign} (h : Sign.unpaired signs = true) :
    joinSurrogates none (signs.flatMap signUnits) = signs := by
  induction signs with
  | nil => rfl
  | cons s rest ih =>
      rw [Sign.unpaired_cons_iff] at h
      obtain ⟨hnext, hrest⟩ := h
      rw [List.flatMap_cons]
      cases s with
      | char c => rw [signUnits, joinSurrogates_units, ih hrest]
      | lone u =>
          rw [signUnits, List.singleton_append, joinSurrogates_lone u, ih hrest]
          intro hhigh
          cases rest with
          | nil => rintro n ⟨⟩
          | cons s' rest =>
              cases s' with
              | char c => exact isLowSurrogate_head_units c _
              | lone v =>
                  intro n hn
                  obtain rfl : v.code = n := by simpa [signUnits] using hn
                  rw [isLowSurrogate_code]
                  exact hnext hhigh _ rfl

/-! ## Texts -/

theorem foldr_prepend (ns codes : List Nat) (rest : List Char) :
    ns.foldr prepend (.ok (codes, rest)) = .ok (ns ++ codes, rest) := by
  induction ns with
  | nil => rfl
  | cons n ns ih => rw [List.foldr_cons, ih, prepend, List.cons_append]

theorem readCodes_write (signs : List Sign) (rest : List Char) :
    readCodes opening (signs.flatMap writeSign ++ '\x22' :: rest) =
      .ok (signs.flatMap signUnits, rest) := by
  induction signs with
  | nil => exact readCodes_mark opening rest
  | cons s signs ih =>
      rw [List.flatMap_cons, List.append_assoc, readCodes_writeSign opening s (by simp), ih,
        foldr_prepend, List.flatMap_cons]

/-- A written text is read as the text. -/
theorem readString_write (t : RawText) (rest : List Char) :
    readString opening (t.signs.flatMap writeSign ++ '\x22' :: rest) = .ok (t, rest) := by
  rw [readString, readCodes_write]
  simp only [joinSurrogates_signUnits t.unpaired_signs, RawText.ofSigns_signs]

theorem flatMap_writeSign_plain (s : String) :
    (RawText.plain s).signs.flatMap writeSign = s.toList.flatMap writeChar := by
  rw [RawText.signs, List.flatMap_map]
  rfl

theorem readString_write_plain (s : String) (rest : List Char) :
    readString opening (s.toList.flatMap writeChar ++ '\x22' :: rest) = .ok (.plain s, rest) := by
  rw [← flatMap_writeSign_plain, readString_write]

theorem write_ofRaw (t : RawText) :
    write (.ofRaw t) = '\x22' :: t.signs.flatMap writeSign ++ ['\x22'] := by
  cases t with
  | plain s => rw [flatMap_writeSign_plain, ofRaw, write, writeString]
  | stray t => rfl

end Rollout.Json
