import Rollout.Json.Reader
import Rollout.Json.Writer
import Rollout.Proofs.Number.Conversion
import Rollout.Proofs.Number.Spelling

/-!
# Words and numbers that are written and read

A word is read as the value that it stands for. A numeral with a fraction or an exponent is read
as a floating-point number, and one without as an integer, provided that what follows it does not
go on with it: in a written value only a comma or a closing bracket follows.
-/

namespace Rollout.Json

open Text Spelling

/-- What follows a value inside another one, or nothing. -/
def Ends (rest : List Char) : Prop := ∀ c ∈ rest.head?, c = ',' ∨ c = ']' ∨ c = '\x7d'

theorem ends_nil : Ends [] := nofun

theorem Ends.forall_head? {rest : List Char} (h : Ends rest) {p : Char → Prop}
    (hcomma : p ',') (hbracket : p ']') (hbrace : p '\x7d') : ∀ c ∈ rest.head?, p c := by
  intro c hc
  rcases h c hc with rfl | rfl | rfl
  · exact hcomma
  · exact hbracket
  · exact hbrace

/-! ## Parts of numerals -/

theorem splitWhole_append {ds rest : List Char} (h : IsDigits ds)
    (hleading : ds = ['0'] ∨ ds.head? ≠ some '0')
    (hrest : ∀ c ∈ rest.head?, isAsciiDigit c = false) : splitWhole (ds ++ rest) = (ds, rest) := by
  obtain ⟨hne, hdigits⟩ := h
  obtain ⟨d, ds, rfl⟩ := List.exists_cons_of_ne_nil hne
  rcases hleading with hzero | hleading
  · cases hzero
    rfl
  · have hd : d ≠ '0' := by simpa using hleading
    obtain ⟨htake, hdrop⟩ := takeWhile_append hdigits hrest
    rw [List.cons_append] at htake hdrop ⊢
    rw [splitWhole, if_neg (by simpa using hd), htake, hdrop]

/-- The digits of a fraction, unless there are none. -/
def fraction? (ds : List Char) : Option (List Char) := if ds.isEmpty then none else some ds

@[simp] theorem fraction?_getD (ds : List Char) : (fraction? ds).getD [] = ds := by
  cases ds <;> rfl

@[simp] theorem fraction?_isNone (ds : List Char) : (fraction? ds).isNone = ds.isEmpty := by
  cases ds <;> rfl

theorem splitFraction_point {ds rest : List Char} (h : ∀ c ∈ ds, isAsciiDigit c = true)
    (hdigit : ∀ c ∈ rest.head?, isAsciiDigit c = false) (hpoint : ∀ c ∈ rest.head?, c ≠ '.') :
    splitFraction (point ds ++ rest) = (fraction? ds, rest) := by
  cases ds with
  | nil =>
      rw [point, List.nil_append, splitFraction]
      · rfl
      · rintro d ds rfl
        exact hpoint '.' rfl rfl
  | cons d ds =>
      rw [List.forall_mem_cons] at h
      obtain ⟨htake, hdrop⟩ := takeWhile_append h.2 hdigit
      simp only [point, List.cons_append, splitFraction, h.1, htake, hdrop, if_true]
      rfl

/-- The power of ten of an exponent, if there is one. -/
def power? (e : Option (Bool × List Char)) : Option Int :=
  e.map fun x => Binary64.signed x.1 (digitsToNat x.2)

@[simp] theorem power?_getD (e : Option (Bool × List Char)) : (power? e).getD 0 = scale e := by
  cases e <;> rfl

@[simp] theorem power?_isNone (e : Option (Bool × List Char)) : (power? e).isNone = e.isNone := by
  cases e <;> rfl

theorem splitExponent_power {e : Option (Bool × List Char)} (h : ∀ x ∈ e, IsDigits x.2)
    {rest : List Char} (hdigit : ∀ c ∈ rest.head?, isAsciiDigit c = false)
    (hletter : ∀ c ∈ rest.head?, c ≠ 'e' ∧ c ≠ 'E') :
    splitExponent (power e ++ rest) = (power? e, rest) := by
  cases e with
  | none =>
      cases rest with
      | nil => rfl
      | cons c rest =>
          have hc := hletter c rfl
          simp [power, power?, splitExponent, hc]
  | some x =>
      obtain ⟨negative, ds⟩ := x
      obtain ⟨hne, hds⟩ := h _ rfl
      obtain ⟨htake, hdrop⟩ := takeWhile_append hds hdigit
      have hsplit : Numeral.splitSign ((if negative then '-' else '+') :: (ds ++ rest)) =
          (negative, ds ++ rest) := by
        cases negative <;> rfl
      have hempty : ds.isEmpty = false := by simpa using hne
      simp only [power, List.cons_append, splitExponent, hsplit, htake, hdrop, hempty]
      rfl

/-! ## Numerals -/

section Numeral

variable {t : Spelling} {rest : List Char}

/-- The reader of values takes a numeral apart into its parts, too. -/
theorem readNumber_text (h : t.Proper)
    (hleading : t.whole = ['0'] ∨ t.whole.head? ≠ some '0') (hrest : Ends rest) :
    readNumber (t.text ++ rest) =
      if t.fraction = [] ∧ t.exponent = none then
        if Numeral.maxDigits < t.whole.length then .error (.tooManyDigits t.whole.length)
        else .ok (.int (Binary64.signed t.negative (digitsToNat t.whole)), rest)
      else .ok (.float t.value, rest) := by
  have hdigit : ∀ c ∈ rest.head?, isAsciiDigit c = false := hrest.forall_head? rfl rfl rfl
  have hpower : ∀ c ∈ (power t.exponent ++ rest).head?, isAsciiDigit c = false ∧ c ≠ '.' :=
    forall_head?_power (by decide)
      (hrest.forall_head? (by decide) (by decide) (by decide)) t.exponent
  have hpoint : ∀ c ∈ (point t.fraction ++ (power t.exponent ++ rest)).head?,
      isAsciiDigit c = false :=
    forall_head?_point (by decide) (fun c hc => (hpower c hc).1) t.fraction
  have hwhole : splitWhole (t.body ++ rest) =
      (t.whole, point t.fraction ++ (power t.exponent ++ rest)) := by
    rw [body, List.append_assoc, List.append_assoc]
    exact splitWhole_append h.whole hleading hpoint
  have hfraction := splitFraction_point h.fraction (fun c hc => (hpower c hc).1)
    fun c hc => (hpower c hc).2
  have hexponent := splitExponent_power h.exponent hdigit
    (hrest.forall_head? (by decide) (by decide) (by decide))
  have hne : t.whole.isEmpty = false := by simpa using h.whole.1
  have htext : t.text ++ rest = sign t.negative ++ (t.body ++ rest) := List.append_assoc ..
  obtain ⟨c, cs, hc, hbody⟩ := h.body_eq_cons
  rw [htext]
  cases hn : t.negative with
  | true =>
      simp [readNumber, hwhole, hne, hfraction, hexponent, sign, value, hn]
  | false =>
      have hminus (ds : List Char) : t.body ++ rest ≠ '-' :: ds := by
        intro hds
        rw [hbody] at hds
        cases hds
        cases hc
      simp [readNumber, hwhole, hne, hfraction, hexponent, sign, value, hn]

theorem readNumber_of_floating (h : t.Proper) (hfloating : t.Floating) (hrest : Ends rest) :
    readNumber (t.text ++ rest) = .ok (.float t.value, rest) := by
  have hmarked : ¬(t.fraction = [] ∧ t.exponent = none) := fun hbare =>
    hfloating.marked.elim (· hbare.1) (· hbare.2)
  rw [readNumber_text h hfloating.leading hrest, if_neg hmarked]

/-- No word begins with a digit or with a sign before a digit. -/
theorem readPlain_text (h : t.Proper) (rest : List Char) :
    readPlain (t.text ++ rest) = readNumber (t.text ++ rest) := by
  obtain ⟨c, cs, hc, hbody⟩ := h.body_eq_cons
  have hne (d : Char) (hd : isAsciiDigit d = false) : d ≠ c := (ne_of_test hc hd).symm
  have hword : ∀ e ∈ wordValues, afterWord? e.1 (t.text ++ rest) = none := by
    rw [text, hbody]
    cases t.negative <;> simp [wordValues, afterWord?, sign, hne, isAsciiDigit]
  unfold readPlain
  split
  · rename_i hsome
    obtain ⟨e, he, hr⟩ := List.exists_of_findSome?_eq_some hsome
    simp [hword e he] at hr
  · rfl

end Numeral

/-! ## Integers -/

theorem readNumber_intDigits {n : Int} (h : n.natAbs < 10 ^ Numeral.maxDigits) {rest : List Char}
    (hrest : Ends rest) : readNumber (intDigits n ++ rest) = .ok (.int n, rest) := by
  have hlength : (natDigits n.natAbs).length ≤ Numeral.maxDigits :=
    (length_natDigits_le_iff (by decide)).2 h
  rw [← text_ofInt, readNumber_text (proper_ofInt n) (leading_ofInt n) hrest]
  simp [ofInt, Nat.not_lt.2 hlength, digitsToNat_natDigits, Binary64.signed_natAbs]

/-! ## Plain values -/

/-- The characters that plain values begin with. -/
def isPlainStart (c : Char) : Bool := isAsciiDigit c || c == '-' || c.isAlpha

/-- A text from which a plain value is read. -/
structure Spells (cs : List Char) (j : Json) : Prop where
  start : ∃ c ds, cs = c :: ds ∧ isPlainStart c = true
  reads : ∀ rest, Ends rest → readPlain (cs ++ rest) = .ok (j, rest)

/-- A word is read as what it stands for, because no word begins another one. -/
theorem spells_word : ∀ e ∈ wordValues, Spells e.1 e.2 := by
  have hstart : ∀ e ∈ wordValues, ∃ c ds, e.1 = c :: ds ∧ isPlainStart c = true := by
    simp [wordValues, isPlainStart]
  have hreads (rest : List Char) : ∀ e ∈ wordValues, readPlain (e.1 ++ rest) = .ok (e.2, rest) := by
    simp [wordValues, readPlain, afterWord?]
  exact fun e he => ⟨hstart e he, fun rest _ => hreads rest e he⟩

theorem exists_start {t : Spelling} (h : t.Proper) :
    ∃ c ds, t.text = c :: ds ∧ isPlainStart c = true := by
  obtain ⟨c, cs, hc, hbody⟩ := h.body_eq_cons
  rw [text, hbody]
  cases t.negative with
  | true => exact ⟨'-', c :: cs, rfl, rfl⟩
  | false => exact ⟨c, cs, rfl, by simp [isPlainStart, hc]⟩

theorem spells_int {n : Int} (h : n.natAbs < 10 ^ Numeral.maxDigits) :
    Spells (intDigits n) (.int n) where
  start := text_ofInt n ▸ exists_start (proper_ofInt n)
  reads rest hrest := by
    rw [← text_ofInt, readPlain_text (proper_ofInt n), text_ofInt, readNumber_intDigits h hrest]

theorem spells_text {t : Spelling} (h : t.Proper) (hfloating : t.Floating) :
    Spells t.text (.float t.value) where
  start := exists_start h
  reads rest hrest := by rw [readPlain_text h, readNumber_of_floating h hfloating hrest]

/-- An integer with a zero behind the point is read as the floating-point number nearest to it. -/
theorem spells_whole (n : Int) :
    Spells (intDigits n ++ ['.', '0']) (.float (Binary64.ofInt n)) := by
  rw [← text_ofWhole, ← value_ofWhole]
  exact spells_text (proper_ofWhole n) (floating_ofWhole n)

theorem spells_float {x : Binary64} (h : x.ReadsBack) : Spells (writeFloat x) (.float x) := by
  cases x with
  | nan => exact spells_word ("NaN".toList, .float .nan) (by simp [wordValues])
  | infinite negative =>
      cases negative with
      | false =>
          exact spells_word ("Infinity".toList, .float (.infinite false)) (by simp [wordValues])
      | true =>
          exact spells_word ("-Infinity".toList, .float (.infinite true)) (by simp [wordValues])
  | finite negative m e =>
      obtain ⟨t, hwrite, hproper, hfloating, hvalue⟩ := Binary64.exists_spelling h
      have hspells := spells_text hproper hfloating
      rwa [← hwrite, hvalue] at hspells

end Rollout.Json
