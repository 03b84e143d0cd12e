import Rollout.Number.Numeral
import Rollout.Number.Shortest
import Rollout.Proofs.Number.Digits

/-!
# Spelled numerals

A floating-point number is written as a sign, digits, perhaps a fraction and perhaps an exponent.
The reader of numerals takes such a text apart into these parts again, so that whether a number
reads back as itself is a question about the decimal that its parts stand for.
-/

namespace Rollout

open Text

/-- The parts of a written floating-point number. -/
structure Spelling where
  negative : Bool
  whole : List Char
  fraction : List Char
  exponent : Option (Bool × List Char)

namespace Spelling

/-- The sign in front of a numeral. -/
def sign (negative : Bool) : List Char := if negative then ['-'] else []

/-- The fraction of a numeral, with its point. -/
def point : List Char → List Char
  | [] => []
  | d :: ds => '.' :: d :: ds

/-- The exponent of a numeral, with its letter and sign. -/
def power : Option (Bool × List Char) → List Char
  | none => []
  | some (negative, ds) => 'e' :: (if negative then '-' else '+') :: ds

/-- The text of a numeral without its sign. -/
def body (t : Spelling) : List Char := t.whole ++ (point t.fraction ++ power t.exponent)

/-- The text of a numeral. -/
def text (t : Spelling) : List Char := sign t.negative ++ t.body

/-- The power of ten that an exponent stands for. -/
def scale : Option (Bool × List Char) → Int
  | none => 0
  | some (negative, ds) => Binary64.signed negative (digitsToNat ds)

/-- The number nearest to the decimal that the parts stand for. -/
def value (t : Spelling) : Binary64 :=
  .ofDecimal t.negative (digitsToNat (t.whole ++ t.fraction))
    (scale t.exponent - (t.fraction.length : Int))

/-- Digits and nothing else, at least one. -/
def IsDigits (ds : List Char) : Prop := ds ≠ [] ∧ ∀ c ∈ ds, isAsciiDigit c = true

theorem isDigits_natDigits (n : Nat) : IsDigits (natDigits n) :=
  ⟨natDigits_ne_nil n, fun _ => isAsciiDigit_of_mem_natDigits⟩

/-- The parts of a numeral are digits; only the fraction may be missing. -/
structure Proper (t : Spelling) : Prop where
  whole : IsDigits t.whole
  fraction : ∀ c ∈ t.fraction, isAsciiDigit c = true
  exponent : ∀ e ∈ t.exponent, IsDigits e.2

/-! ## Characters -/

/-- The characters that a numeral is made of. -/
def isSpelled (c : Char) : Bool :=
  isAsciiDigit c || c == '-' || c == '+' || c == '.' || c == 'e'

theorem isSpelled_of_isAsciiDigit {c : Char} (h : isAsciiDigit c = true) : isSpelled c = true := by
  simp [isSpelled, h]

theorem isSpelled_cases {c : Char} (h : isSpelled c = true) :
    (48 ≤ c.toNat ∧ c.toNat ≤ 57) ∨ c.toNat = 45 ∨ c.toNat = 43 ∨ c.toNat = 46 ∨ c.toNat = 101 := by
  simp only [isSpelled, isAsciiDigit, Bool.or_eq_true, Bool.and_eq_true, decide_eq_true_eq,
    beq_iff_eq] at h
  rcases h with (((h | rfl) | rfl) | rfl) | rfl
  · exact .inl h
  · exact .inr (.inl rfl)
  · exact .inr (.inr (.inl rfl))
  · exact .inr (.inr (.inr (.inl rfl)))
  · exact .inr (.inr (.inr (.inr rfl)))

theorem plain_of_isSpelled {c : Char} (h : isSpelled c = true) : Numeral.plain c = c := by
  have := isSpelled_cases h
  rw [Numeral.plain, if_pos (by omega)]

theorem isAsciiBlank_of_isSpelled {c : Char} (h : isSpelled c = true) :
    isAsciiBlank c = false := by
  have := isSpelled_cases h
  simp only [isAsciiBlank, Bool.or_eq_false_iff, Bool.and_eq_false_imp, decide_eq_true_eq,
    decide_eq_false_iff_not, beq_eq_false_iff_ne, ne_eq]
  omega

/-- Characters that a test tells apart are different. -/
theorem ne_of_test {p : Char → Bool} {c d : Char} (hc : p c = true) (hd : p d = false) : c ≠ d := by
  rintro rfl
  rw [hc] at hd
  cases hd

variable {t : Spelling}

theorem isSpelled_of_mem_point {ds : List Char} (h : ∀ c ∈ ds, isAsciiDigit c = true) :
    ∀ c ∈ point ds, isSpelled c = true := by
  cases ds with
  | nil => simp [point]
  | cons d ds =>
      exact List.forall_mem_cons.2 ⟨rfl, fun c hc => isSpelled_of_isAsciiDigit (h c hc)⟩

theorem isSpelled_of_mem_power {e : Option (Bool × List Char)}
    (h : ∀ x ∈ e, IsDigits x.2) : ∀ c ∈ power e, isSpelled c = true := by
  cases e with
  | none => simp [power]
  | some x =>
      have hds := (h x rfl).2
      refine List.forall_mem_cons.2 ⟨rfl, List.forall_mem_cons.2 ⟨?_, fun c hc => ?_⟩⟩
      · cases x.1 <;> rfl
      · exact isSpelled_of_isAsciiDigit (hds c hc)

theorem Proper.isSpelled_of_mem_body (h : t.Proper) : ∀ c ∈ t.body, isSpelled c = true := by
  intro c hc
  rw [body, List.mem_append, List.mem_append] at hc
  rcases hc with hc | hc | hc
  · exact isSpelled_of_isAsciiDigit (h.whole.2 c hc)
  · exact isSpelled_of_mem_point h.fraction c hc
  · exact isSpelled_of_mem_power h.exponent c hc

/-- A numeral without its sign begins with a digit. -/
theorem Proper.body_eq_cons (h : t.Proper) :
    ∃ c cs, isAsciiDigit c = true ∧ t.body = c :: cs := by
  obtain ⟨hne, hdigits⟩ := h.whole
  obtain ⟨c, ds, hw⟩ := List.exists_cons_of_ne_nil hne
  exact ⟨c, _, hdigits c (by simp [hw]), by rw [body, hw, List.cons_append]⟩

/-- What follows the fraction begins with the letter of the exponent or with what comes after the
numeral. -/
theorem forall_head?_power {p : Char → Prop} (hletter : p 'e') {rest : List Char}
    (hrest : ∀ c ∈ rest.head?, p c) (e : Option (Bool × List Char)) :
    ∀ c ∈ (power e ++ rest).head?, p c := by
  cases e with
  | none => exact hrest
  | some x => simpa [power] using hletter

/-- What follows the whole part begins with the point or with what comes after the fraction. -/
theorem forall_head?_point {p : Char → Prop} (hpoint : p '.') {rest : List Char}
    (hrest : ∀ c ∈ rest.head?, p c) (ds : List Char) : ∀ c ∈ (point ds ++ rest).head?, p c := by
  cases ds with
  | nil => exact hrest
  | cons d ds => simpa [point] using hpoint

theorem isSpelled_of_mem_sign (negative : Bool) : ∀ c ∈ sign negative, isSpelled c = true := by
  cases negative <;> simp [sign, isSpelled]

theorem Proper.isSpelled_of_mem_text (h : t.Proper) : ∀ c ∈ t.text, isSpelled c = true := by
  rw [text, List.forall_mem_append]
  exact ⟨isSpelled_of_mem_sign t.negative, h.isSpelled_of_mem_body⟩

/-! ## Reading -/

theorem takeWhile_append {p : Char → Bool} {ds rest : List Char} (h : ∀ c ∈ ds, p c = true)
    (hrest : ∀ c ∈ rest.head?, p c = false) :
    (ds ++ rest).takeWhile p = ds ∧ (ds ++ rest).dropWhile p = rest := by
  rw [List.takeWhile_append_of_pos h, List.dropWhile_append_of_pos h]
  cases rest with
  | nil => simp
  | cons c rest =>
      have hc : p c = false := hrest c rfl
      simp [hc]

theorem trimBoth_eq_self {p : Char → Bool} {s : List Char} (h : ∀ c ∈ s, p c = false) :
    trimBoth p s = s := by
  have hdrop {s : List Char} (h : ∀ c ∈ s, p c = false) : s.dropWhile p = s := by
    cases s with
    | nil => rfl
    | cons c s => exact List.dropWhile_cons_of_neg (by simp [h c])
  rw [trimBoth, hdrop h, hdrop (by simpa using h), List.reverse_reverse]

theorem trimmed_eq_self {s : List Char} (h : ∀ c ∈ s, isSpelled c = true) :
    Numeral.trimmed s = s := by
  have hplain : s.map Numeral.plain = s := by
    rw [List.map_congr_left fun c hc => plain_of_isSpelled (h c hc), List.map_id']
  rw [Numeral.trimmed, hplain, trimBoth_eq_self fun c hc => isAsciiBlank_of_isSpelled (h c hc)]

theorem dropSeparators_eq_self {s : List Char} (h : ∀ c ∈ s, c ≠ '_') (afterDigit : Bool) :
    Numeral.dropSeparators afterDigit s = some s := by
  induction s generalizing afterDigit with
  | nil => rfl
  | cons c s ih =>
      rw [List.forall_mem_cons] at h
      rw [Numeral.dropSeparators, if_neg (by simpa using h.1), ih h.2]
      rfl

theorem splitSign_of_digit {c : Char} (hc : isAsciiDigit c = true) (rest : List Char) :
    Numeral.splitSign (c :: rest) = (false, c :: rest) := by
  unfold Numeral.splitSign
  split
  · rename_i hcs
    rw [(List.cons.inj hcs).1] at hc
    cases hc
  · rename_i hcs
    rw [(List.cons.inj hcs).1] at hc
    cases hc
  · rfl

theorem splitSign_sign (negative : Bool) {c : Char} (hc : isAsciiDigit c = true)
    (rest : List Char) :
    Numeral.splitSign (sign negative ++ c :: rest) = (negative, c :: rest) := by
  cases negative with
  | true => rfl
  | false => exact splitSign_of_digit hc rest

/-- No word for a number begins with a digit. -/
theorem readWord_of_digit (negative : Bool) {c : Char} (hc : isAsciiDigit c = true)
    (rest : List Char) : Numeral.readWord negative (c :: rest) = none := by
  have hlower : Numeral.lowerPlain c = c := by
    have := isSpelled_cases (isSpelled_of_isAsciiDigit hc)
    simp only [isAsciiDigit, Bool.and_eq_true, decide_eq_true_eq] at hc
    rw [Numeral.lowerPlain, if_neg (by simp; omega)]
  have hword (word : String) {d : Char} {ds : List Char} (hw : word.toList = d :: ds)
      (hd : isAsciiDigit d = false) :
      (String.ofList ((c :: rest).map Numeral.lowerPlain) == word) = false := by
    rw [beq_eq_false_iff_ne]
    rintro rfl
    rw [String.toList_ofList, List.map_cons, hlower] at hw
    rw [(List.cons.inj hw).1, hd] at hc
    cases hc
  simp only [Numeral.readWord, hword "inf" rfl rfl, hword "infinity" rfl rfl, hword "nan" rfl rfl,
    Bool.or_self, Bool.false_eq_true, if_false]

theorem readExponent_power {e : Option (Bool × List Char)} (h : ∀ x ∈ e, IsDigits x.2) :
    Numeral.readExponent (power e) = some (scale e) := by
  cases e with
  | none => rfl
  | some x =>
      obtain ⟨negative, ds⟩ := x
      obtain ⟨hne, hds⟩ := h _ rfl
      have hsplit : Numeral.splitSign ((if negative then '-' else '+') :: ds) = (negative, ds) := by
        cases negative <;> rfl
      have hempty : (ds.isEmpty || !ds.all isAsciiDigit) = false := by
        simpa [hne] using hds
      simp [power, Numeral.readExponent, hsplit, hempty, scale]

theorem readDecimal_body (h : t.Proper) :
    Numeral.readDecimal t.body =
      some (digitsToNat (t.whole ++ t.fraction), scale t.exponent - (t.fraction.length : Int)) := by
  have hpower : ∀ c ∈ (power t.exponent).head?, isAsciiDigit c = false := by
    have hend := @forall_head?_power (isAsciiDigit · = false) rfl [] nofun t.exponent
    rwa [List.append_nil] at hend
  have hpoint : ∀ c ∈ (point t.fraction ++ power t.exponent).head?, isAsciiDigit c = false :=
    forall_head?_point (by decide) hpower t.fraction
  have hwhole := takeWhile_append h.whole.2 hpoint
  have hne : t.whole.isEmpty = false := by simpa using h.whole.1
  have hexponent := readExponent_power h.exponent
  simp only [Numeral.readDecimal, body, hwhole, hne, Bool.false_and, Bool.false_eq_true, if_false]
  cases hf : t.fraction with
  | nil =>
      cases he : t.exponent with
      | none => rfl
      | some e =>
          rw [he] at hexponent
          exact congrArg (Option.map fun x => (digitsToNat (t.whole ++ []), x - 0)) hexponent
  | cons d ds =>
      have hfraction := takeWhile_append (hf ▸ h.fraction) hpower
      rw [List.cons_append] at hfraction
      simp only [point, List.cons_append, hfraction, hexponent, Option.map_some]

/-- The reader takes a numeral apart into its parts. -/
theorem readFloat_text (h : t.Proper) : Numeral.readFloat t.text = some t.value := by
  have hbody := readDecimal_body h
  have hspelled : ∀ c ∈ t.body, isSpelled c = true := h.isSpelled_of_mem_body
  have htrimmed : Numeral.trimmed t.text = t.text := trimmed_eq_self h.isSpelled_of_mem_text
  have hdrop : Numeral.dropSeparators false t.body = some t.body :=
    dropSeparators_eq_self (fun c hc => ne_of_test (hspelled c hc) rfl) false
  obtain ⟨c, rest, hc, hcons⟩ := h.body_eq_cons
  have hword : Numeral.readWord t.negative t.body = none := by
    rw [hcons, readWord_of_digit _ hc]
  have hsign : Numeral.splitSign t.text = (t.negative, t.body) := by
    rw [text, hcons, splitSign_sign _ hc]
  simp only [Numeral.readFloat, htrimmed, hsign, hword, hdrop, hbody, Option.bind_some,
    Option.map_some, value]

/-! ## Writing -/

/-- The parts of a numeral make it one with a fraction or an exponent, and without a zero in front
of other digits. -/
structure Floating (t : Spelling) : Prop where
  leading : t.whole = ['0'] ∨ t.whole.head? ≠ some '0'
  marked : t.fraction ≠ [] ∨ t.exponent ≠ none

/-- A numeral into which digits are laid out around a decimal point. -/
structure Lays (ds : List Char) (point : Int) (t : Spelling) : Prop where
  body : Binary64.layout ds point = t.body
  proper : t.Proper
  leading : t.whole = ['0'] ∨ t.whole.head? = ds.head?
  marked : t.fraction ≠ [] ∨ t.exponent ≠ none
  digits : ∀ c ∈ t.whole ++ t.fraction, c = '0' ∨ c ∈ ds

theorem isAsciiDigit_of_mem_replicate {n : Nat} :
    ∀ c ∈ List.replicate n '0', isAsciiDigit c = true := by
  intro c hc
  rw [List.eq_of_mem_replicate hc]
  rfl

/-- A written exponent has a sign and at least two digits. -/
theorem exists_power (x : Int) :
    ∃ ds, IsDigits ds ∧ 'e' :: Binary64.writeExponent x = power (some (decide (x < 0), ds)) := by
  have hdigits := isDigits_natDigits x.natAbs
  refine ⟨if (natDigits x.natAbs).length < 2 then '0' :: natDigits x.natAbs
    else natDigits x.natAbs, ?_, ?_⟩
  · split
    · exact ⟨by simp, List.forall_mem_cons.2 ⟨rfl, hdigits.2⟩⟩
    · exact hdigits
  · simp only [Binary64.writeExponent, power, decide_eq_true_eq]

section Layout

variable (negative : Bool) {ds : List Char} {point : Int}

/-- A small number begins with a zero and has zeros in front of its digits. -/
theorem lays_small (h : IsDigits ds) (hlow : -4 < point) (hhigh : point ≤ 0) :
    Lays ds point ⟨negative, ['0'], List.replicate (-point).toNat '0' ++ ds, none⟩ where
  body := by
    obtain ⟨d, rest, hfraction⟩ : ∃ d rest, List.replicate (-point).toNat '0' ++ ds = d :: rest :=
      List.exists_cons_of_ne_nil (by simp [h.1])
    have hpositional : (-4 < point && point ≤ 16) = true := by simp; omega
    simp [Binary64.layout, hpositional, hhigh, body, hfraction, Spelling.point, power]
  proper :=
    { whole := ⟨by simp, by simp [isAsciiDigit]⟩
      fraction := fun c hc => (List.mem_append.1 hc).elim (isAsciiDigit_of_mem_replicate c) (h.2 c)
      exponent := nofun }
  leading := .inl rfl
  marked := .inl (by simp [h.1])
  digits := by
    intro c hc
    rw [List.mem_append, List.mem_append] at hc
    rcases hc with hc | hc | hc
    · exact .inl (List.mem_singleton.1 hc)
    · exact .inl (List.eq_of_mem_replicate hc)
    · exact .inr hc

/-- A number without a fraction is filled up with zeros. -/
theorem lays_whole (h : IsDigits ds) (hlow : 0 < point) (hhigh : point ≤ 16)
    (hlength : ds.length ≤ point.toNat) :
    Lays ds point
      ⟨negative, ds ++ List.replicate (point.toNat - ds.length) '0', ['0'], none⟩ where
  body := by
    have hpositional : (-4 < point && point ≤ 16) = true := by simp; omega
    simp [Binary64.layout, hpositional, hlength, Int.not_le.2 hlow, body, Spelling.point, power]
  proper :=
    { whole := ⟨by simp [h.1], fun c hc =>
        (List.mem_append.1 hc).elim (h.2 c) (isAsciiDigit_of_mem_replicate c)⟩
      fraction := by simp [isAsciiDigit]
      exponent := nofun }
  leading := .inr (by
    obtain ⟨d, rest, rfl⟩ := List.exists_cons_of_ne_nil h.1
    rfl)
  marked := .inl (by simp)
  digits := by
    intro c hc
    rw [List.mem_append, List.mem_append] at hc
    rcases hc with (hc | hc) | hc
    · exact .inr hc
    · exact .inl (List.eq_of_mem_replicate hc)
    · exact .inl (List.mem_singleton.1 hc)

/-- The point stands between the digits. -/
theorem lays_between (h : IsDigits ds) (hlow : 0 < point) (hhigh : point ≤ 16)
    (hlength : point.toNat < ds.length) :
    Lays ds point ⟨negative, ds.take point.toNat, ds.drop point.toNat, none⟩ where
  body := by
    obtain ⟨d, rest, hfraction⟩ : ∃ d rest, ds.drop point.toNat = d :: rest :=
      List.exists_cons_of_ne_nil (by simpa using hlength)
    have hpositional : (-4 < point && point ≤ 16) = true := by simp; omega
    simp [Binary64.layout, hpositional, Nat.not_le.2 hlength, Int.not_le.2 hlow, body, hfraction,
      Spelling.point, power]
  proper :=
    { whole := ⟨by simp [h.1]; omega, fun c hc => h.2 c (List.mem_of_mem_take hc)⟩
      fraction := fun c hc => h.2 c (List.mem_of_mem_drop hc)
      exponent := nofun }
  leading := .inr (by rw [List.head?_take, if_neg (by omega)])
  marked := .inl (by simpa using hlength)
  digits := by
    intro c hc
    rw [List.take_append_drop] at hc
    exact .inr hc

/-- Beyond the positional range, the point stands after the first digit. -/
theorem lays_scientific {d : Char} {rest es : List Char} (h : IsDigits (d :: rest))
    (hpoint : (-4 < point && point ≤ 16) = false) (hes : IsDigits es)
    (hpower : 'e' :: Binary64.writeExponent (point - 1) =
      power (some (decide (point - 1 < 0), es))) :
    Lays (d :: rest) point ⟨negative, [d], rest, some (decide (point - 1 < 0), es)⟩ where
  body := by
    cases rest with
    | nil => simp [Binary64.layout, hpoint, body, Spelling.point, hpower]
    | cons r rest => simp [Binary64.layout, hpoint, body, Spelling.point, hpower]
  proper :=
    { whole := ⟨by simp, by simpa using h.2 d (by simp)⟩
      fraction := fun c hc => h.2 c (by simp [hc])
      exponent := fun e he => Option.some.inj he ▸ hes }
  leading := .inr rfl
  marked := .inr (by simp)
  digits := fun c hc => .inr hc

/-- Digits are laid out in one of four ways. -/
theorem exists_lays (h : IsDigits ds) (point : Int) :
    ∃ t : Spelling, t.negative = negative ∧ t.Lays ds point := by
  by_cases hpositional : (-4 < point && point ≤ 16) = true
  · rw [Bool.and_eq_true, decide_eq_true_eq, decide_eq_true_eq] at hpositional
    by_cases hsmall : point ≤ 0
    · exact ⟨_, rfl, lays_small negative h hpositional.1 hsmall⟩
    · by_cases hlength : ds.length ≤ point.toNat
      · exact ⟨_, rfl, lays_whole negative h (by omega) hpositional.2 hlength⟩
      · exact ⟨_, rfl, lays_between negative h (by omega) hpositional.2 (by omega)⟩
  · obtain ⟨d, rest, rfl⟩ := List.exists_cons_of_ne_nil h.1
    obtain ⟨es, hes, hpower⟩ := exists_power (point - 1)
    exact ⟨_, rfl, lays_scientific negative h (by simpa using hpositional) hes hpower⟩

end Layout

/-- The numeral of an integer. -/
def ofInt (n : Int) : Spelling := ⟨decide (n < 0), natDigits n.natAbs, [], none⟩

theorem text_ofInt (n : Int) : (ofInt n).text = intDigits n := by
  cases n <;> simp [ofInt, text, sign, body, Spelling.point, power, intDigits]

theorem proper_ofInt (n : Int) : (ofInt n).Proper where
  whole := isDigits_natDigits _
  fraction := by simp [ofInt]
  exponent := nofun

theorem isSpelled_of_mem_intDigits (n : Int) : ∀ c ∈ intDigits n, isSpelled c = true := by
  rw [← text_ofInt]
  exact (proper_ofInt n).isSpelled_of_mem_text

theorem leading_ofInt (n : Int) :
    (ofInt n).whole = ['0'] ∨ (ofInt n).whole.head? ≠ some '0' := by
  by_cases hn : n.natAbs = 0
  · exact .inl (by rw [ofInt, hn, natDigits_zero])
  · obtain ⟨c, ds, hds, hc⟩ := natDigits_eq_cons hn
    exact .inr (by simpa [ofInt, hds] using hc)

/-- The numeral of an integer with a zero behind the point. -/
def ofWhole (n : Int) : Spelling := ⟨decide (n < 0), natDigits n.natAbs, ['0'], none⟩

theorem text_ofWhole (n : Int) : (ofWhole n).text = intDigits n ++ ['.', '0'] := by
  rw [← text_ofInt]
  simp [ofWhole, ofInt, text, body, Spelling.point, power]

theorem proper_ofWhole (n : Int) : (ofWhole n).Proper where
  whole := isDigits_natDigits _
  fraction := by simp [ofWhole, isAsciiDigit]
  exponent := nofun

theorem floating_ofWhole (n : Int) : (ofWhole n).Floating where
  leading := leading_ofInt n
  marked := .inl (by simp [ofWhole])

end Spelling

namespace Binary64

/-- A number is read from its written form as itself. -/
def ReadsBack (x : Binary64) : Prop := Numeral.readFloat x.write = some x

open Spelling

theorem write_finite (negative : Bool) (m : Nat) (e : Int) :
    (finite negative m e).write = sign negative ++ writeMagnitude m e := by
  cases negative <;> rfl

/-- The numeral of a finite number that reads back as itself. -/
theorem exists_spelling {negative : Bool} {m : Nat} {e : Int}
    (h : (finite negative m e).ReadsBack) :
    ∃ t : Spelling, (finite negative m e).write = t.text ∧ t.Proper ∧ t.Floating ∧
      t.value = finite negative m e := by
  have hvalue {t : Spelling} (hwrite : (finite negative m e).write = t.text) (ht : t.Proper) :
      t.value = finite negative m e := by
    rw [ReadsBack, hwrite, readFloat_text ht] at h
    exact Option.some.inj h
  by_cases hm : m = 0
  · let t : Spelling := ⟨negative, ['0'], ['0'], none⟩
    have hwrite : (finite negative m e).write = t.text := by
      rw [write_finite, writeMagnitude, if_pos hm]
      rfl
    have ht : t.Proper :=
      ⟨⟨by simp [t], by simp [t, isAsciiDigit]⟩, by simp [t, isAsciiDigit], nofun⟩
    exact ⟨t, hwrite, ht, ⟨.inl rfl, .inl (by simp [t])⟩, hvalue hwrite ht⟩
  · rcases hshortest : shortest m e with ⟨d, x⟩
    obtain ⟨t, rfl, hlays⟩ :=
      exists_lays negative (isDigits_natDigits d) (x + ((natDigits d).length : Int))
    have hwrite : (finite t.negative m e).write = t.text := by
      rw [write_finite, writeMagnitude, if_neg hm, hshortest, text, ← hlays.body]
    refine ⟨t, hwrite, hlays.proper, ⟨hlays.leading.imp_right fun hhead => ?_, hlays.marked⟩,
      hvalue hwrite hlays.proper⟩
    by_cases hd : d = 0
    · subst hd
      have hzero : t.value = zero t.negative := by
        have hzeros : digitsToNat (t.whole ++ t.fraction) = 0 :=
          digitsToNat_of_zeros fun c hc => (hlays.digits c hc).elim id (by simp [natDigits_zero])
        rw [value, hzeros, ofDecimal, if_pos rfl]
      have hnot := (hvalue hwrite hlays.proper).symm.trans hzero
      simp only [zero, finite.injEq] at hnot
      exact absurd hnot.2.1 hm
    · obtain ⟨c, ds, hds, hc⟩ := natDigits_eq_cons hd
      rw [hhead, hds]
      simpa using hc

end Binary64

end Rollout
