import Rollout.Proofs.Number.Conversion
import Rollout.Proofs.Text.Trim

/-!
# Integers as text

The text of an integer is a sign, which may be missing, and digits of any script, between which
single underscores may stand; blanks may surround it. Read as an integer, it gives the integer,
unless it has too many digits. Read as a floating-point number, it gives the number nearest to the
integer, however many digits it has, so it makes no difference whether an integer is given as a
value or as a text.
-/

namespace Rollout.Numeral

open Text

/-! ## Blanks -/

/-- The blanks that may surround a numeral. -/
def isBlank (c : Char) : Bool := isAsciiBlank (plain c)

/-- Spaces, tabs, the ends of lines and pages and wide spaces are among them. -/
example : [' ', '\t', '\n', '\r', '\x0b', '\x0c', '\u2003'].all isBlank = true := by decide

theorem trimmed_of_surrounds {s t : List Char} (h : Surrounds isBlank s t) :
    trimmed t = trimmed s := by
  obtain ⟨before, after, hbefore, hafter, rfl⟩ := h
  have hmap : Surrounds isAsciiBlank (s.map plain) ((before ++ s ++ after).map plain) := by
    refine ⟨before.map plain, after.map plain, ?_, ?_, ?_⟩
    · exact List.forall_mem_map.mpr hbefore
    · exact List.forall_mem_map.mpr hafter
    · rw [List.map_append, List.map_append]
  exact hmap.trimBoth_eq

/-- Blanks around a numeral do not change the number. -/
theorem readFloat_of_surrounds {s t : List Char} (h : Surrounds isBlank s t) :
    readFloat t = readFloat s := by
  simp only [readFloat, trimmed_of_surrounds h]

/-- A character is seen and has its plain form. -/
def IsSeen (c : Char) : Prop := 33 ≤ c.toNat ∧ c.toNat < 127

theorem map_plain_of_isSeen {s : List Char} (h : ∀ c ∈ s, IsSeen c) : s.map plain = s := by
  have hstays : ∀ c ∈ s, plain c = c := fun c hc => if_pos (h c hc).2
  rw [List.map_congr_left hstays, List.map_id']

theorem trimBoth_of_isSeen {s : List Char} (h : ∀ c ∈ s, IsSeen c) :
    trimBoth isAsciiBlank s = s := by
  apply Spelling.trimBoth_eq_self
  intro c hc
  have hseen : 33 ≤ c.toNat := (h c hc).1
  simp only [isAsciiBlank, Bool.or_eq_false_iff, Bool.and_eq_false_imp, decide_eq_true_eq,
    decide_eq_false_iff_not, beq_eq_false_iff_ne, ne_eq]
  omega

/-! ## Digits with underscores -/

/-- Rows of digits with underscores between them. -/
def grouped (groups : List (List Char)) : List Char := ['_'].intercalate groups

theorem grouped_cons_cons (ds es : List Char) (groups : List (List Char)) :
    grouped (ds :: es :: groups) = ds ++ '_' :: grouped (es :: groups) := by
  rw [grouped, List.intercalate_cons_cons, List.append_assoc, List.singleton_append, grouped]

variable {groups : List (List Char)}

theorem grouped_eq_cons (hne : groups ≠ []) (h : ∀ ds ∈ groups, Spelling.IsDigits ds) :
    ∃ c rest, isAsciiDigit c = true ∧ grouped groups = c :: rest := by
  obtain ⟨ds, groups, rfl⟩ := List.exists_cons_of_ne_nil hne
  obtain ⟨hds, hdigits⟩ := h ds List.mem_cons_self
  obtain ⟨c, ds, rfl⟩ := List.exists_cons_of_ne_nil hds
  have hc : isAsciiDigit c = true := hdigits c List.mem_cons_self
  cases groups with
  | nil => exact ⟨c, ds, hc, List.intercalate_singleton⟩
  | cons es groups => exact ⟨c, _, hc, grouped_cons_cons (c :: ds) es groups⟩

/-- A row of digits is passed over, and the character after it comes after a digit. -/
theorem dropSeparators_digits {ds : List Char} (h : Spelling.IsDigits ds) (afterDigit : Bool)
    (rest : List Char) :
    dropSeparators afterDigit (ds ++ rest) = (dropSeparators true rest).map (ds ++ ·) := by
  obtain ⟨hne, hdigits⟩ := h
  induction ds generalizing afterDigit with
  | nil => exact absurd rfl hne
  | cons c ds ih =>
      rw [List.forall_mem_cons] at hdigits
      have hc : c ≠ '_' := Spelling.ne_of_test hdigits.1 (by decide)
      rw [List.cons_append, dropSeparators, if_neg (by simpa using hc), hdigits.1]
      by_cases hds : ds = []
      · rw [hds]
        rfl
      · rw [ih true hds hdigits.2, Option.map_map]
        rfl

/-- Without the underscores, one row of digits is left. -/
theorem dropSeparators_grouped (hne : groups ≠ []) (h : ∀ ds ∈ groups, Spelling.IsDigits ds)
    (afterDigit : Bool) : dropSeparators afterDigit (grouped groups) = some groups.flatten := by
  induction groups generalizing afterDigit with
  | nil => exact absurd rfl hne
  | cons ds groups ih =>
      have hds : Spelling.IsDigits ds := h ds List.mem_cons_self
      cases groups with
      | nil =>
          have hdrop := dropSeparators_digits hds afterDigit []
          rw [List.append_nil] at hdrop
          rw [grouped, List.intercalate_singleton, hdrop, dropSeparators, Option.map_some,
            List.append_nil, List.flatten_cons, List.flatten_nil, List.append_nil]
      | cons es groups =>
          have hrest : ∀ ds ∈ es :: groups, Spelling.IsDigits ds :=
            fun ds hmem => h ds (List.mem_cons_of_mem _ hmem)
          have hdrop := ih (List.cons_ne_nil es groups) hrest false
          obtain ⟨c, rest, hc, hcons⟩ := grouped_eq_cons (List.cons_ne_nil es groups) hrest
          have hstarts : startsWithDigit (grouped (es :: groups)) = true := by
            rw [hcons]
            exact hc
          have hunderscore : dropSeparators true ('_' :: grouped (es :: groups)) =
              some (es :: groups).flatten := by
            rw [dropSeparators, if_pos (beq_self_eq_true '_'), hstarts, Bool.and_self, if_pos rfl,
              hdrop]
          rw [grouped_cons_cons, dropSeparators_digits hds, hunderscore, Option.map_some]
          rfl

theorem isDigits_flatten (hne : groups ≠ []) (h : ∀ ds ∈ groups, Spelling.IsDigits ds) :
    Spelling.IsDigits groups.flatten := by
  obtain ⟨ds, groups, rfl⟩ := List.exists_cons_of_ne_nil hne
  constructor
  · have hds := (h ds List.mem_cons_self).1
    rw [List.flatten_cons]
    exact List.append_ne_nil_of_left_ne_nil hds _
  · intro c hc
    obtain ⟨es, hes, hmem⟩ := List.mem_flatten.mp hc
    exact (h es hes).2 c hmem

/-! ## Texts of integers -/

/-- The signs in front of digits. -/
inductive IsSign : List Char → Bool → Prop
  | missing : IsSign [] false
  | plus : IsSign ['+'] false
  | minus : IsSign ['-'] true

/-- Plain characters spell an integer: a sign, and digits in one group or more. -/
def SpellsInteger (body : List Char) (n : Int) : Prop :=
  ∃ sign negative groups, IsSign sign negative ∧ groups ≠ [] ∧
    (∀ ds ∈ groups, Spelling.IsDigits ds) ∧ body = sign ++ grouped groups ∧
    n = Binary64.signed negative (digitsToNat groups.flatten)

/-- A text of an integer: digits of any script, maybe with a sign, and blanks around them. -/
def IsIntegerText (text : List Char) (n : Int) : Prop :=
  ∃ body, SpellsInteger body n ∧ Surrounds isAsciiBlank body (text.map plain)

theorem spellsInteger_intDigits (n : Int) : SpellsInteger (intDigits n) n := by
  have hgrouped (m : Nat) : grouped [natDigits m] = natDigits m := List.intercalate_singleton
  have hdigits (m : Nat) : ∀ ds ∈ [natDigits m], Spelling.IsDigits ds := by
    intro ds hds
    rw [List.mem_singleton.mp hds]
    exact Spelling.isDigits_natDigits m
  have hvalue (m : Nat) : digitsToNat [natDigits m].flatten = m := by
    rw [List.flatten_cons, List.flatten_nil, List.append_nil, digitsToNat_natDigits]
  cases n with
  | ofNat m =>
      refine ⟨[], false, [natDigits m], .missing, List.cons_ne_nil _ _, hdigits m, ?_, ?_⟩
      · rw [hgrouped]
        rfl
      · rw [hvalue]
        rfl
  | negSucc m =>
      refine ⟨['-'], true, [natDigits (m + 1)], .minus, List.cons_ne_nil _ _, hdigits _, ?_, ?_⟩
      · rw [hgrouped]
        rfl
      · rw [hvalue]
        rfl

theorem isSeen_of_mem_grouped (h : ∀ ds ∈ groups, Spelling.IsDigits ds) :
    ∀ c ∈ grouped groups, IsSeen c := by
  have hdigit {c : Char} (hc : isAsciiDigit c = true) : IsSeen c := by
    simp only [isAsciiDigit, Bool.and_eq_true, decide_eq_true_eq] at hc
    constructor <;> omega
  induction groups with
  | nil => exact List.forall_mem_nil _
  | cons ds groups ih =>
      have hds := (h ds List.mem_cons_self).2
      cases groups with
      | nil =>
          rw [grouped, List.intercalate_singleton]
          exact fun c hc => hdigit (hds c hc)
      | cons es groups =>
          rw [grouped_cons_cons, List.forall_mem_append, List.forall_mem_cons]
          refine ⟨fun c hc => hdigit (hds c hc), ⟨by decide, by decide⟩, ?_⟩
          exact ih fun ds hmem => h ds (List.mem_cons_of_mem _ hmem)

theorem IsSign.isSeen {sign : List Char} {negative : Bool} (h : IsSign sign negative) :
    ∀ c ∈ sign, IsSeen c := by
  cases h <;> simp [IsSeen]

theorem SpellsInteger.isSeen {body : List Char} {n : Int} (h : SpellsInteger body n) :
    ∀ c ∈ body, IsSeen c := by
  obtain ⟨sign, negative, groups, hsign, _, hgroups, rfl, _⟩ := h
  exact List.forall_mem_append.mpr ⟨hsign.isSeen, isSeen_of_mem_grouped hgroups⟩

/-- The decimal numeral of an integer is a text of it. -/
theorem isIntegerText_intDigits (n : Int) : IsIntegerText (intDigits n) n := by
  have hspells := spellsInteger_intDigits n
  refine ⟨intDigits n, hspells, ?_⟩
  rw [map_plain_of_isSeen hspells.isSeen]
  exact .refl _ _

theorem IsSign.splitSign_append {sign : List Char} {negative : Bool} (h : IsSign sign negative)
    {c : Char} (hc : isAsciiDigit c = true) (rest : List Char) :
    splitSign (sign ++ c :: rest) = (negative, c :: rest) := by
  cases h with
  | missing => exact Spelling.splitSign_of_digit hc rest
  | plus => rfl
  | minus => rfl

/-! ## Reading -/

theorem readDecimal_digits {ds : List Char} (h : Spelling.IsDigits ds) :
    readDecimal ds = some (digitsToNat ds, 0) := by
  have hproper : (Spelling.mk false ds [] none).Proper :=
    ⟨h, List.forall_mem_nil _, nofun⟩
  have hread := Spelling.readDecimal_body hproper
  simpa [Spelling.body, Spelling.point, Spelling.power, Spelling.scale] using hread

theorem ofDecimal_zero (negative : Bool) (n : Nat) :
    Binary64.ofDecimal negative n 0 = Binary64.ofFraction negative n 1 := by
  by_cases hn : n = 0
  · rw [Binary64.ofDecimal, if_pos hn, Binary64.ofFraction, if_pos hn]
  · have hnear : ¬ ((0 : Int) + (n.log2 : Int) < -1500) := by omega
    have hpower : n * Nat.pow 10 (0 : Int).toNat = n := Nat.mul_one n
    rw [Binary64.ofDecimal, if_neg hn, if_neg (by decide), if_neg hnear, if_pos (by decide), hpower]

/-- Both readers find a sign and digits in a text, and nothing else. -/
structure HasDigits (text : List Char) (negative : Bool) (ds : List Char) : Prop where
  sign : (splitSign (trimmed text)).1 = negative
  digits : dropSeparators false (splitSign (trimmed text)).2 = some ds
  proper : Spelling.IsDigits ds

section HasDigits

variable {text ds : List Char} {negative : Bool} {n : Int}

/-- Digits are read as an integer unless there are too many. -/
theorem readInt_of_hasDigits (h : HasDigits text negative ds) :
    readInt text =
      if maxDigits < ds.length then .error (.tooLong ds.length)
      else .ok (Binary64.signed negative (digitsToNat ds)) := by
  have hproper : (ds.isEmpty || !ds.all isAsciiDigit) = false := by
    simpa [Spelling.IsDigits] using h.proper
  simp only [readInt, h.sign, h.digits, hproper, Bool.false_eq_true, if_false]

/-- An integer is read from a sign and digits that are not too many. -/
theorem readInt_eq_ok_iff :
    readInt text = .ok n ↔ ∃ negative ds, HasDigits text negative ds ∧
      ds.length ≤ maxDigits ∧ n = Binary64.signed negative (digitsToNat ds) := by
  constructor
  · intro h
    unfold readInt at h
    dsimp only at h
    split at h
    · cases h
    rename_i ds hdigits
    split at h
    · cases h
    rename_i hproper
    split at h
    · cases h
    rename_i hlength
    refine ⟨_, ds, ⟨rfl, hdigits, ?_⟩, Nat.not_lt.mp hlength, (Except.ok.inj h).symm⟩
    simpa [Spelling.IsDigits] using hproper
  · rintro ⟨negative, ds, h, hlength, rfl⟩
    rw [readInt_of_hasDigits h, if_neg (Nat.not_lt.mpr hlength)]

/-- What comes after the sign begins with a digit, because underscores stand between digits. -/
theorem HasDigits.body_eq_cons (h : HasDigits text negative ds) :
    ∃ c rest, isAsciiDigit c = true ∧ (splitSign (trimmed text)).2 = c :: rest := by
  obtain ⟨hne, hall⟩ := h.proper
  have hdigits := h.digits
  cases hbody : (splitSign (trimmed text)).2 with
  | nil =>
      rw [hbody] at hdigits
      exact absurd (Option.some.inj hdigits).symm hne
  | cons c rest =>
      rw [hbody, dropSeparators] at hdigits
      split at hdigits
      · cases hdigits
      · obtain ⟨es, _, rfl⟩ := Option.map_eq_some_iff.mp hdigits
        exact ⟨c, rest, hall c List.mem_cons_self, rfl⟩

/-- Digits are read as the floating-point number nearest to the integer, however many there are. -/
theorem readFloat_of_hasDigits (h : HasDigits text negative ds) :
    readFloat text = some (Binary64.ofFraction negative (digitsToNat ds) 1) := by
  obtain ⟨c, rest, hc, hbody⟩ := h.body_eq_cons
  have hword : readWord negative (splitSign (trimmed text)).2 = none := by
    rw [hbody, Spelling.readWord_of_digit negative hc]
  simp only [readFloat, h.sign, hword, h.digits, readDecimal_digits h.proper, Option.bind_some,
    Option.map_some, ofDecimal_zero]

end HasDigits

theorem isDigit_of_plain {c : Char} (h : isAsciiDigit (plain c) = true) : isDigit c = true := by
  unfold plain at h
  split at h
  · simp only [isAsciiDigit, Bool.and_eq_true, decide_eq_true_eq] at h
    rw [isDigit, digitValue?, Option.isSome_map, List.find?_isSome]
    refine ⟨48, by decide, ?_⟩
    simp only [Bool.and_eq_true, decide_eq_true_eq]
    omega
  split at h
  · cases h
  split at h
  · rename_i d hd
    rw [isDigit, hd]
    rfl
  · cases h

theorem flatten_sublist_grouped (groups : List (List Char)) :
    groups.flatten.Sublist (grouped groups) := by
  induction groups with
  | nil => exact List.nil_sublist _
  | cons ds groups ih =>
      cases groups with
      | nil => simp [grouped]
      | cons es groups =>
          rw [grouped_cons_cons, List.flatten_cons]
          exact (List.Sublist.refl ds).append (ih.cons '_')

/-- The readers find the digits of an integer in a text of it. -/
theorem IsIntegerText.exists_hasDigits {text : List Char} {n : Int} (h : IsIntegerText text n) :
    ∃ negative ds, HasDigits text negative ds ∧ ds.length ≤ text.countP isDigit ∧
      n = Binary64.signed negative (digitsToNat ds) := by
  obtain ⟨body, hspells, htext⟩ := h
  have htrimmed : trimmed text = body := by
    rw [trimmed, htext.trimBoth_eq, trimBoth_of_isSeen hspells.isSeen]
  obtain ⟨sign, negative, groups, hsign, hne, hgroups, rfl, rfl⟩ := hspells
  obtain ⟨c, rest, hc, hcons⟩ := grouped_eq_cons hne hgroups
  have hsplit : splitSign (trimmed text) = (negative, grouped groups) := by
    rw [htrimmed, hcons, hsign.splitSign_append hc]
  have hdigits := isDigits_flatten hne hgroups
  refine ⟨negative, groups.flatten, ⟨?_, ?_, hdigits⟩, ?_, rfl⟩
  · rw [hsplit]
  · rw [hsplit, dropSeparators_grouped hne hgroups]
  · have hsublist : groups.flatten.Sublist (text.map plain) := by
      calc
        groups.flatten.Sublist (grouped groups) := flatten_sublist_grouped groups
        List.Sublist _ (sign ++ grouped groups) := List.sublist_append_right _ _
        List.Sublist _ (text.map plain) := htext.isInfix.sublist
    calc
      groups.flatten.length = groups.flatten.countP isAsciiDigit :=
        (List.countP_eq_length.mpr hdigits.2).symm
      _ ≤ (text.map plain).countP isAsciiDigit := hsublist.countP_le
      _ = text.countP (isAsciiDigit ∘ plain) := List.countP_map
      _ ≤ text.countP isDigit := List.countP_mono_left fun c _ hc => isDigit_of_plain hc

/-- A text of an integer is read as the integer unless it has too many digits. -/
theorem readInt_of_isIntegerText {text : List Char} {n : Int} (h : IsIntegerText text n)
    (hlength : text.countP isDigit ≤ maxDigits) : readInt text = .ok n := by
  obtain ⟨negative, ds, hdigits, hcount, hn⟩ := h.exists_hasDigits
  exact readInt_eq_ok_iff.mpr ⟨negative, ds, hdigits, Nat.le_trans hcount hlength, hn⟩

/-- A text of an integer is read as the number nearest to the integer. -/
theorem readFloat_of_isIntegerText {text : List Char} {n : Int} (h : IsIntegerText text n) :
    ∃ x, readFloat text = some x ∧ x.place? = some (Binary64.roundedPlace n) := by
  obtain ⟨negative, ds, hdigits, _, rfl⟩ := h.exists_hasDigits
  exact ⟨_, readFloat_of_hasDigits hdigits, Binary64.place?_ofFraction_signed negative _⟩

/-! ## Decimal numerals -/

theorem hasDigits_intDigits (n : Int) :
    HasDigits (intDigits n) (decide (n < 0)) (natDigits n.natAbs) := by
  have hdigits := Spelling.isDigits_natDigits n.natAbs
  obtain ⟨c, rest, hcons⟩ := List.exists_cons_of_ne_nil hdigits.1
  have hc : isAsciiDigit c = true := hdigits.2 c (by rw [hcons]; exact List.mem_cons_self)
  have hbody : intDigits n = Spelling.sign (decide (n < 0)) ++ natDigits n.natAbs := by
    rw [← Spelling.text_ofInt, Spelling.text]
    simp [Spelling.ofInt, Spelling.body, Spelling.point, Spelling.power]
  have hsplit : splitSign (trimmed (intDigits n)) = (decide (n < 0), natDigits n.natAbs) := by
    rw [Spelling.trimmed_eq_self (Spelling.isSpelled_of_mem_intDigits n), hbody, hcons,
      Spelling.splitSign_sign _ hc]
  refine ⟨?_, ?_, hdigits⟩
  · rw [hsplit]
  · rw [hsplit]
    exact Spelling.dropSeparators_eq_self
      (fun d hd => Spelling.ne_of_test (hdigits.2 d hd) (by decide)) false

/-- An integer that is not too long is read from its numeral. -/
theorem readInt_intDigits {n : Int} (h : n.natAbs < 10 ^ maxDigits) :
    readInt (intDigits n) = .ok n := by
  refine readInt_eq_ok_iff.mpr ⟨_, _, hasDigits_intDigits n, ?_, ?_⟩
  · exact (length_natDigits_le_iff (by decide)).2 h
  · rw [digitsToNat_natDigits, Binary64.signed_natAbs]

/-- The numeral of an integer is read as the number nearest to the integer. -/
theorem readFloat_intDigits (n : Int) : readFloat (intDigits n) = some (Binary64.ofInt n) := by
  rw [readFloat_of_hasDigits (hasDigits_intDigits n), digitsToNat_natDigits, Binary64.ofInt]

end Rollout.Numeral
