import Rollout.Proofs.Signal.Relation
import Rollout.Proofs.Signal.Version

/-!
# What comparisons report

A comparison of numbers can only report that an integer is too large, and a comparison of versions
only that a segment has too many digits. It reports the first such segment of the signal, and of the
target when the signal has none, whether or not the other side is a version at all. Comparisons that
do not look for patterns report nothing else.

## Implementation notes

The faults are told apart by their cause, so the predicates here say more than those that only tell
whether a comparison ends in a fault.
-/

namespace Rollout.Signal

open Text

variable {e : Fault}

/-! ## Versions -/

namespace Version

/-- A text has the form of a version with the given segments: one to five rows of digits, however
long. -/
structure HasForm (text : List Char) (segments : List (List Char)) : Prop where
  text_eq : text = join segments
  ne_nil : segments ≠ []
  length_le : segments.length ≤ size
  each : ∀ segment ∈ segments, segment ≠ [] ∧ ∀ c ∈ segment, isAsciiDigit c = true

theorem pieces?_eq_some_iff_hasForm (text : List Char) (segments : List (List Char)) :
    pieces? text = some segments ↔ HasForm text segments := by
  simp only [pieces?_eq_some_iff, isPiece_iff]
  constructor
  · rintro ⟨htext, hne, hlength, heach⟩
    exact ⟨htext, hne, hlength, heach⟩
  · rintro ⟨htext, hne, hlength, heach⟩
    exact ⟨htext, hne, hlength, heach⟩

/-- The first segment with too many digits has so many of them. -/
def FirstLong (segments : List (List Char)) (digits : Nat) : Prop :=
  Until (fun segment => segment.length ≤ Numeral.maxDigits)
    (fun segment => Numeral.maxDigits < segment.length ∧ segment.length = digits) segments

/-- A text has the form of a version, and its first segment with too many digits has so many of
them. -/
def Overlong (text : List Char) (digits : Nat) : Prop :=
  ∃ segments, HasForm text segments ∧ FirstLong segments digits

theorem readPieces_eq_error_iff (pieces : List (List Char)) :
    readPieces pieces = .error e ↔ ∃ digits, FirstLong pieces digits ∧ e = .tooManyDigits digits := by
  induction pieces with
  | nil => simp [readPieces, FirstLong]
  | cons piece rest ih =>
      simp only [FirstLong, until_cons_iff] at ih ⊢
      by_cases hlong : Numeral.maxDigits < piece.length
      · have hnot : ¬ piece.length ≤ Numeral.maxDigits := Nat.not_le.mpr hlong
        simp [readPieces, readPiece, hlong, hnot, eq_comm]
      · have hpiece : readPiece piece = .ok (digitsToNat piece) := if_neg hlong
        have hshort : piece.length ≤ Numeral.maxDigits := Nat.not_lt.mp hlong
        simp only [hlong, hshort, false_and, true_and, false_or, ← ih]
        cases hr : readPieces rest <;> simp [readPieces, hpiece, hr]

theorem read_eq_error_iff (text : List Char) :
    read text = .error e ↔ ∃ digits, Overlong text digits ∧ e = .tooManyDigits digits := by
  simp only [Overlong, ← pieces?_eq_some_iff_hasForm]
  cases hp : pieces? text with
  | none => simp [read, hp]
  | some pieces =>
      simp only [Option.some.injEq, exists_eq_left', ← readPieces_eq_error_iff]
      cases hr : readPieces pieces <;> simp [read, hp, hr]

/-- What a comparison of two texts as versions reports: the signal is read first. -/
def Reports (actual target : List Char) (digits : Nat) : Prop :=
  Overlong actual digits ∨ (∀ n, ¬ Overlong actual n) ∧ Overlong target digits

end Version

theorem compareVersions_eq_error_iff (r : Relation) (actual : Json) (target : String) :
    compareVersions r actual (.str target) = .error e ↔
      ∃ digits, Version.Reports actual.display target.toList digits ∧ e = .tooManyDigits digits := by
  cases ha : Version.read actual.display with
  | error e' =>
      simp only [compareVersions, ha, Except.error.injEq]
      obtain ⟨digits, hdigits, rfl⟩ := (Version.read_eq_error_iff _).mp ha
      constructor
      · rintro rfl
        exact ⟨digits, .inl hdigits, rfl⟩
      · rintro ⟨digits', hfirst | ⟨hshort, _⟩, rfl⟩
        · have hread := (Version.read_eq_error_iff _).mpr ⟨digits', hfirst, rfl⟩
          rw [ha, Except.error.injEq] at hread
          exact hread
        · exact absurd hdigits (hshort digits)
  | ok a =>
      have hshort : ∀ digits, ¬ Version.Overlong actual.display digits := by
        intro digits hdigits
        have hread := (Version.read_eq_error_iff _).mpr ⟨digits, hdigits, rfl⟩
        rw [ha] at hread
        cases hread
      simp only [Version.Reports, hshort, not_false_eq_true, implies_true, true_and, false_or,
        ← Version.read_eq_error_iff, compareVersions, ha, Json.display_str]
      cases ht : Version.read target.toList with
      | error e' => simp
      | ok t => cases a <;> cases t <;> simp

/-! ## Operators and rules -/

/-- What the comparison of a present signal with targets reports. -/
inductive Operator.Reports (actual : Json) : Operator → List String → Fault → Prop
  | number {r : Relation} {target : String} {rest : List String} {n : Int}
      (integer : actual = .int n) (large : Binary64.leastOverflow ≤ n.natAbs) :
      Reports actual (.numeric r) (target :: rest) .integerTooLarge
  | version {r : Relation} {target : String} {rest : List String} {digits : Nat}
      (long : Version.Reports actual.display target.toList digits) :
      Reports actual (.version r) (target :: rest) (.tooManyDigits digits)

theorem Operator.test_eq_error_iff {op : Operator} (hop : op ≠ .text .matchesPattern)
    (actual : Json) (target : String) (rest : List String) :
    op.test actual ((target :: rest).map .str) = .error e ↔
      op.Reports actual (target :: rest) e := by
  cases op with
  | text t =>
      have hanswer : ∃ b, (Operator.text t).test actual ((target :: rest).map .str) = .ok b := by
        cases t with
        | matchesPattern => exact absurd rfl hop
        | _ => exact ⟨_, rfl⟩
      obtain ⟨b, hb⟩ := hanswer
      rw [hb]
      constructor
      · intro h
        cases h
      · intro h
        cases h
  | numeric r =>
      rw [List.map_cons, Operator.test, compareNumbers_eq_error_iff]
      constructor
      · rintro ⟨⟨n, hn, hlarge⟩, rfl⟩
        exact .number hn hlarge
      · intro h
        cases h with
        | number hn hlarge => exact ⟨⟨_, hn, hlarge⟩, rfl⟩
  | version r =>
      rw [List.map_cons, Operator.test, compareVersions_eq_error_iff]
      constructor
      · rintro ⟨digits, hlong, rfl⟩
        exact .version hlong
      · intro h
        cases h with
        | version hlong => exact ⟨_, hlong, rfl⟩
  | unknown =>
      constructor
      · intro h
        cases h
      · intro h
        cases h

namespace Rule

variable {rule : Rule} {c : Context}

/-- What a comparison reports: its operator and its key are there, so is the signal, and comparing
it with the targets reports the fault. -/
def Reports (rule : Rule) (c : Context) (e : Fault) : Prop :=
  ∃ op key, rule.operator = some op ∧ rule.key = some key ∧ key ≠ "" ∧ c.get key ≠ .null ∧
    op.Reports (c.get key) rule.targets e

/-- A rule that lacks nothing compares the signal with the targets. -/
theorem exists_of_not_lacks (h : ¬ rule.Lacks c) :
    ∃ key target rest, rule.key = some key ∧ key ≠ "" ∧ c.get key ≠ .null ∧
      rule.targets = target :: rest := by
  simp only [Lacks, not_or, not_forall] at h
  obtain ⟨hne, key, hkey, hnonempty, hpresent⟩ := h
  obtain ⟨target, rest, htargets⟩ := List.exists_cons_of_ne_nil hne
  exact ⟨key, target, rest, hkey, hnonempty, hpresent, htargets⟩

theorem Reports.not_lacks (h : rule.Reports c e) : ¬ rule.Lacks c := by
  obtain ⟨op, key, _, hkey, hne, hpresent, hreports⟩ := h
  rintro (hempty | hmissing)
  · rw [hempty] at hreports
    cases hreports
  · exact (hmissing key hkey).elim hne hpresent

theorem holds_eq_error_iff (hrule : rule.operator ≠ some (.text .matchesPattern)) :
    rule.holds c = .error e ↔ rule.Reports c e := by
  by_cases hlacks : rule.Lacks c
  · rw [holds_of_lacks hlacks]
    exact iff_of_false nofun fun h => h.not_lacks hlacks
  · obtain ⟨key, target, rest, hkey, hne, hpresent, htargets⟩ := exists_of_not_lacks hlacks
    have hnull : (c.get key).isNull = false := by
      rwa [Bool.eq_false_iff, ne_eq, Json.isNull_iff]
    cases hop : rule.operator with
    | none => simp [holds, Reports, hop]
    | some op =>
        have hpattern : op ≠ .text .matchesPattern := by
          rintro rfl
          exact hrule hop
        have hasking : rule = asking op key target rest := by
          rw [asking, ← hop, ← hkey, ← htargets]
        subst hasking
        rw [holds_asking hne hnull, ← List.map_cons, Operator.test_eq_error_iff hpattern]
        constructor
        · intro h
          exact ⟨op, key, rfl, rfl, hne, hpresent, h⟩
        · rintro ⟨op', key', hop', hkey', _, _, h⟩
          cases hop'
          cases hkey'
          exact h

/-! ## Unchecked values -/

/-- The unchecked value in place of the operator. -/
def looseOperator (rule : Rule) : LooseOperator :=
  match rule.operator with
  | some op => .known op
  | none => .other .null

/-- The unchecked value in place of the key. -/
def looseKey (rule : Rule) : Json :=
  match rule.key with
  | some key => .str key
  | none => .null

/-- The unchecked value in place of the targets. -/
def looseTargets (rule : Rule) : Json := .arr (rule.targets.map .str)

/-- Comparing by unchecked values of the right kinds is comparing by the rule. -/
theorem testLoose_eq_holds (rule : Rule) (c : Context) :
    testLoose rule.looseOperator rule.looseKey rule.looseTargets c = rule.holds c := by
  obtain ⟨op, key, targets⟩ := rule
  cases op with
  | none => simp [testLoose, looseOperator, holds, LooseOperator.isSet, Json.isSet]
  | some op =>
      cases key with
      | none => simp [testLoose, looseKey, holds, Json.isSet]
      | some key =>
          have hset : (key != "" && !(targets.map Json.str).isEmpty) =
              !(key == "" || targets.isEmpty) := by
            rw [bne, List.isEmpty_map, Bool.not_or]
          simp only [testLoose, looseOperator, looseKey, looseTargets, holds, LooseOperator.isSet,
            Json.isSet, Bool.true_and, hset, Bool.not_not]
          cases op <;> rfl

end Rule

/-- A comparison that looks for no patterns ends in a fault just when it has something to report: of
numbers, that the signal is an integer beyond the finite numbers; of versions, that the signal or
the first target has the form of a version with too many digits in a segment. In all other cases an
answer is given. The same is true of unchecked values of the right kinds. -/
theorem comparison_reports_iff {rule : Rule} (hrule : rule.operator ≠ some (.text .matchesPattern))
    (c : Context) :
    (∀ e, rule.holds c = .error e ↔ rule.Reports c e) ∧
      ((∀ e, ¬ rule.Reports c e) → ∃ b, rule.holds c = .ok b) ∧
      testLoose rule.looseOperator rule.looseKey rule.looseTargets c = rule.holds c := by
  have hreports : ∀ e, rule.holds c = .error e ↔ rule.Reports c e :=
    fun e => Rule.holds_eq_error_iff hrule
  refine ⟨hreports, ?_, rule.testLoose_eq_holds c⟩
  intro hnone
  cases hholds : rule.holds c with
  | error e => exact absurd ((hreports e).mp hholds) (hnone e)
  | ok b => exact ⟨b, rfl⟩

/-- A single row of too many digits is too long. -/
theorem overlong_of_digits {ds : List Char} (hdigits : ∀ c ∈ ds, isAsciiDigit c = true)
    (hlong : Numeral.maxDigits < ds.length) : Version.Overlong ds ds.length := by
  have hne : ds ≠ [] := List.ne_nil_of_length_pos (Nat.zero_lt_of_lt hlong)
  refine ⟨[ds], ?_, [], ds, [], rfl, List.forall_mem_nil _, hlong, rfl⟩
  constructor
  · exact (List.intercalate_singleton).symm
  · exact List.cons_ne_nil ds []
  · exact Nat.le_of_ble_eq_true rfl
  · intro segment hsegment
    rw [List.mem_singleton.mp hsegment]
    exact ⟨hne, hdigits⟩

/-- A row of ones that is just too long for a segment. -/
def ones : List Char := List.replicate 4301 '1'

theorem overlong_ones : Version.Overlong ones 4301 := by
  have hlength : ones.length = 4301 := List.length_replicate
  have hdigits : ∀ c ∈ ones, isAsciiDigit c = true := by
    intro c hc
    rw [List.eq_of_mem_replicate hc]
    rfl
  have hlong : Numeral.maxDigits < ones.length := by
    rw [hlength]
    exact Nat.lt_succ_self Numeral.maxDigits
  rw [← hlength]
  exact overlong_of_digits hdigits hlong

/-- A client whose release has a name and whose number of visits is beyond the finite numbers. -/
def oddClient : Context :=
  { id := none
    signals := .ofMembers [("release", .str "beta"), ("visits", .int (Binary64.leastOverflow : Int))] }

/-- The number of visits cannot be compared. The release can be compared with any short target, to
no avail, but not with a target of too many digits, although it is no version itself. -/
theorem odd_client_reports :
    (Rule.asking (.numeric .notEqual) "visits" "many" []).holds oddClient = .error .integerTooLarge ∧
      (Rule.asking (.version .less) "release" (String.ofList ones) ["1"]).holds oddClient =
        .error (.tooManyDigits 4301) ∧
      ∃ b, (Rule.asking (.text .lacks) "visits" (String.ofList ones) []).holds oddClient = .ok b := by
  have hlarge : Binary64.leastOverflow ≤ (Binary64.leastOverflow : Int).natAbs :=
    Nat.le_of_eq (Int.natAbs_natCast _).symm
  have hbeta : ∀ digits, ¬ Version.Overlong "beta".toList digits := by
    rintro digits ⟨segments, hform, _⟩
    have hpieces := (Version.pieces?_eq_some_iff_hasForm _ _).mpr hform
    cases hpieces
  have hones : Version.Overlong (String.ofList ones).toList 4301 := by
    rw [String.toList_ofList]
    exact overlong_ones
  refine ⟨?_, ?_, ?_⟩
  · have hrule : (Rule.asking (.numeric .notEqual) "visits" "many" []).operator ≠
        some (.text .matchesPattern) := by decide
    apply ((comparison_reports_iff hrule oddClient).1 _).mpr
    exact ⟨_, _, rfl, rfl, by decide, nofun, .number rfl hlarge⟩
  · have hrule : (Rule.asking (.version .less) "release" (String.ofList ones) ["1"]).operator ≠
        some (.text .matchesPattern) := nofun
    apply ((comparison_reports_iff hrule oddClient).1 _).mpr
    exact ⟨_, _, rfl, rfl, by decide, nofun, .version (.inr ⟨hbeta, hones⟩)⟩
  · have hrule : (Rule.asking (.text .lacks) "visits" (String.ofList ones) []).operator ≠
        some (.text .matchesPattern) := nofun
    apply (comparison_reports_iff hrule oddClient).2.1
    rintro e ⟨op, key, hop, _, _, _, hreports⟩
    cases hop
    cases hreports

end Rollout.Signal
