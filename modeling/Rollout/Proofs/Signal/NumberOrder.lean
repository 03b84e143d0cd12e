import Rollout.Proofs.Number.IntegerText
import Rollout.Proofs.Signal.Relation
import Rollout.Proofs.Signal.Faults

/-!
# The order of numbers

A value is a number when it is no truth value and is read as a floating-point number other than the
one that is not a number. Numbers stand on one line, and the operators on numbers are the relations
of places on it. They all fail, the unequal one included, when one of the two sides is no number.
Nothing but the places counts, so neither blanks nor further targets make a difference.
-/

namespace Rollout.Signal

open Text

/-! ## Numbers -/

/-- A value is read as a number. -/
structure ReadsAs (j : Json) (x : Binary64) : Prop where
  kind_ne : j.kind ≠ .bool
  toFloat?_eq : j.toFloat? = .ok (some x)
  ne_nan : x ≠ .nan

/-- A value is a number. -/
def IsNumber (j : Json) : Prop := ∃ x, ReadsAs j x

/-- A value is a number at a place on the line. -/
def StandsAt (j : Json) (a : Int) : Prop := ∃ x, ReadsAs j x ∧ x.place? = some a

variable {j : Json} {a b : Int}

theorem place?_eq_none_iff (x : Binary64) : x.place? = none ↔ x = .nan := by
  cases x <;> simp [Binary64.place?]

theorem IsNumber.exists_standsAt (h : IsNumber j) : ∃ a, StandsAt j a := by
  obtain ⟨x, hx⟩ := h
  cases hplace : x.place? with
  | none => exact absurd ((place?_eq_none_iff x).mp hplace) hx.ne_nan
  | some a => exact ⟨a, x, hx, hplace⟩

theorem StandsAt.isNumber (h : StandsAt j a) : IsNumber j := by
  obtain ⟨x, hx, _⟩ := h
  exact ⟨x, hx⟩

/-- Values other than truth values have the place of the floating-point number they are read as. -/
theorem numberPlace?_of_kind_ne (h : j.kind ≠ .bool) :
    numberPlace? j = j.toFloat?.map (·.bind Binary64.place?) := by
  cases j with
  | bool b => exact absurd rfl h
  | _ =>
      simp only [numberPlace?]
      generalize Json.toFloat? _ = result
      rcases result with e | _ | x <;> rfl

theorem StandsAt.ne_null (h : StandsAt j a) : j ≠ .null := by
  rintro rfl
  obtain ⟨x, hx, _⟩ := h
  cases hx.toFloat?_eq

theorem StandsAt.numberPlace?_eq (h : StandsAt j a) : numberPlace? j = .ok (some a) := by
  obtain ⟨x, hx, hplace⟩ := h
  rw [numberPlace?_of_kind_ne hx.kind_ne, hx.toFloat?_eq, ← hplace]
  rfl

theorem StandsAt.unique (ha : StandsAt j a) (hb : StandsAt j b) : a = b := by
  have hplace := ha.numberPlace?_eq.symm.trans hb.numberPlace?_eq
  simpa using hplace

theorem standsAt_of_place? {x : Binary64} (hkind : j.kind ≠ .bool)
    (hfloat : j.toFloat? = .ok (some x)) (hplace : x.place? = some a) : StandsAt j a := by
  have hnan : x ≠ .nan := by
    rintro rfl
    cases hplace
  exact ⟨x, ⟨hkind, hfloat, hnan⟩, hplace⟩

/-- A text of an integer stands at the rounded place of the integer. -/
theorem standsAt_of_isIntegerText {s : String} {n : Int} (h : Numeral.IsIntegerText s.toList n) :
    StandsAt (.str s) (Binary64.roundedPlace n) := by
  obtain ⟨x, hread, hplace⟩ := Numeral.readFloat_of_isIntegerText h
  have hkind : (Json.str s).kind ≠ .bool := by
    intro hbool
    cases hbool
  exact standsAt_of_place? hkind (congrArg Except.ok hread) hplace

/-- An integer that is not too large stands there as well. -/
theorem standsAt_int {n : Int} (h : n.natAbs < Binary64.leastOverflow) :
    StandsAt (.int n) (Binary64.roundedPlace n) := by
  have hkind : (Json.int n).kind ≠ .bool := by
    intro hbool
    cases hbool
  have hfloat : (Json.int n).toFloat? = .ok (some (Binary64.ofInt n)) := by
    simp only [Json.toFloat?, Binary64.ofInt?_eq_some h]
  exact standsAt_of_place? hkind hfloat (Binary64.place?_ofInt n)

/-- Integers of magnitude at most `2 ^ 53` are in the same relations as their places. -/
theorem relates_roundedPlace_iff (ha : a.natAbs ≤ 2 ^ 53) (hb : b.natAbs ≤ 2 ^ 53) (r : Relation) :
    r.Relates (Binary64.roundedPlace a) (Binary64.roundedPlace b) ↔ r.Relates a b := by
  have hmono : StrictMono fun n : Int => n * Binary64.unitsInOne :=
    fun _ _ => Binary64.mul_unitsInOne_lt
  rw [Binary64.roundedPlace_eq ha, Binary64.roundedPlace_eq hb]
  exact Relation.relates_map_iff hmono r

/-- What is no number has no place. -/
theorem numberPlace?_of_not_isNumber (h : ¬ IsNumber j) {place : Option Int}
    (hplace : numberPlace? j = .ok place) : place = none := by
  by_cases hkind : j.kind = .bool
  · cases j with
    | bool b =>
        cases hplace
        rfl
    | _ => cases hkind
  · rw [numberPlace?_of_kind_ne hkind] at hplace
    cases hfloat : j.toFloat? with
    | error e =>
        rw [hfloat] at hplace
        cases hplace
    | ok number =>
        rw [hfloat] at hplace
        cases number with
        | none =>
            cases hplace
            rfl
        | some x =>
            have hnan : x = .nan := by
              by_contra hne
              exact h ⟨x, hkind, hfloat, hne⟩
            subst hnan
            cases hplace
            rfl

/-! ## Blanks around numerals -/

/-- A value is another one, or both are texts and it has more blanks around it. -/
inductive IsPadded : Json → Json → Prop
  | same (j : Json) : IsPadded j j
  | text {s t : String} (h : Surrounds Numeral.isBlank s.toList t.toList) :
      IsPadded (.str s) (.str t)

theorem IsPadded.numberPlace?_eq {j k : Json} (h : IsPadded j k) :
    numberPlace? k = numberPlace? j := by
  cases h with
  | same => rfl
  | text h => simp only [numberPlace?, Json.toFloat?, Numeral.readFloat_of_surrounds h]

/-! ## Comparisons -/

/-- Two values are numbers whose places stand in a relation. -/
def InRelation (r : Relation) (j k : Json) : Prop :=
  ∃ a b, StandsAt j a ∧ StandsAt k b ∧ r.Relates a b

section Comparisons

variable {actual target : Json}

theorem compareNumbers_of_standsAt (ha : StandsAt actual a) (hb : StandsAt target b)
    (r : Relation) : compareNumbers r actual target = .ok (decide (r.Relates a b)) := by
  have hcompares : (compare a b).Compares a b := (compare_iff a b).mp rfl
  simp only [compareNumbers, ha.numberPlace?_eq, hb.numberPlace?_eq, Relation.holds_eq hcompares]

/-- An answer of one of the operators means that both sides could be read. -/
theorem numberPlace?_ok_of_compareNumbers {r : Relation} {answer : Bool}
    (h : compareNumbers r actual target = .ok answer) :
    (∃ place, numberPlace? actual = .ok place) ∧ ∃ place, numberPlace? target = .ok place := by
  cases ht : numberPlace? target with
  | error e =>
      simp only [compareNumbers, ht] at h
      cases h
  | ok t =>
      cases ha : numberPlace? actual with
      | error e =>
          simp only [compareNumbers, ht, ha] at h
          cases h
      | ok a => exact ⟨⟨a, rfl⟩, t, rfl⟩

theorem compareNumbers_of_not_isNumber (ha : ∃ place, numberPlace? actual = .ok place)
    (ht : ∃ place, numberPlace? target = .ok place) (h : ¬ (IsNumber actual ∧ IsNumber target))
    (r : Relation) : compareNumbers r actual target = .ok false := by
  obtain ⟨a, ha⟩ := ha
  obtain ⟨t, ht⟩ := ht
  simp only [compareNumbers, ha, ht]
  by_cases hactual : IsNumber actual
  · have htarget : ¬ IsNumber target := fun hnumber => h ⟨hactual, hnumber⟩
    rw [numberPlace?_of_not_isNumber htarget ht]
    cases a <;> rfl
  · rw [numberPlace?_of_not_isNumber hactual ha]

theorem compareNumbers_eq_true_iff (r : Relation) :
    compareNumbers r actual target = .ok true ↔ InRelation r actual target := by
  constructor
  · intro h
    by_cases hnumbers : IsNumber actual ∧ IsNumber target
    · obtain ⟨a, ha⟩ := hnumbers.1.exists_standsAt
      obtain ⟨b, hb⟩ := hnumbers.2.exists_standsAt
      rw [compareNumbers_of_standsAt ha hb, Except.ok.injEq, decide_eq_true_iff] at h
      exact ⟨a, b, ha, hb, h⟩
    · obtain ⟨ha, ht⟩ := numberPlace?_ok_of_compareNumbers h
      rw [compareNumbers_of_not_isNumber ha ht hnumbers] at h
      cases h
  · rintro ⟨a, b, ha, hb, hrelates⟩
    rw [compareNumbers_of_standsAt ha hb, decide_eq_true hrelates]

/-- A comparison is reversed when the two sides are exchanged. -/
theorem compareNumbers_reverse (ha : ∃ place, numberPlace? actual = .ok place)
    (ht : ∃ place, numberPlace? target = .ok place) (r : Relation) :
    compareNumbers r.reverse target actual = compareNumbers r actual target := by
  by_cases hnumbers : IsNumber actual ∧ IsNumber target
  · obtain ⟨a, hactual⟩ := hnumbers.1.exists_standsAt
    obtain ⟨b, htarget⟩ := hnumbers.2.exists_standsAt
    rw [compareNumbers_of_standsAt hactual htarget, compareNumbers_of_standsAt htarget hactual,
      decide_eq_decide.mpr (Relation.relates_reverse r)]
  · rw [compareNumbers_of_not_isNumber ha ht hnumbers,
      compareNumbers_of_not_isNumber ht ha (and_comm.not.mp hnumbers)]

theorem compareNumbers_of_isPadded {actual' target' : Json} (ha : IsPadded actual actual')
    (ht : IsPadded target target') (r : Relation) :
    compareNumbers r actual' target' = compareNumbers r actual target := by
  simp only [compareNumbers, ha.numberPlace?_eq, ht.numberPlace?_eq]

/-- A relation carries over a middle value, which may be written in another way when it is the
signal than when it is the target. -/
theorem InRelation.trans {r : Relation} (hr : r ≠ .notEqual) {middle other : Json}
    (hmiddle : ∀ b, StandsAt target b → StandsAt middle b) (hfirst : InRelation r actual target)
    (hsecond : InRelation r middle other) : InRelation r actual other := by
  obtain ⟨a, b, ha, hb, hab⟩ := hfirst
  obtain ⟨b', d, hb', hd, hbd⟩ := hsecond
  have hsame : b' = b := hb'.unique (hmiddle b hb)
  subst hsame
  exact ⟨a, d, ha, hd, hab.trans hr hbd⟩

end Comparisons

/-! ## Coherent answers -/

/-- Six answers are those of one order: exactly one of less, equal and greater is true, and the
other three are combinations of them. -/
structure Coherent (ask : Relation → Except Fault Bool) : Prop where
  answers : ∀ r, ∃ b, ask r = .ok b
  strict : ∃! r, r ∈ Relation.strict ∧ ask r = .ok true
  lessEqual : ask .lessEqual = .ok true ↔ ask .less = .ok true ∨ ask .equal = .ok true
  greaterEqual : ask .greaterEqual = .ok true ↔ ask .greater = .ok true ∨ ask .equal = .ok true
  notEqual : ask .notEqual = .ok true ↔ ask .equal = .ok false

/-- The relations of two places give coherent answers. -/
theorem coherent_of_relates {ask : Relation → Except Fault Bool}
    (h : ∀ r, ask r = .ok (decide (r.Relates a b))) : Coherent ask where
  answers r := ⟨_, h r⟩
  strict := by
    simp only [h, Except.ok.injEq, decide_eq_true_iff]
    exact Relation.existsUnique_strict a b
  lessEqual := by
    simp only [h, Except.ok.injEq, decide_eq_true_iff]
    exact le_iff_lt_or_eq
  greaterEqual := by
    simp only [h, Except.ok.injEq, decide_eq_true_iff]
    exact le_iff_lt_or_eq.trans (or_congr_right eq_comm)
  notEqual := by
    simp only [h, Except.ok.injEq, decide_eq_true_iff, decide_eq_false_iff_not]
    exact Iff.rfl

/-! ## Operators -/

open Rule

/-- The operators on numbers are the relations of one order. When the signal or the first target is
no number, none of them holds. Otherwise each answers whether the two places stand in its relation,
so the six answers are coherent. All relations but the unequal one are transitive, over a middle
value that stands in the same place as a signal and as a target, and a relation is reversed when a
text that is the signal and the target are exchanged. Neither blanks around the two sides nor other
targets after the first one change an answer. -/
theorem numeric_operators_are_one_order {c : Context} {key target : String} {actual : Json}
    {rest : List String} (hc : c.Presents key actual)
    (hanswers : ∃ r b, (asking (.numeric r) key target rest).holds c = .ok b) :
    (¬ (IsNumber actual ∧ IsNumber (.str target)) →
        ∀ r, (asking (.numeric r) key target rest).holds c = .ok false) ∧
      (∀ a b, StandsAt actual a → StandsAt (.str target) b →
        ∀ r, (asking (.numeric r) key target rest).holds c = .ok (decide (r.Relates a b))) ∧
      (IsNumber actual → IsNumber (.str target) →
        Coherent fun r => (asking (.numeric r) key target rest).holds c) ∧
      (∀ c' key' middle target' rest', c'.Presents key' middle →
        (∀ b, StandsAt (.str target) b → StandsAt middle b) → ∀ r, r ≠ .notEqual →
          (asking (.numeric r) key target rest).holds c = .ok true →
            (asking (.numeric r) key' target' rest').holds c' = .ok true →
              (asking (.numeric r) key target' rest').holds c = .ok true) ∧
      (∀ c' key' text rest', actual = .str text → c'.Presents key' (.str target) →
        ∀ r, (asking (.numeric r.reverse) key' text rest').holds c' =
          (asking (.numeric r) key target rest).holds c) ∧
      ∀ c' key' actual' target' rest', c'.Presents key' actual' → IsPadded actual actual' →
        IsPadded (.str target) (.str target') →
          ∀ r, (asking (.numeric r) key' target' rest').holds c' =
            (asking (.numeric r) key target rest).holds c := by
  have hholds {c : Context} {key : String} {actual : Json} (hc : c.Presents key actual)
      (r : Relation) (target : String) (rest : List String) :
      (asking (.numeric r) key target rest).holds c = compareNumbers r actual (.str target) :=
    holds_asking_of_presents hc (.numeric r) target rest
  obtain ⟨r₀, answer, hanswer⟩ := hanswers
  rw [hholds hc] at hanswer
  obtain ⟨hreadable, hreadable'⟩ := numberPlace?_ok_of_compareNumbers hanswer
  have hplaces : ∀ a b, StandsAt actual a → StandsAt (.str target) b →
      ∀ r, (asking (.numeric r) key target rest).holds c = .ok (decide (r.Relates a b)) := by
    intro a b ha hb r
    rw [hholds hc]
    exact compareNumbers_of_standsAt ha hb r
  refine ⟨?_, hplaces, ?_, ?_, ?_, ?_⟩
  · intro hnumbers r
    rw [hholds hc]
    exact compareNumbers_of_not_isNumber hreadable hreadable' hnumbers r
  · intro hactual htarget
    obtain ⟨a, ha⟩ := hactual.exists_standsAt
    obtain ⟨b, hb⟩ := htarget.exists_standsAt
    exact coherent_of_relates (hplaces a b ha hb)
  · intro c' key' middle target' rest' hc' hmiddle r hr hfirst hsecond
    rw [hholds hc, compareNumbers_eq_true_iff] at hfirst ⊢
    rw [hholds hc', compareNumbers_eq_true_iff] at hsecond
    exact hfirst.trans hr hmiddle hsecond
  · intro c' key' text rest' htext hc' r
    subst htext
    rw [hholds hc, hholds hc']
    exact compareNumbers_reverse hreadable hreadable' r
  · intro c' key' actual' target' rest' hc' hactual htarget r
    rw [hholds hc, hholds hc']
    exact compareNumbers_of_isPadded hactual htarget r

/-- A client whose load is given. -/
def loaded (load : Json) : Context := { id := none, signals := .ofMembers [("load", load)] }

theorem loaded_presents {load : Json} (h : load ≠ .null) : (loaded load).Presents "load" load where
  key_ne := by decide
  get_eq := rfl
  present := h

theorem standsAt_numeral (n : Int) :
    StandsAt (.str (String.ofList (intDigits n))) (Binary64.roundedPlace n) := by
  apply standsAt_of_isIntegerText
  rw [String.toList_ofList]
  exact Numeral.isIntegerText_intDigits n

/-- A hundred, with a sign and an underscore. -/
theorem standsAt_hundred : StandsAt (.str "+1_00") (Binary64.roundedPlace 100) := by
  apply standsAt_of_isIntegerText
  refine ⟨"+1_00".toList, ⟨['+'], false, [['1'], ['0', '0']], .plus, ?_, ?_, rfl, rfl⟩, ?_⟩
  · decide
  · simp [Spelling.IsDigits, isAsciiDigit]
  · exact .refl _ _

/-- A load is less than a target that stands at a greater integer. -/
theorem holds_less_of_loaded {load : Json} {target : String}
    (ha : StandsAt load (Binary64.roundedPlace a))
    (hb : StandsAt (.str target) (Binary64.roundedPlace b)) (hab : a < b)
    (hsmall : a.natAbs ≤ 2 ^ 53) (hsmall' : b.natAbs ≤ 2 ^ 53) (rest : List String) :
    (asking (.numeric .less) "load" target rest).holds (loaded load) = .ok true := by
  rw [holds_asking_of_presents (loaded_presents ha.ne_null), Operator.test, compareNumbers_eq_true_iff]
  exact ⟨_, _, ha, hb, (relates_roundedPlace_iff hsmall hsmall' .less).mpr hab⟩

/-- A truth value is not even unequal to a number. A load of 99 is less than a hundred and in no
other strict relation to it, whichever of the two is the signal and whatever blanks are around them,
and by way of a hundred it is less than a thousand. -/
theorem loads_are_ordered :
    (asking (.numeric .notEqual) "load" "0" []).holds (loaded (.bool true)) = .ok false ∧
      (asking (.numeric .less) "load" "+1_00" ["x"]).holds (loaded (.str "99")) = .ok true ∧
      (∃! r, r ∈ Relation.strict ∧
        (asking (.numeric r) "load" "+1_00" ["x"]).holds (loaded (.str "99")) = .ok true) ∧
      (asking (.numeric .greater) "load" "99" []).holds (loaded (.str "+1_00")) = .ok true ∧
      (asking (.numeric .less) "load" "+1_00\n" []).holds (loaded (.str "\t99")) = .ok true ∧
      (asking (.numeric .less) "load" "1000" []).holds (loaded (.str "99")) = .ok true := by
  have hbool : (loaded (.bool true)).Presents "load" (.bool true) := loaded_presents nofun
  have htext (s : String) : (loaded (.str s)).Presents "load" (.str s) := loaded_presents nofun
  have hinteger : (loaded (.int 100)).Presents "load" (.int 100) := loaded_presents nofun
  have hninetyNine : StandsAt (.str "99") (Binary64.roundedPlace 99) := standsAt_numeral 99
  have hhundred : StandsAt (.int 100) (Binary64.roundedPlace 100) :=
    standsAt_int (Binary64.lt_leastOverflow (by decide))
  have hless : (asking (.numeric .less) "load" "+1_00" ["x"]).holds (loaded (.str "99")) =
      .ok true :=
    holds_less_of_loaded hninetyNine standsAt_hundred (by decide) (by decide) (by decide) _
  have hless' : (asking (.numeric .less) "load" "1000" []).holds (loaded (.int 100)) = .ok true :=
    holds_less_of_loaded hhundred (standsAt_numeral 1000) (by decide) (by decide)
      (by decide) []
  obtain ⟨hnever, _⟩ := numeric_operators_are_one_order hbool
    (⟨.less, false, rfl⟩ : ∃ r b,
      (asking (.numeric r) "load" "0" []).holds (loaded (.bool true)) = .ok b)
  obtain ⟨_, _, hcoherent, htrans, hreverse, hpadded⟩ :=
    numeric_operators_are_one_order (htext "99") ⟨.less, true, hless⟩
  refine ⟨?_, hless, ?_, ?_, ?_, ?_⟩
  · apply hnever
    rintro ⟨⟨x, hx⟩, _⟩
    exact hx.kind_ne rfl
  · exact (hcoherent hninetyNine.isNumber standsAt_hundred.isNumber).strict
  · exact (hreverse _ "load" "99" [] rfl (htext "+1_00") .less).trans hless
  · have hsignal : IsPadded (.str "99") (.str "\t99") :=
      .text ⟨['\t'], [], List.forall_mem_singleton.mpr rfl, List.forall_mem_nil _, rfl⟩
    have htarget : IsPadded (.str "+1_00") (.str "+1_00\n") :=
      .text ⟨[], ['\n'], List.forall_mem_nil _, List.forall_mem_singleton.mpr rfl, rfl⟩
    exact (hpadded _ "load" _ _ [] (htext "\t99") hsignal htarget .less).trans hless
  · have hmiddle : ∀ b, StandsAt (.str "+1_00") b → StandsAt (.int 100) b := by
      intro b hb
      rw [hb.unique standsAt_hundred]
      exact hhundred
    exact htrans _ "load" _ "1000" [] hinteger hmiddle .less (by decide) hless hless'

end Rollout.Signal
