import Mathlib.Logic.Relation
import Rollout.Proofs.Condition.Malformed
import Rollout.Proofs.Json.RoundTrip
import Rollout.Proofs.Number.IntegerText

/-!
# Spellings of the bounds of percent rules

A bound of a percent rule is an integer. It may be given as such, as a text of it, or as the
floating-point number that it becomes, as long as this number is still the integer. A bound that is
given in another of these ways leaves the condition that is read as it was, wherever the rule stands
in a tree of conditions.

## Implementation notes

A step gives one bound of one rule in another way, and any number of steps may follow each other.
-/

namespace Rollout

open Entries Text

/-- A number with an integer part is read as this integer. -/
theorem Json.toInt?_float {x : Binary64} {n : Int} (h : x.truncate? = some n) :
    (Json.float x).toInt? = .ok (some n) := by
  cases x with
  | finite s m e => simp only [toInt?, h]
  | _ => cases h

namespace PercentRule

/-! ## Bounds -/

/-- The ways in which a bound can be given: as an integer, as a text of it that does not have too
many digits, and as the floating-point number that is the integer. -/
inductive GivesBound (n : Int) : Json → Prop
  | int : GivesBound n (.int n)
  | text {s : String} (spelled : Numeral.IsIntegerText s.toList n)
      (short : s.toList.countP isDigit ≤ Numeral.maxDigits) : GivesBound n (.str s)
  | float (small : n.natAbs ≤ 2 ^ 53) : GivesBound n (.float (.ofInt n))

theorem readBound_of_givesBound {n : Int} {j : Json} (h : GivesBound n j) :
    readBound j = .ok (some n) := by
  cases h with
  | int => rfl
  | text spelled short =>
      simp only [readBound, Json.toInt?, Numeral.readInt_of_isIntegerText spelled short]
  | float small => exact Json.toInt?_float (Binary64.truncate?_ofInt small)

theorem GivesBound.readBound_eq {n : Int} {j j' : Json} (old : GivesBound n j)
    (new : GivesBound n j') : readBound j' = readBound j := by
  rw [readBound_of_givesBound old, readBound_of_givesBound new]

/-- The decimal numeral of an integer gives it, unless it is too long. -/
theorem givesBound_intDigits {n : Int} (h : n.natAbs < 10 ^ Numeral.maxDigits) :
    GivesBound n (.str (String.ofList (intDigits n))) := by
  have hcount : (intDigits n).countP isDigit ≤ (natDigits n.natAbs).length := by
    cases n with
    | ofNat m => exact List.countP_le_length
    | negSucc m =>
        rw [intDigits, List.countP_cons_of_neg (by decide)]
        exact List.countP_le_length
  have hlength : (natDigits n.natAbs).length ≤ Numeral.maxDigits :=
    (length_natDigits_le_iff (by decide)).2 h
  apply GivesBound.text
  · rw [String.toList_ofList]
    exact Numeral.isIntegerText_intDigits n
  · rw [String.toList_ofList]
    exact Nat.le_trans hcount hlength

theorem readBound_field_put {members : List (String × Json)} {key : String} {j j' : Json}
    (member : find? members key = some j) (h : readBound j' = readBound j) (k : String) :
    readBound ((Json.obj (put members key j')).field k) =
      readBound ((Json.obj members).field k) := by
  rw [Json.field_put]
  split
  · rename_i hk
    rw [← eq_of_beq hk, Json.field, member, h]
    rfl
  · rfl

/-! ## Rules -/

/-- A payload becomes another one when one bound of its rule is given in another way. -/
inductive Respelled : Json → Json → Prop
  | limit {members : List (String × Json)} {n : Int} {j j' : Json}
      (member : find? members "microPercent" = some j) (old : GivesBound n j)
      (new : GivesBound n j') :
      Respelled (.obj members) (.obj (put members "microPercent" j'))
  | range {members range : List (String × Json)} {key : String} {n : Int} {j j' : Json}
      (bound : key = "microPercentLowerBound" ∨ key = "microPercentUpperBound")
      (member : find? members "microPercentRange" = some (.obj range))
      (inner : find? range key = some j) (old : GivesBound n j) (new : GivesBound n j') :
      Respelled (.obj members) (.obj (put members "microPercentRange" (.obj (put range key j'))))

theorem ofJson_of_respelled {j j' : Json} (h : Respelled j j') : ofJson j' = ofJson j := by
  cases h with
  | limit member old new =>
      simp only [ofJson, readBound_field_put member (old.readBound_eq new)]
      simp [Json.field_put]
  | @range members range key n j j' bound member inner old new =>
      have hrange : readRange (.obj (put range key j')) = readRange (.obj range) := by
        simp only [readRange, readBound_field_put inner (old.readBound_eq new)]
      have hmember : (Json.obj members).field "microPercentRange" = .obj range := by
        simp [Json.field, member]
      simp [ofJson, Json.field_put, hrange, hmember]

end PercentRule

namespace Condition

/-! ## Trees -/

/-- A tree becomes another one when one bound of one of its percent rules is given in another
way. -/
inductive Respelled (tree tree' : Json) : Prop
  | at {depth : Nat} {members : List (String × Json)} {payload payload' : Json}
      (member : find? members "percent" = some payload)
      (rule : PercentRule.Respelled payload payload')
      (place : Replaced (.obj members) (.obj (put members "percent" payload')) depth tree tree')

theorem ofJson_put_percent {members : List (String × Json)} {payload payload' : Json}
    (member : find? members "percent" = some payload)
    (rule : PercentRule.Respelled payload payload') :
    ofJson (.obj (put members "percent" payload')) = ofJson (.obj members) := by
  have hfield : (Json.obj members).field "percent" = payload := by simp [Json.field, member]
  have hread : readPercent payload' = readPercent payload := by
    have hrule := PercentRule.ofJson_of_respelled rule
    cases rule <;> simp only [readPercent, hrule]
  have hnull : payload.isNull = false ∧ payload'.isNull = false := by
    cases rule <;> exact ⟨rfl, rfl⟩
  rw [ofJson_eq, ofJson_eq]
  simp [readLeaf, Json.field_put, hfield, hnull, hread]

theorem readItems_replace {x y : Json} (h : ofJson y = ofJson x) (before after : List Json) :
    readItems (before ++ y :: after) = readItems (before ++ x :: after) := by
  induction before with
  | nil => rw [List.nil_append, List.nil_append, readItems, readItems, h]
  | cons z before ih => rw [List.cons_append, List.cons_append, readItems, readItems, ih]

/-- A condition in a tree may be replaced by one that is read as the same condition. -/
theorem ofJson_replaced {sub other tree tree' : Json} {depth : Nat}
    (h : Replaced sub other depth tree tree') (hsub : ofJson other = ofJson sub) :
    ofJson tree' = ofJson tree := by
  induction h with
  | here => exact hsub
  | @inside depth v members payload before after x y combining member conditions inner ih =>
      rcases ofJson_combination_cases combining member conditions (before ++ y :: after) with
        hsame | ⟨node, _, hread, hread'⟩
      · exact hsame
      · rw [hread, hread', readItems_replace ih]

theorem ofJson_of_respelled {tree tree' : Json} (h : Respelled tree tree') :
    ofJson tree' = ofJson tree := by
  obtain ⟨member, rule, place⟩ := h
  exact ofJson_replaced place (ofJson_put_percent member rule)

theorem ofJson_of_respellings {tree tree' : Json}
    (h : Relation.ReflTransGen Respelled tree tree') : ofJson tree' = ofJson tree := by
  induction h with
  | refl => rfl
  | tail _ hstep ih => exact (ofJson_of_respelled hstep).trans ih

/-- Every way of giving an integer as a bound is read as the integer. Among these ways are its
decimal numeral unless it is too long, and up to a magnitude of `2 ^ 53` the floating-point number
that is read from the numeral with a zero behind the point. When bounds are given in other ways, at
any places of a tree, the condition that is read stays the same, and so does every verdict on it. -/
theorem spellings_are_interchangeable :
    (∀ n j, PercentRule.GivesBound n j → PercentRule.readBound j = .ok (some n)) ∧
      (∀ n : Int, n.natAbs < 10 ^ Numeral.maxDigits →
        PercentRule.GivesBound n (.str (String.ofList (intDigits n)))) ∧
      (∀ n : Int, n.natAbs ≤ 2 ^ 53 →
        Json.read (String.ofList (intDigits n ++ ['.', '0'])) = .ok (.float (.ofInt n)) ∧
          PercentRule.GivesBound n (.float (.ofInt n))) ∧
      ∀ tree tree', Relation.ReflTransGen Respelled tree tree' →
        ofJson tree' = ofJson tree ∧ ∀ c level, judge c tree' level = judge c tree level := by
  refine ⟨?_, ?_, ?_, ?_⟩
  · intro n j h
    exact PercentRule.readBound_of_givesBound h
  · intro n hn
    exact PercentRule.givesBound_intDigits hn
  · intro n hn
    exact ⟨Json.read_of_spells (Json.spells_whole n), .float hn⟩
  · intro tree tree' h
    have hread := ofJson_of_respellings h
    refine ⟨hread, ?_⟩
    intro c level
    rw [judge, judge, hread]

/-- The bounds of a range. -/
def bounds (lower upper : Json) : List (String × Json) :=
  [("microPercentLowerBound", lower), ("microPercentUpperBound", upper)]

/-- A rule for a range. -/
def rangeRule (lower upper : Json) : List (String × Json) :=
  [("percentOperator", .str "BETWEEN"), ("microPercentRange", .obj (bounds lower upper))]

/-- The condition of the rule. -/
def rangeLeaf (lower upper : Json) : Json := .obj [("percent", .obj (rangeRule lower upper))]

/-- The condition below a conjunction and a disjunction. -/
def nestedRange (lower upper : Json) : Json :=
  .obj [("orCondition", .obj [("conditions", .arr [neverJson,
    conjunction [alwaysJson, rangeLeaf lower upper]])])]

theorem respelled_nestedRange {lower upper lower' upper' : Json}
    (h : PercentRule.Respelled (.obj (rangeRule lower upper)) (.obj (rangeRule lower' upper'))) :
    Respelled (nestedRange lower upper) (nestedRange lower' upper') := by
  have hinner : Replaced (rangeLeaf lower upper) (rangeLeaf lower' upper') 1
      (conjunction [alwaysJson, rangeLeaf lower upper])
      (conjunction [alwaysJson, rangeLeaf lower' upper']) :=
    @Replaced.inside _ _ 0 .all
      [("andCondition", .obj [("conditions", .arr [alwaysJson, rangeLeaf lower upper])])]
      [("conditions", .arr [alwaysJson, rangeLeaf lower upper])] [alwaysJson] [] _ _ (.inr rfl) rfl
      rfl .here
  have hplace : Replaced (rangeLeaf lower upper) (rangeLeaf lower' upper') 2
      (nestedRange lower upper) (nestedRange lower' upper') :=
    @Replaced.inside _ _ 1 .any
      [("orCondition", .obj [("conditions", .arr [neverJson,
        conjunction [alwaysJson, rangeLeaf lower upper]])])]
      [("conditions", .arr [neverJson, conjunction [alwaysJson, rangeLeaf lower upper]])]
      [neverJson] [] _ _ (.inl rfl) rfl rfl hinner
  exact @Respelled.at _ _ 2 [("percent", .obj (rangeRule lower upper))] _ _ rfl h hplace

/-- A text with a sign and zeros stands for an integer, and a floating-point number for a text with
an underscore. -/
theorem nestedRange_respelled :
    Relation.ReflTransGen Respelled (nestedRange (.int 5) (.str "1_0"))
        (nestedRange (.str " +005") (.float (.ofInt 10))) ∧
      ofJson (nestedRange (.str " +005") (.float (.ofInt 10))) =
        ofJson (nestedRange (.int 5) (.str "1_0")) ∧
      PercentRule.readBound (.str " +005") = .ok (some 5) ∧
      PercentRule.GivesBound (-3) (.str "-3") ∧
      Json.read "10.0" = .ok (.float (.ofInt 10)) := by
  have hfive : PercentRule.GivesBound 5 (.str " +005") := by
    apply PercentRule.GivesBound.text
    · refine ⟨"+005".toList, ⟨['+'], false, [['0', '0', '5']], .plus, ?_, ?_, rfl, rfl⟩, ?_⟩
      · decide
      · simp [Spelling.IsDigits, isAsciiDigit]
      · exact ⟨[' '], [], List.forall_mem_singleton.mpr rfl, List.forall_mem_nil _, rfl⟩
    · decide
  have hten : PercentRule.GivesBound 10 (.str "1_0") := by
    apply PercentRule.GivesBound.text
    · refine ⟨"1_0".toList, ⟨[], false, [['1'], ['0']], .missing, ?_, ?_, rfl, rfl⟩, .refl _ _⟩
      · decide
      · simp [Spelling.IsDigits, isAsciiDigit]
    · decide
  obtain ⟨hreads, hnumeral, hwhole, hsame⟩ := spellings_are_interchangeable
  obtain ⟨hread, hten'⟩ := hwhole 10 (by decide)
  have hlower : PercentRule.Respelled (.obj (rangeRule (.int 5) (.str "1_0")))
      (.obj (rangeRule (.str " +005") (.str "1_0"))) :=
    @PercentRule.Respelled.range (rangeRule _ _) (bounds _ _) _ 5 _ _ (.inl rfl) rfl rfl .int hfive
  have hupper : PercentRule.Respelled (.obj (rangeRule (.str " +005") (.str "1_0")))
      (.obj (rangeRule (.str " +005") (.float (.ofInt 10)))) :=
    @PercentRule.Respelled.range (rangeRule _ _) (bounds _ _) _ 10 _ _ (.inr rfl) rfl rfl hten hten'
  have hsteps := Relation.ReflTransGen.tail (.single (respelled_nestedRange hlower))
    (respelled_nestedRange hupper)
  exact ⟨hsteps, (hsame _ _ hsteps).1, hreads _ _ hfive, hnumeral (-3) (by decide +kernel), hread⟩

end Condition

end Rollout
