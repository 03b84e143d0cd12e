import Mathlib.Data.List.Chain
import Mathlib.Tactic.SplitIfs
import Rollout.Proofs.Condition.Encodable

/-!
# Dividing a population

A percent rule selects the clients whose percentiles lie in a part of the line: up to a bound, above
a bound, or between two bounds. Bounds in ascending order cut the line into parts, and rules for
these parts under one seed divide the clients with an id among themselves. Without the two outer
parts some clients are in none of the rules: between the least and the greatest percentile, it is
the clients whose percentile is zero, because the lower bound of a range lies outside of it. A seed
or an id that has no encoding divides nobody: every rule ends in a fault.

## Implementation notes

A part is a property of a rule, not a rule, because a bound of zero may also be left out and a rule
may give bounds that its operator does not look at.
-/

namespace Rollout

namespace PercentRule

/-- Parts of the line of percentiles. -/
inductive Part
  | upTo (bound : Int)
  | between (lower upper : Int)
  | above (bound : Int)

namespace Part

/-- A percentile lies in a part. The upper end belongs to the part, the lower end does not. -/
def contains : Part → Int → Bool
  | .upTo bound, x => x ≤ bound
  | .between lower upper, x => lower < x && x ≤ upper
  | .above bound, x => bound < x

/-- The parts between neighbouring bounds, from a first bound on. -/
def gaps : Int → List Int → List Part
  | _, [] => []
  | b, b' :: bs => .between b b' :: gaps b' bs

/-- All the parts into which bounds cut the line. -/
def cuts (b : Int) (bs : List Int) : List Part :=
  .upTo b :: (gaps b bs ++ [.above (bs.getLastD b)])

@[simp] theorem length_gaps (b : Int) (bs : List Int) : (gaps b bs).length = bs.length := by
  induction bs generalizing b with
  | nil => rfl
  | cons b' bs ih => rw [gaps, List.length_cons, List.length_cons, ih]

theorem length_cuts (b : Int) (bs : List Int) : (cuts b bs).length = bs.length + 2 := by
  simp [cuts]

theorem le_getLastD {b : Int} {bs : List Int} (h : (b :: bs).IsChain (· ≤ ·)) :
    b ≤ bs.getLastD b := by
  induction bs generalizing b with
  | nil => exact Int.le_refl b
  | cons b' bs ih =>
      rw [List.isChain_cons_cons] at h
      rw [List.getLastD_cons]
      exact Int.le_trans h.1 (ih h.2)

/-- The gaps between ascending bounds contain a percentile once if it lies between the first bound
and the last, and not at all otherwise. -/
theorem countP_gaps {b : Int} {bs : List Int} (h : (b :: bs).IsChain (· ≤ ·)) (x : Int) :
    (gaps b bs).countP (·.contains x) = if b < x ∧ x ≤ bs.getLastD b then 1 else 0 := by
  induction bs generalizing b with
  | nil =>
      have hempty : ¬ (b < x ∧ x ≤ b) := by omega
      rw [gaps, List.countP_nil, List.getLastD_nil, if_neg hempty]
  | cons b' bs ih =>
      rw [List.isChain_cons_cons] at h
      have hlast := le_getLastD h.2
      rw [gaps, List.countP_cons, ih h.2, List.getLastD_cons]
      simp only [contains, Bool.and_eq_true, decide_eq_true_eq]
      split_ifs <;> omega

/-- Ascending bounds cut the line into parts that contain every percentile once. -/
theorem countP_cuts {b : Int} {bs : List Int} (h : (b :: bs).IsChain (· ≤ ·)) (x : Int) :
    (cuts b bs).countP (·.contains x) = 1 := by
  have hlast := le_getLastD h
  rw [cuts, List.countP_cons, List.countP_append, List.countP_singleton, countP_gaps h]
  simp only [contains, decide_eq_true_eq]
  split_ifs <;> omega

end Part

/-- The part that a rule selects. A bound that is missing counts as zero. -/
def part? (rule : PercentRule) : Option Part :=
  match rule.operator with
  | some .lessOrEqual => some (.upTo (rule.limit.getD 0))
  | some .between => some (.between rule.lower rule.upper)
  | some .greaterThan => some (.above (rule.limit.getD 0))
  | some .unknown | none => none

variable {rule : PercentRule} {c : Context} {rules : List PercentRule} {parts : List Part}
  {seed : Json} {id : RawText} {percentile : Nat}

/-- A rule with a part holds of the clients whose percentiles the part contains. -/
theorem holds_of_part? {part : Part} (h : rule.part? = some part) (hid : c.id = some id)
    (hne : id ≠ "") (hplace : Percentile.ofId rule.seed id = .ok percentile) :
    rule.holds c = .ok (part.contains percentile) := by
  rw [part?] at h
  cases hop : rule.operator with
  | none =>
      rw [hop] at h
      cases h
  | some op =>
      rw [holds_eq_map hid hne hop, hplace]
      rw [hop] at h
      cases op <;> cases h <;> rfl

/-- A rule with a part has a verdict on a client just when the client has a percentile. -/
theorem holds_ok_iff_of_part? {part : Part} (h : rule.part? = some part) (hid : c.id = some id)
    (hne : id ≠ "") :
    (∃ b, rule.holds c = .ok b) ↔ Percentile.Encodable rule.seed id := by
  have hop : rule.operator ≠ none := by
    intro hop
    rw [part?, hop] at h
    cases h
  rw [holds_ok_iff]
  simp [Faults, hop, hid, hne]

theorem exists_part? (hparts : rules.map part? = parts.map some) (hrule : rule ∈ rules) :
    ∃ part, rule.part? = some part := by
  have hmem : rule.part? ∈ parts.map some := hparts ▸ List.mem_map_of_mem hrule
  obtain ⟨part, _, hpart⟩ := List.mem_map.mp hmem
  exact ⟨part, hpart.symm⟩

/-- Under one seed, as many rules hold of a client as there are parts that contain its
percentile. -/
theorem countP_holds (hparts : rules.map part? = parts.map some)
    (hseed : ∀ rule ∈ rules, rule.seed = seed) (hid : c.id = some id) (hne : id ≠ "")
    (hplace : Percentile.ofId seed id = .ok percentile) :
    rules.countP (·.holds c = .ok true) = parts.countP (·.contains percentile) := by
  induction rules generalizing parts with
  | nil =>
      cases parts with
      | nil => rfl
      | cons part parts => cases hparts
  | cons rule rules ih =>
      cases parts with
      | nil => cases hparts
      | cons part parts =>
          rw [List.map_cons, List.map_cons, List.cons.injEq] at hparts
          rw [List.forall_mem_cons] at hseed
          have hfirst := holds_of_part? hparts.1 hid hne (hseed.1 ▸ hplace)
          rw [List.countP_cons, List.countP_cons, ih hparts.2 hseed.2, hfirst]
          simp only [Except.ok.injEq, decide_eq_true_eq]

/-- Rules with parts have a verdict on a client just when the client has a percentile under their
seed. -/
theorem forall_holds_ok_iff (hparts : rules.map part? = parts.map some)
    (hseed : ∀ rule ∈ rules, rule.seed = seed) (hid : c.id = some id) (hne : id ≠ "") :
    ∀ rule ∈ rules, (∃ b, rule.holds c = .ok b) ↔ Percentile.Encodable seed id := by
  intro rule hrule
  obtain ⟨part, hpart⟩ := exists_part? hparts hrule
  rw [holds_ok_iff_of_part? hpart hid hne, hseed rule hrule]

end PercentRule

namespace Condition

open PercentRule

variable {seed : Json} {rules : List PercentRule} {c : Context}

theorem holdsAt_percent (rule : PercentRule) (level : Int) :
    holdsAt c (.percent rule) level = rule.holds c := by
  rw [holdsAt]

/-- Rules for all the parts into which ascending bounds cut the line divide the clients. Of the
rules under one seed exactly one holds of a client with an id, if the seed and the id can be
encoded; if not, none of the rules has a verdict. Of a client without an id none of them holds. -/
theorem cuts_divide_population {b : Int} {bs : List Int} (hb : (b :: bs).IsChain (· ≤ ·))
    (hparts : rules.map part? = (Part.cuts b bs).map some)
    (hseed : ∀ rule ∈ rules, rule.seed = seed) :
    rules.length = bs.length + 2 ∧
      (∀ rule ∈ rules, ∀ level, holdsAt c (.percent rule) level = rule.holds c) ∧
      (∀ id, c.id = some id → id ≠ "" →
        (rules.countP (·.holds c = .ok true) = 1 ↔ Percentile.Encodable seed id) ∧
          ∀ rule ∈ rules, (∃ b, rule.holds c = .ok b) ↔ Percentile.Encodable seed id) ∧
      ((∀ id, c.id = some id → id = "") → ∀ rule ∈ rules, rule.holds c = .ok false) := by
  refine ⟨?_, ?_, ?_, ?_⟩
  · have hlength := congrArg List.length hparts
    rwa [List.length_map, List.length_map, Part.length_cuts] at hlength
  · intro rule _
    exact holdsAt_percent rule
  · intro id hid hne
    have hverdicts := forall_holds_ok_iff hparts hseed hid hne
    refine ⟨?_, hverdicts⟩
    constructor
    · intro hone
      obtain ⟨rule, hrule, hholds⟩ := List.countP_pos_iff.mp (hone ▸ Nat.one_pos)
      exact (hverdicts rule hrule).mp ⟨true, of_decide_eq_true hholds⟩
    · intro hencodable
      obtain ⟨percentile, hplace⟩ := (Percentile.ofId_ok_iff seed id).mpr hencodable
      rw [countP_holds hparts hseed hid hne hplace]
      exact Part.countP_cuts hb _
  · intro hid rule _
    exact holds_of_unidentified hid

/-- A client with an id and without signals. -/
def identified : Context := { id := some "client", signals := [] }

/-- Rules for the bounds -5, 0, 0, 50,000,000 and 200,000,000. One of them gives a limit that its
operator does not look at, and some leave out a bound that is zero. -/
def sixRules : List PercentRule :=
  [{ operator := some .lessOrEqual, limit := some (-5), seed := .str "s", range := none },
    { operator := some .between, limit := none, seed := .str "s"
      range := some { lower := some (-5), upper := none } },
    { operator := some .between, limit := some 7, seed := .str "s", range := none },
    { operator := some .between, limit := none, seed := .str "s"
      range := some { lower := none, upper := some 50000000 } },
    { operator := some .between, limit := none, seed := .str "s"
      range := some { lower := some 50000000, upper := some 200000000 } },
    { operator := some .greaterThan, limit := some 200000000, seed := .str "s", range := none }]

/-- Six rules divide the clients with an id, although two of them have the same bounds on both
sides and two lie outside of the whole population. -/
theorem sixRules_divide :
    ([-5, 0, 0, 50000000, 200000000] : List Int).IsChain (· ≤ ·) ∧
      sixRules.map part? = (Part.cuts (-5) [0, 0, 50000000, 200000000]).map some ∧
      (∀ rule ∈ sixRules, rule.seed = .str "s") ∧
      sixRules.countP (·.holds identified = .ok true) = 1 ∧
      ∀ rule ∈ sixRules, rule.holds { id := some "", signals := [] } = .ok false := by
  have hb : ([-5, 0, 0, 50000000, 200000000] : List Int).IsChain (· ≤ ·) := by decide
  have hparts : sixRules.map part? =
      (Part.cuts (-5) [0, 0, 50000000, 200000000]).map some := rfl
  have hseed : ∀ rule ∈ sixRules, rule.seed = .str "s" := by simp [sixRules]
  obtain ⟨_, _, hverdicts, _⟩ := cuts_divide_population (c := identified) hb hparts hseed
  obtain ⟨_, _, _, hnever⟩ :=
    cuts_divide_population (c := { id := some "", signals := [] }) hb hparts hseed
  obtain ⟨honce, _⟩ := hverdicts "client" rfl (by decide)
  refine ⟨hb, hparts, hseed, honce.mpr ⟨nofun, nofun⟩, hnever ?_⟩
  rintro id ⟨⟩
  rfl

/-- The rules up to the whole population and above it, under a seed. -/
def wholeAndRest (seed : Json) : List PercentRule :=
  [{ operator := some .lessOrEqual, limit := some 100000000, seed := seed, range := none },
    { operator := some .greaterThan, limit := some 100000000, seed := seed, range := none }]

/-- A seed that is read from the escape of one surrogate divides no clients: no rule under it has a
verdict on a client with an id, although the two parts are the whole line. -/
theorem stray_seed_divides_nobody :
    ∃ seed, Json.read "\"\\ud800\"" = .ok seed ∧
      (wholeAndRest seed).map part? = (Part.cuts 100000000 []).map some ∧
      (∀ rule ∈ wholeAndRest seed, ∀ level, holdsAt identified (.percent rule) level =
        .error (.notEncodable ⟨0xd800, by decide⟩ 0 1)) ∧
      (wholeAndRest seed).countP (·.holds identified = .ok true) ≠ 1 := by
  refine ⟨_, rfl, rfl, ?_, by decide⟩
  intro rule hrule level
  rw [wholeAndRest, List.mem_pair] at hrule
  rw [holdsAt_percent]
  rcases hrule with rfl | rfl
  · rfl
  · rfl

/-- Of the rules for the gaps between bounds from zero to the whole population, under one seed,
exactly one holds of a client, unless its percentile is zero: then none does. A client has a
percentile if the seed and the id can be encoded, and otherwise none of the rules has a verdict. -/
theorem gaps_cover_all_but_first {bs : List Int} (hb : (0 :: bs).IsChain (· ≤ ·))
    (hlast : bs.getLastD 0 = Percentile.parts)
    (hparts : rules.map part? = (Part.gaps 0 bs).map some)
    (hseed : ∀ rule ∈ rules, rule.seed = seed) {id : RawText} (hid : c.id = some id)
    (hne : id ≠ "") :
    (∀ rule ∈ rules, ∀ level, holdsAt c (.percent rule) level = rule.holds c) ∧
      (∀ rule ∈ rules, (∃ b, rule.holds c = .ok b) ↔ Percentile.Encodable seed id) ∧
      ((∃ percentile, Percentile.ofId seed id = .ok percentile) ↔ Percentile.Encodable seed id) ∧
      ∀ percentile, Percentile.ofId seed id = .ok percentile →
        rules.countP (·.holds c = .ok true) = if percentile = 0 then 0 else 1 := by
  refine ⟨?_, forall_holds_ok_iff hparts hseed hid hne, Percentile.ofId_ok_iff seed id, ?_⟩
  · intro rule _
    exact holdsAt_percent rule
  · intro percentile hplace
    have hlt := Percentile.lt_of_ofId hplace
    rw [countP_holds hparts hseed hid hne hplace, Part.countP_gaps hb, hlast]
    split_ifs <;> omega

/-- The two halves of the population, without a seed. -/
def halves : List PercentRule :=
  [{ operator := some .between, limit := none, seed := .null
     range := some { lower := some 0, upper := some 50000000 } },
    { operator := some .between, limit := none, seed := .null
      range := some { lower := some 50000000, upper := some 100000000 } }]

/-- A client is in one half of the population. -/
theorem halves_cover_client :
    ([0, 50000000, 100000000] : List Int).IsChain (· ≤ ·) ∧
      halves.map part? = (Part.gaps 0 [50000000, 100000000]).map some ∧
      (∀ rule ∈ halves, rule.seed = .null) ∧
      halves.countP (·.holds identified = .ok true) = 1 := by
  have hb : ([0, 50000000, 100000000] : List Int).IsChain (· ≤ ·) := by decide
  have hparts : halves.map part? = (Part.gaps 0 [50000000, 100000000]).map some := rfl
  have hseed : ∀ rule ∈ halves, rule.seed = .null := by simp [halves]
  obtain ⟨percentile, hplace, hne⟩ :
      ∃ percentile, Percentile.ofId .null "client" = .ok percentile ∧ percentile ≠ 0 :=
    ⟨_, rfl, by decide +kernel⟩
  obtain ⟨_, _, _, hcount⟩ := gaps_cover_all_but_first
    (c := identified) hb rfl hparts hseed rfl (by decide)
  exact ⟨hb, hparts, hseed, (hcount percentile hplace).trans (if_neg hne)⟩

/-- The range from zero to the whole population, without a seed. -/
def whole : PercentRule :=
  { operator := some .between, limit := none, seed := .null
    range := some { lower := some 0, upper := some 100000000 } }

/-- A client whose percentile without a seed is zero. -/
def zeroth : Context := { id := some "client-33753125", signals := [] }

/-- The range from zero to the whole population, which is the only gap between these two bounds,
leaves a client out. -/
theorem whole_leaves_out_zeroth :
    [whole].map part? = (Part.gaps 0 [(Percentile.parts : Int)]).map some ∧
      (∀ level, holdsAt zeroth (.percent whole) level = .ok false) ∧
      [whole].countP (·.holds zeroth = .ok true) ≠ 1 := by
  have hzero : Percentile.ofId .null "client-33753125" = .ok 0 := by decide +kernel
  have hparts : whole.part? = some (.between 0 Percentile.parts) := rfl
  have hfalse : whole.holds zeroth = .ok false := holds_of_part? hparts rfl (by decide) hzero
  refine ⟨rfl, fun level => ?_, ?_⟩
  · rw [holdsAt_percent, hfalse]
  · rw [List.countP_singleton, hfalse]
    decide

end Condition

end Rollout
