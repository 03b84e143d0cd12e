import Rollout.Proofs.Condition.Dependence
import Rollout.Proofs.Context.Lookup

/-!
# What of a context matters to an evaluation

An evaluation reads the id of a context and the signals for which the conditions of the template
ask, and nothing else: two contexts that agree on these are answered alike, whether they were given
flat or typed. The two forms of one client agree on every signal, also on the one under the key of
the id.
-/

namespace Rollout

open Entries

/-- The keys of the signals for which the conditions of a template ask. -/
def Template.asked (t : Template) : List String :=
  t.conditions.flatMap fun named => named.condition.asked

theorem Config.evaluate_congr {c c' : Context} {t : Template} (hid : c.id = c'.id)
    (hget : ∀ key ∈ t.asked, c.get key = c'.get key) (defaults : Defaults) :
    evaluate defaults t c = evaluate defaults t c' := by
  have hverdicts : Verdicts.extend c [] t.conditions = Verdicts.extend c' [] t.conditions := by
    apply Verdicts.extend_congr
    rw [List.forall₂_same]
    intro named hnamed
    refine ⟨rfl, Condition.holdsAt_congr_of_asked hid (fun key hkey => ?_) 0⟩
    exact hget key (List.mem_flatMap_of_mem hnamed hkey)
  rw [evaluate, evaluate, Verdicts.ofConditions, Verdicts.ofConditions, hverdicts]

/-! ## The two forms of a context -/

namespace PlainContext

open Context

variable {signals : List (String × Json)}

theorem typed_get_eq_put (hkey : idKey ∉ keys signals) (id : Option RawText) (key : String) :
    (typed id signals).context.get key =
      (object (put signals idKey (idValue id))).context.get key := by
  rw [typed_get, object_get, Json.field, find?_put]
  by_cases h : key = idKey
  · subst h
    simp [(find?_eq_none_iff signals idKey).2 hkey]
  · rw [if_neg h, if_neg (by simpa using Ne.symm h)]

theorem typed_id_eq_put (id : Option RawText) :
    (typed id signals).context.id = (object (put signals idKey (idValue id))).context.id := by
  rw [object_id, Json.field, find?_put_self, Option.getD_some, readId_idValue, context]

theorem typed_get_eq_object (key : String) :
    (typed none signals).context.get key = (object signals).context.get key := by
  rw [typed_get, object_get, Json.field, idValue, ite_self]

theorem typed_id_eq_object (hkey : idKey ∉ keys signals) :
    (typed none signals).context.id = (object signals).context.id := by
  rw [object_id, Json.field, (find?_eq_none_iff signals idKey).2 hkey, context, Option.getD_none,
    readId_null]

end PlainContext

namespace Session

variable (s : Session)

theorem evaluate_congr {x x' : ContextSource} {c c' : Context} (hx : x.made = .ok c)
    (hx' : x'.made = .ok c') (hid : c.id = c'.id)
    (hget : ∀ t, s.template = some t → ∀ key ∈ t.asked, c.get key = c'.get key) :
    s.evaluate x = s.evaluate x' := by
  rw [evaluate_of_made s hx, evaluate_of_made s hx']
  cases ht : s.template with
  | none => simp only [evaluateIn, ht]
  | some t => simp only [evaluateIn, ht, Config.evaluate_congr hid (hget t ht)]

/-- A session answers two contexts alike when their ids are equal and so are the signals for which
its template asks. In particular a typed context is answered like the flat one in which its id is
put beside its signals, and like its signals alone when it has no id. -/
theorem evaluation_reads_what_is_asked :
    (∀ (x x' : ContextSource) (c c' : Context), x.made = .ok c → x'.made = .ok c' → c.id = c'.id →
        (∀ t, s.template = some t → ∀ key ∈ t.asked, c.get key = c'.get key) →
          s.evaluate x = s.evaluate x') ∧
      ∀ signals : List (String × Json), Context.idKey ∉ keys signals →
        (∀ id, s.evaluate (PlainContext.typed id signals).source =
          s.evaluate
            (PlainContext.object (put signals Context.idKey (Context.idValue id))).source) ∧
        s.evaluate (PlainContext.typed none signals).source =
          s.evaluate (PlainContext.object signals).source := by
  refine ⟨fun x x' c c' => s.evaluate_congr, fun signals hkey => ⟨fun id => ?_, ?_⟩⟩
  · apply s.evaluate_congr (PlainContext.source_made _) (PlainContext.source_made _)
    · exact PlainContext.typed_id_eq_put id
    · exact fun t _ key _ => PlainContext.typed_get_eq_put hkey id key
  · apply s.evaluate_congr (PlainContext.source_made _) (PlainContext.source_made _)
    · exact PlainContext.typed_id_eq_object hkey
    · exact fun t _ key _ => PlainContext.typed_get_eq_object key

/-- A template whose only condition compares the id as if it were a signal. -/
def idAsSignal : Json :=
  .obj [("conditions", .arr [.obj [("name", .str "c"), ("condition", .obj [("customSignal", .obj
      [("customSignalOperator", .str "STRING_EXACTLY_MATCHES"),
        ("customSignalKey", .str "randomization_id"),
        ("targetCustomSignalValues", .arr [.str "r"])])])]]),
    ("parameters", .obj [("p", .obj [("conditionalValues", .obj [("c", .obj
      [("value", .str "hit")])])])])]

/-- The comparison of the id. -/
def isR : Signal.Rule :=
  { operator := some (.text .equals), key := some "randomization_id", targets := ["r"] }

/-- The members of a flat context with an id and a country. -/
def clientIn (country : String) : List (String × Json) :=
  [("country", .str country), ("randomization_id", .str "r")]

/-- A template that asks for the id as a signal answers clients in two countries alike, and a client
that is given typed like the flat one. -/
theorem id_as_signal_is_found :
    ∃ t config, Template.ofSource idAsSignal = .ok t ∧ t.asked = ["randomization_id"] ∧
      ((empty [] none).keep t).evaluate (PlainContext.object (clientIn "DE")).source = .ok config ∧
      config.get "p" = .ofText .remote "hit" ∧
      ((empty [] none).keep t).evaluate (PlainContext.object (clientIn "FR")).source = .ok config ∧
      ((empty [] none).keep t).evaluate
        (PlainContext.typed (some "r") [("country", .str "DE")]).source = .ok config := by
  obtain ⟨t, config, ht, hconditions, hconfig, hvalue⟩ :
      ∃ t config, Template.ofSource idAsSignal = .ok t ∧ t.conditions = [⟨"c", .signal isR⟩] ∧
        ((empty [] none).keep t).evaluate (PlainContext.object (clientIn "DE")).source =
          .ok config ∧ config.get "p" = .ofText .remote "hit" :=
    ⟨_, _, rfl, rfl, rfl, rfl⟩
  have hasked : t.asked = ["randomization_id"] := by
    simp [Template.asked, hconditions, Condition.asked, Condition.comparisons, isR]
  have hreads := evaluation_reads_what_is_asked ((empty [] none).keep t)
  have hkey : Context.idKey ∉ keys [("country", Json.str "DE")] := by decide
  refine ⟨t, config, ht, hasked, hconfig, hvalue, ?_, ?_⟩
  · rw [← hconfig]
    refine hreads.1 _ _ _ _ (PlainContext.source_made _) (PlainContext.source_made _) rfl ?_
    intro t' ht' key hk
    obtain rfl := Option.some.inj ht'
    rw [hasked, List.mem_singleton] at hk
    subst hk
    rfl
  · exact ((hreads.2 _ hkey).1 (some "r")).trans hconfig

end Session

end Rollout
