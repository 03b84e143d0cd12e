import Rollout.Proofs.Condition.Faults
import Rollout.Session

/-!
# When an evaluation gives a configuration

A template is evaluated in a context that is not given, given as one object, or given as an id and
signals. Such a context can always be made, so an evaluation fails only through the verdicts on
the declared conditions.
-/

namespace Rollout

/-- The context that is made of what was handed to an evaluation. -/
def ContextSource.made : ContextSource → Except Fault Context
  | .flat j => Context.flat j
  | .typed id signals => Context.typed id signals

/-- The contexts that an application hands over: none, an object of signals, or an id and an
object of signals. -/
inductive PlainContext
  | missing
  | object (signals : List (String × Json))
  | typed (id : Option RawText) (signals : List (String × Json))

namespace PlainContext

/-- The context as it is handed to an evaluation. -/
def source : PlainContext → ContextSource
  | .missing => .flat .null
  | .object signals => .flat (.obj signals)
  | .typed none signals => .typed .null (.obj signals)
  | .typed (some id) signals => .typed (.ofRaw id) (.obj signals)

/-- What is known about the client. -/
def context : PlainContext → Context
  | .missing => .ofSignals []
  | .object signals => .ofSignals (.ofMembers signals)
  | .typed id signals => { id := id, signals := .ofMembers signals }

end PlainContext

theorem Signals.ofJson_obj (members : List (String × Json)) :
    Signals.ofJson (.obj members) = .ok (.ofMembers members) := by
  cases members <;> rfl

theorem Context.readId_ofRaw (id : RawText) : readId (.ofRaw id) = some id := by
  have hnull : (Json.ofRaw id).isNull = false := by cases id <;> rfl
  simp [readId, hnull]

theorem PlainContext.source_made (p : PlainContext) : p.source.made = .ok p.context := by
  cases p with
  | missing => rfl
  | object signals =>
      simp only [source, ContextSource.made, Context.flat, Signals.ofJson_obj]
      rfl
  | typed id signals =>
      cases id with
      | none =>
          simp only [source, ContextSource.made, Context.typed, Signals.ofJson_obj]
          rfl
      | some id =>
          simp only [source, ContextSource.made, Context.typed, Signals.ofJson_obj,
            Context.readId_ofRaw]
          rfl

theorem Config.evaluate_ok_iff (defaults : Defaults) (t : Template) (c : Context) :
    (∃ config, evaluate defaults t c = .ok config) ↔
      ∀ named ∈ t.conditions, ¬ named.condition.Faults c 0 := by
  rw [← Verdicts.extend_ok_iff c []]
  cases h : Verdicts.extend c [] t.conditions <;> simp [evaluate, Verdicts.ofConditions, h]

theorem Config.evaluates_iff (defaults : Defaults) (t : Template) (c : Context) :
    (∃ config, evaluate defaults t c = .ok config) ↔
      ∀ named ∈ t.conditions, ∃ b, named.condition.holds c = .ok b := by
  rw [evaluate_ok_iff]
  apply forall₂_congr
  intro named _
  exact (Condition.holdsAt_ok_iff c named.condition 0).symm

namespace Session

theorem evaluate_of_made (s : Session) {x : ContextSource} {c : Context}
    (h : x.made = .ok c) : s.evaluate x = s.evaluateIn (.ok c) := by
  cases x with
  | flat j => exact congrArg s.evaluateIn h
  | typed id signals =>
      change Context.typed id signals = .ok c at h
      simp only [evaluate, h]

theorem evaluate_keep_iff (s : Session) (t : Template) {context : ContextSource} {c : Context}
    (hmade : context.made = .ok c) (config : Config) :
    (s.keep t).evaluate context = .ok config ↔ Config.evaluate s.defaults t c = .ok config := by
  rw [evaluate_of_made _ hmade]
  simp only [evaluateIn, keep]
  cases Config.evaluate s.defaults t c <;> simp

theorem evaluated_of_evaluate {s : Session} {x : ContextSource} {config : Config}
    (h : s.evaluate x = .ok config) : ∃ t c, Config.evaluate s.defaults t c = .ok config := by
  have hin : ∃ c, s.evaluateIn c = .ok config := by
    cases x with
    | flat j => exact ⟨_, h⟩
    | typed id signals =>
        rw [evaluate] at h
        split at h
        · cases h
        · exact ⟨_, h⟩
  obtain ⟨c, hc⟩ := hin
  unfold evaluateIn at hc
  split at hc
  · cases hc
  · cases hc
  · rename_i t c' _
    split at hc
    · cases hc
    · rename_i hevaluate
      exact ⟨t, c', Except.ok.inj hc ▸ hevaluate⟩

end Session

end Rollout
