import Mathlib.Logic.Function.Iterate
import Rollout.Proofs.Config.Totality

/-!
# What a history leaves in a session

A history is the list of the steps that a session has carried out. It matters only through the
template that was accepted last: a step that fails leaves no trace but the call of a loader, and
what is written or evaluated is what a session would answer that holds this template and has done
nothing else.

## Implementation notes

The templates that a history accepts are read off the steps and the number of calls alone, not
off the states in between. A step lemma says what one step makes of the template and the loader,
and the induction over the history is on the steps, for all states to begin with.
-/

namespace Rollout

/-! ## Loaders -/

namespace Loader

/-- What a call delivers after `n` others; the last delivery repeats. -/
def delivery (loader : Loader) (n : Nat) : Delivery :=
  (loader.first :: loader.later).getD n (loader.later.getLastD loader.first)

theorem delivery_advance (loader : Loader) (n : Nat) :
    loader.advance.delivery n = loader.delivery (n + 1) := by
  obtain ⟨first, later⟩ := loader
  cases later with
  | nil => cases n <;> rfl
  | cons d rest =>
      simp only [delivery, advance, List.getLastD_cons, List.getD_cons_succ]

theorem delivery_iterate_advance (loader : Loader) (k n : Nat) :
    (advance^[k] loader).delivery n = loader.delivery (n + k) := by
  induction k generalizing loader with
  | zero => rfl
  | succ k ih =>
      rw [Function.iterate_succ_apply, ih, delivery_advance]
      rfl

end Loader

/-- A context can be handed to an evaluation: a typed one has to be made before. -/
def ContextSource.Handed : ContextSource → Prop
  | .flat _ => True
  | .typed id signals => ∃ c, Context.typed id signals = .ok c

namespace Session

/-! ## Histories -/

/-- Recognise a step that calls the loader. -/
def Step.isLoad : Step → Bool
  | .load => true
  | _ => false

/-- The number of calls of the loader in a history. -/
def loads (steps : List Step) : Nat := steps.countP Step.isLoad

/-- The template that a step brings after `n` calls of the loader, if it brings an acceptable
one. -/
def given? (loader : Option Loader) (n : Nat) : Step → Option Template
  | .set source => (Template.ofSource source).toOption
  | .setData data => (Template.ofJson data).toOption
  | .load => loader.bind fun l => (receive (l.delivery n)).toOption
  | _ => none

/-- The templates that a history accepts after `n` calls of the loader. -/
def accepted (loader : Option Loader) : Nat → List Step → List Template
  | _, [] => []
  | n, x :: rest => (given? loader n x).toList ++ accepted loader (n + loads [x]) rest

/-- The template that a history accepts last. -/
def latest (loader : Option Loader) (history : List Step) : Option Template :=
  (accepted loader 0 history).getLast?

/-- The state after a history. -/
def after (s : Session) (steps : List Step) : Session :=
  steps.foldl (fun s x => (s.step x).1) s

theorem after_cons (s : Session) (x : Step) (rest : List Step) :
    s.after (x :: rest) = (s.step x).1.after rest := rfl

theorem after_append (s : Session) (steps rest : List Step) :
    s.after (steps ++ rest) = (s.after steps).after rest :=
  List.foldl_append

theorem loads_cons (x : Step) (rest : List Step) :
    loads (x :: rest) = loads rest + loads [x] := by
  simp [loads, List.countP_cons]

theorem given?_iterate (loader : Option Loader) (k n : Nat) (x : Step) :
    given? (loader.map Loader.advance^[k]) n x = given? loader (n + k) x := by
  cases x with
  | load => cases loader <;> simp [given?, Loader.delivery_iterate_advance]
  | _ => rfl

theorem accepted_iterate (loader : Option Loader) (k n : Nat) (steps : List Step) :
    accepted (loader.map Loader.advance^[k]) n steps = accepted loader (n + k) steps := by
  induction steps generalizing n with
  | nil => rfl
  | cons x rest ih => rw [accepted, accepted, given?_iterate, ih, Nat.add_right_comm]

/-! ## One step -/

theorem accept_state (s : Session) (r : Except Failure Template) :
    (s.accept r).1 = { s with template := r.toOption.or s.template } := by
  cases r <;> rfl

theorem accept_answer_iff (s : Session) (r : Except Failure Template) (t : Template) :
    (s.accept r).2 = .ok (.template t) ↔ r.toOption = some t := by
  cases r <;> simp [accept, Except.toOption]

theorem keepConfig_eq (s : Session) (name : String) (r : Except Failure Config) :
    (s.keepConfig name r).1 = { s with configs := (s.keepConfig name r).1.configs } := by
  cases r <;> rfl

/-- The state after a step: the template is replaced if the step brings one, and the loader is
called if there is one to be called. -/
theorem step_state (s : Session) (x : Step) :
    (s.step x).1 =
      { defaults := s.defaults
        template := (given? s.loader 0 x).or s.template
        loader := s.loader.map Loader.advance^[loads [x]]
        calls := s.calls + if s.loader.isSome then loads [x] else 0
        configs := (s.step x).1.configs } := by
  cases x with
  | load =>
      obtain ⟨defaults, template, loader, calls, configs⟩ := s
      cases loader with
      | none => rfl
      | some l =>
          simp [step, load, accept_state, countCall, given?, loads, Step.isLoad, Loader.delivery]
  | evaluate context name =>
      rw [step, keepConfig_eq]
      simp [given?, loads, Step.isLoad]
  | _ => simp [step, accept_state, given?, loads, Step.isLoad]

theorem step_configs (s : Session) (x : Step) :
    (s.step x).1.configs = match x with
      | .evaluate context name => (s.keepConfig name (s.evaluate context)).1.configs
      | _ => s.configs := by
  cases x with
  | load => cases hl : s.loader <;> simp [step, load, hl, accept_state, countCall]
  | _ => simp [step, accept_state]

/-- The steps that answer a template are those that bring an acceptable one. -/
theorem step_answer_iff (s : Session) (x : Step) (t : Template) :
    (s.step x).2 = .ok (.template t) ↔ given? s.loader 0 x = some t := by
  cases x with
  | set source => exact s.accept_answer_iff _ t
  | setData data => exact s.accept_answer_iff _ t
  | load =>
      cases hl : s.loader with
      | none => simp [step, load, hl, given?]
      | some l =>
          simp only [step, load, hl, accept_answer_iff]
          rfl
  | write => cases hw : s.write <;> simp [step, hw, Except.map, given?]
  | evaluate context name =>
      cases hr : s.evaluate context <;> simp [step, hr, keepConfig, given?]
  | _ => simp [step, given?]

/-- A kept configuration is changed by nothing but an evaluation under its name. -/
theorem step_config (s : Session) (x : Step) (name : String)
    (h : ∀ context, x ≠ .evaluate context name) : (s.step x).1.config name = s.config name := by
  rw [config, step_configs]
  cases x with
  | evaluate context other =>
      have hne : other ≠ name := fun he => h context (he ▸ rfl)
      cases hr : s.evaluate context with
      | error f => simp [hr, keepConfig, config]
      | ok c => simp [hr, keepConfig, config, Entries.find?_put, hne]
  | _ => rfl

/-- A step that fails changes neither the template nor the defaults nor a configuration. -/
theorem step_error {s : Session} {x : Step} {f : Failure} (h : (s.step x).2 = .error f) :
    (s.step x).1.template = s.template ∧ (s.step x).1.defaults = s.defaults ∧
      (s.step x).1.configs = s.configs := by
  have hgiven : given? s.loader 0 x = none := by
    rw [Option.eq_none_iff_forall_ne_some]
    intro t ht
    rw [(s.step_answer_iff x t).2 ht] at h
    cases h
  have hconfigs : (s.step x).1.configs = s.configs := by
    rw [step_configs]
    cases x with
    | evaluate context name =>
        cases hr : s.evaluate context with
        | error f => simp [hr, keepConfig]
        | ok c => simp [step, hr, keepConfig] at h
    | _ => rfl
  rw [step_state, hgiven, Option.none_or]
  exact ⟨rfl, rfl, hconfigs⟩

/-! ## A whole history -/

theorem after_loader (s : Session) (steps : List Step) :
    (s.after steps).loader = s.loader.map Loader.advance^[loads steps] := by
  induction steps generalizing s with
  | nil => simp [after, loads]
  | cons x rest ih =>
      rw [after_cons, ih, step_state, Option.map_map, loads_cons x rest, Function.iterate_add]

theorem after_calls (s : Session) (steps : List Step) :
    (s.after steps).calls = s.calls + if s.loader.isSome then loads steps else 0 := by
  induction steps generalizing s with
  | nil => simp [after, loads]
  | cons x rest ih =>
      rw [after_cons, ih, step_state, loads_cons x rest]
      cases s.loader with
      | none => rfl
      | some l => simp [Nat.add_comm, Nat.add_left_comm]

theorem after_defaults (s : Session) (steps : List Step) :
    (s.after steps).defaults = s.defaults := by
  induction steps generalizing s with
  | nil => rfl
  | cons x rest ih => rw [after_cons, ih, step_state]

theorem after_template (s : Session) (steps : List Step) :
    (s.after steps).template = (latest s.loader steps).or s.template := by
  induction steps generalizing s with
  | nil => rfl
  | cons x rest ih =>
      have hgiven : (given? s.loader 0 x).toList.getLast? = given? s.loader 0 x := by
        cases given? s.loader 0 x <;> rfl
      rw [after_cons, ih, step_state, latest, latest, accepted, accepted_iterate,
        List.getLast?_append, hgiven, Option.or_assoc]

theorem run_getElem? (s : Session) (steps rest : List Step) (x : Step) :
    (s.run (steps ++ x :: rest))[steps.length]? = some ((s.after steps).step x) := by
  induction steps generalizing s with
  | nil => rfl
  | cons y steps ih => exact ih (s.step y).1

/-! ## What a session answers -/

/-- The answer to an evaluation of a template. -/
def answer (defaults : Defaults) (t : Template) (x : ContextSource) : Except Failure Answer :=
  match x.made.bind (Config.evaluate defaults t) with
  | .error e => .error (.fault e)
  | .ok config => .ok (.config config)

/-- The session after a call of its loader. -/
def called (s : Session) : Session :=
  { s with loader := s.loader.map Loader.advance, calls := s.calls + 1 }

/-- What a session makes of a delivery: a source is set, a template is kept as it is, a failure
passes unchanged, and a mishap becomes a failure of loading. -/
def fetch (s : Session) : Delivery → Session × Except Failure Answer
  | .source j => s.step (.set j)
  | .template t => (s.keep t, .ok (.template t))
  | .failure f => (s, .error f)
  | .mishap m => (s, .error (.loading m))

theorem step_write (s : Session) :
    s.step .write = (s, match s.template with
      | none => .error (.unready .nothingToWrite)
      | some t => .ok (.text t.render)) := by
  cases h : s.template <;> simp [step, write, h, Except.map]

theorem step_evaluate (s : Session) {x : ContextSource} (hx : x.Handed) (name : String) :
    (s.step (.evaluate x name)).2 =
      match s.template with
      | none => .error (.unready .nothingToEvaluate)
      | some t => answer s.defaults t x := by
  have hin : s.evaluate x = s.evaluateIn x.made := by
    cases x with
    | flat j => rfl
    | typed id signals =>
        obtain ⟨c, hc⟩ := hx
        rw [evaluate_of_made (x := .typed id signals) s hc]
        exact congrArg s.evaluateIn hc.symm
  cases ht : s.template with
  | none => simp [step, hin, evaluateIn, ht, keepConfig]
  | some t =>
      cases hm : x.made with
      | error e => simp [step, hin, evaluateIn, ht, hm, keepConfig, answer, Except.bind]
      | ok c =>
          cases he : Config.evaluate s.defaults t c <;>
            simp [step, hin, evaluateIn, ht, hm, he, keepConfig, answer, Except.bind]

theorem step_evaluate_of_not_handed (s : Session) {x : ContextSource} (hx : ¬ x.Handed)
    (name : String) :
    ∃ e, x.made = .error e ∧ s.step (.evaluate x name) = (s, .error (.fault e)) := by
  cases x with
  | flat j => exact absurd trivial hx
  | typed id signals =>
      cases hc : Context.typed id signals with
      | ok c => exact absurd ⟨c, hc⟩ hx
      | error e => exact ⟨e, hc, by simp [step, evaluate, hc, keepConfig]⟩

theorem step_load (s : Session) :
    s.step .load = match s.loader with
      | none => (s, .error (.unready .noLoader))
      | some loader => s.called.fetch loader.first := by
  cases hl : s.loader with
  | none => simp [step, load, hl]
  | some loader =>
      have hcalled : s.countCall loader = s.called := by
        simp [countCall, called, hl]
      simp only [step, load, hl, hcalled]
      cases loader.first <;> rfl

/-- What a session with given defaults and a given loader is after a history, and what it answers
to the next step. -/
structure Determined (own : Defaults) (loader : Option Loader) (history : List Step)
    (s : Session) : Prop where
  defaults : s.defaults = own
  template : s.template = latest loader history
  calls : s.calls = if loader.isSome then loads history else 0
  accepts : ∀ x t, (s.step x).2 = .ok (.template t) ↔ given? loader (loads history) x = some t
  fails : ∀ x f, (s.step x).2 = .error f →
    (s.step x).1.template = s.template ∧ (s.step x).1.defaults = s.defaults ∧
      (s.step x).1.configs = s.configs
  keeps : ∀ x name, (∀ context, x ≠ .evaluate context name) →
    (s.step x).1.config name = s.config name
  writes : s.step .write = (s, match latest loader history with
    | none => .error (.unready .nothingToWrite)
    | some t => .ok (.text t.render))
  evaluates : ∀ x name, x.Handed →
    (s.step (.evaluate x name)).2 = match latest loader history with
      | none => .error (.unready .nothingToEvaluate)
      | some t => answer own t x
  refuses : ∀ x name, ¬ x.Handed →
    ∃ e, x.made = .error e ∧ s.step (.evaluate x name) = (s, .error (.fault e))
  fetches : s.step .load = match loader with
    | none => (s, .error (.unready .noLoader))
    | some loader => s.called.fetch (loader.delivery (loads history))

theorem determined_after (defaults : Defaults) (loader : Option Loader) (history : List Step) :
    Determined defaults loader history ((empty defaults loader).after history) := by
  have hloader := after_loader (empty defaults loader) history
  have hdefaults := after_defaults (empty defaults loader) history
  have htemplate : ((empty defaults loader).after history).template = latest loader history := by
    rw [after_template]
    exact Option.or_none
  refine
    { defaults := hdefaults
      template := htemplate
      calls := (after_calls _ _).trans (Nat.zero_add _)
      accepts := fun x t => ?_
      fails := fun x f => step_error
      keeps := fun x name => step_config _ x name
      writes := ?_
      evaluates := fun x name hx => ?_
      refuses := fun x name hx => step_evaluate_of_not_handed _ hx name
      fetches := ?_ }
  · rw [step_answer_iff, hloader, given?_iterate, Nat.zero_add]
    rfl
  · rw [step_write, htemplate]
  · rw [step_evaluate _ hx, htemplate, hdefaults]
    rfl
  · rw [step_load, hloader]
    cases loader with
    | none => rfl
    | some loader =>
        have hfirst := loader.delivery_iterate_advance (loads history) 0
        rw [Nat.zero_add] at hfirst
        exact congrArg ((empty defaults (some loader)).after history).called.fetch hfirst

/-! ## How sessions begin -/

/-- A session that was begun with declared defaults, and the steps that this amounts to. A
template that was given is set first, and one may also be loaded first. -/
inductive Opened (declared : Json) (loader : Option Loader) : List Step → Session → Prop
  | plain {s : Session} (h : start declared .null loader = .ok s) : Opened declared loader [] s
  | given {source : Json} {s : Session} (hs : source ≠ .null)
      (h : start declared source loader = .ok s) : Opened declared loader [.set source] s
  | loaded {s : Session} (h : startLoaded declared loader = .ok s) :
      Opened declared loader [.load] s

theorem start_null_ok {declared : Json} {loader : Option Loader} {s : Session}
    (h : start declared .null loader = .ok s) :
    ∃ defaults, Defaults.ofJson declared = .ok defaults ∧ s = empty defaults loader := by
  unfold start at h
  split at h
  · cases h
  · rename_i defaults hd
    cases h
    exact ⟨defaults, hd, rfl⟩

theorem start_given_ok {declared source : Json} {loader : Option Loader} {s : Session}
    (hs : source ≠ .null) (h : start declared source loader = .ok s) :
    ∃ defaults, Defaults.ofJson declared = .ok defaults ∧
      s = (empty defaults loader).after [.set source] := by
  unfold start at h
  split at h
  · cases h
  · rename_i defaults hd
    split at h
    · exact absurd rfl hs
    · split at h
      · cases h
      · rename_i t ht
        cases h
        refine ⟨defaults, hd, ?_⟩
        simp [after, step, ht, accept]

theorem startLoaded_ok {declared : Json} {loader : Option Loader} {s : Session}
    (h : startLoaded declared loader = .ok s) :
    ∃ defaults, Defaults.ofJson declared = .ok defaults ∧
      s = (empty defaults loader).after [.load] := by
  unfold startLoaded at h
  split at h
  · cases h
  · rename_i s' hs
    obtain ⟨defaults, hd, rfl⟩ := start_null_ok hs
    split at h
    · rename_i hload
      cases h
      refine ⟨defaults, hd, ?_⟩
      simp [after, step, hload]
    · cases h

theorem opened_after {declared : Json} {loader : Option Loader} {opening : List Step}
    {s : Session} (h : Opened declared loader opening s) :
    ∃ defaults, Defaults.ofJson declared = .ok defaults ∧
      s = (empty defaults loader).after opening := by
  cases h with
  | plain h => exact start_null_ok h
  | given hs h => exact start_given_ok hs h
  | loaded h => exact startLoaded_ok h

/-- After any steps a session is determined by its defaults, its loader and the template that was
accepted last, and every step of a run answers accordingly. -/
theorem history_determines {declared : Json} {loader : Option Loader} {opening : List Step}
    {s : Session} (h : Opened declared loader opening s) :
    ∃ defaults, Defaults.ofJson declared = .ok defaults ∧
      ∀ steps, Determined defaults loader (opening ++ steps) (s.after steps) ∧
        ∀ x rest, (s.run (steps ++ x :: rest))[steps.length]? = some ((s.after steps).step x) := by
  obtain ⟨defaults, hd, rfl⟩ := opened_after h
  refine ⟨defaults, hd, fun steps => ⟨?_, fun x rest => run_getElem? _ steps rest x⟩⟩
  rw [← after_append]
  exact determined_after defaults loader (opening ++ steps)

/-- A template that was given at the beginning outlasts a step that sets something else and a
load without a loader. -/
theorem given_template_outlasts_failures :
    ∃ t s, Template.ofSource (.obj []) = .ok t ∧ Opened .null none [.set (.obj [])] s ∧
      (s.after [.set (.int 3), .load]).template = some t := by
  have hopened : ∃ t, Template.ofSource (.obj []) = .ok t ∧
      Opened .null none [.set (.obj [])] ((empty [] none).keep t) :=
    ⟨_, rfl, .given nofun rfl⟩
  obtain ⟨t, ht, hopened⟩ := hopened
  obtain ⟨defaults, hd, hdetermined⟩ := history_determines hopened
  refine ⟨t, _, ht, hopened, ?_⟩
  have hlatest : latest none [.set (.obj []), .set (.int 3), .load] =
      (Template.ofSource (.obj [])).toOption := rfl
  calc
    _ = latest none ([.set (.obj [])] ++ [.set (.int 3), .load]) :=
      (hdetermined [.set (.int 3), .load]).1.template
    _ = (Template.ofSource (.obj [])).toOption := hlatest
    _ = some t := by rw [ht, Except.toOption]

end Session

end Rollout
