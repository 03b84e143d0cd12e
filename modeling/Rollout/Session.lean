import Rollout.Config.Response

/-!
# Sessions

A session holds the defaults of an application, the template that was last accepted, and the
configurations that were evaluated from it. A template is set directly or fetched by a loader.
A step that fails changes none of these.

## Implementation notes

A loader is the list of what its calls deliver; the last delivery repeats. A call is counted and
its delivery used up even when the step then fails.
-/

namespace Rollout

/-- What a call of a loader delivers. -/
inductive Delivery
  | source (j : Json)
  | template (t : Template)
  | failure (f : Failure)
  | mishap (m : Mishap)

/-- The delivery of a loader that reads a template from a value itself. -/
def Delivery.ofData (j : Json) : Delivery :=
  match Template.ofJson j with
  | .ok t => .template t
  | .error (.fault f) => .mishap (.fault f)
  | .error f => .failure f

/-- A loader, by what its calls deliver. -/
structure Loader where
  first : Delivery
  later : List Delivery

namespace Loader

/-- The loader of a list of deliveries, if there is one. -/
def ofList? : List Delivery → Option Loader
  | [] => none
  | d :: rest => some ⟨d, rest⟩

/-- The loader after a call. -/
def advance (loader : Loader) : Loader :=
  match loader.later with
  | [] => loader
  | d :: rest => ⟨d, rest⟩

end Loader

/-- A context as it is handed to an evaluation. -/
inductive ContextSource
  | flat (j : Json)
  | typed (id signals : Json)

/-- The state of a session. -/
structure Session where
  defaults : Defaults
  template : Option Template
  loader : Option Loader
  calls : Nat
  configs : List (String × Config)

/-- Steps of a session. -/
inductive Session.Step
  | set (source : Json)
  | setData (data : Json)
  | load
  | write
  | evaluate (context : ContextSource) (name : String)
  | get (name : String) (keys : List String)
  | size (name : String)
  | respond (name : String) (draw : Nat)

/-- What steps answer. -/
inductive Session.Answer
  | template (t : Template)
  | text (s : String)
  | config (c : Config)
  | values (vs : List Value)
  | size (n : Nat)
  | response (r : Response)

namespace Session

/-- A session that has neither a template nor configurations. -/
def empty (defaults : Defaults) (loader : Option Loader) : Session :=
  { defaults := defaults, template := none, loader := loader, calls := 0, configs := [] }

/-- The session that keeps a template. -/
def keep (s : Session) (t : Template) : Session := { s with template := some t }

/-- The session that has counted a call of its loader and used up the delivery. -/
def countCall (s : Session) (loader : Loader) : Session :=
  { s with loader := some loader.advance, calls := s.calls + 1 }

/-- The template that a delivery brings. What the library itself refuses passes unchanged; every
other trouble becomes a failure of loading. -/
def receive : Delivery → Except Failure Template
  | .source j => Template.ofSource j
  | .template t => .ok t
  | .failure f => .error f
  | .mishap m => .error (.loading m)

/-- Keep a template that was read, and answer it. -/
def accept (s : Session) : Except Failure Template → Session × Except Failure Answer
  | .ok t => (s.keep t, .ok (.template t))
  | .error f => (s, .error f)

/-- Fetch a template by one call of the loader. -/
def load (s : Session) : Session × Except Failure Answer :=
  match s.loader with
  | none => (s, .error (.unready .noLoader))
  | some loader => (s.countCall loader).accept (receive loader.first)

/-- The configuration of the kept template in a context that could be made. -/
def evaluateIn (s : Session) (c : Except Fault Context) : Except Failure Config :=
  match s.template, c with
  | none, _ => .error (.unready .nothingToEvaluate)
  | some _, .error e => .error (.fault e)
  | some t, .ok c =>
    match Config.evaluate s.defaults t c with
    | .error e => .error (.fault e)
    | .ok config => .ok config

/-- The configuration of the kept template. A typed context has to be sound before the session is
asked; a flat one matters only when there is a template. -/
def evaluate (s : Session) : ContextSource → Except Failure Config
  | .flat j => s.evaluateIn (Context.flat j)
  | .typed id signals =>
    match Context.typed id signals with
    | .error e => .error (.fault e)
    | .ok c => s.evaluateIn (.ok c)

/-- The text of the kept template. -/
def write (s : Session) : Except Failure String :=
  match s.template with
  | none => .error (.unready .nothingToWrite)
  | some t => .ok t.render

/-- Keep a configuration under a name, and answer it. -/
def keepConfig (s : Session) (name : String) :
    Except Failure Config → Session × Except Failure Answer
  | .ok c => ({ s with configs := Entries.put s.configs name c }, .ok (.config c))
  | .error f => (s, .error f)

/-- The configuration kept under a name. -/
def config (s : Session) (name : String) : Config :=
  (Entries.find? s.configs name).getD ⟨[]⟩

/-- Carry out a step. -/
def step (s : Session) : Step → Session × Except Failure Answer
  | .set source => s.accept (Template.ofSource source)
  | .setData data => s.accept (Template.ofJson data)
  | .load => s.load
  | .write => (s, s.write.map .text)
  | .evaluate context name => s.keepConfig name (s.evaluate context)
  | .get name keys => (s, .ok (.values (keys.map (s.config name).get)))
  | .size name => (s, .ok (.size (s.config name).size))
  | .respond name draw => (s, .ok (.response (.ofConfig (s.config name) draw)))

/-- Carry out steps one after the other. The state after each step stands beside its answer. -/
def run (s : Session) : List Step → List (Session × Except Failure Answer)
  | [] => []
  | x :: rest =>
    let after := s.step x
    after :: after.1.run rest

/-- Begin a session with the defaults that a value declares and, if one is given, a template. -/
def start (defaults template : Json) (loader : Option Loader) : Except Failure Session :=
  match Defaults.ofJson defaults with
  | .error e => .error (.fault e)
  | .ok defaults =>
    let s := empty defaults loader
    match template with
    | .null => .ok s
    | source =>
      match Template.ofSource source with
      | .error f => .error f
      | .ok t => .ok (s.keep t)

/-- Begin a session by fetching a template. -/
def startLoaded (defaults : Json) (loader : Option Loader) : Except Failure Session :=
  match start defaults .null loader with
  | .error f => .error f
  | .ok s =>
    match s.load with
    | (s, .ok _) => .ok s
    | (_, .error f) => .error f

end Session

end Rollout
