import Rollout.Condition.Reader
import Rollout.Json.Writer
import Rollout.Template.Parameter

/-!
# Templates

A template declares conditions, in the order of their priority, and parameters. It keeps the
value that it was read from, so that it can be handed on with everything that the reader does
not look at.
-/

namespace Rollout

/-- Parameters in order. -/
abbrev Parameters := List (String × Parameter)

/-- A template and the value that it was read from. -/
structure Template where
  conditions : List NamedCondition
  parameters : Parameters
  parameterGroups : Json
  version : Json
  etag : String
  source : Json
  deriving Repr

namespace Template

/-- The parameters of an object. -/
def readParameters : List (String × Json) → Except Failure Parameters
  | [] => .ok []
  | (key, j) :: rest =>
    match Parameter.ofJson key j with
    | .error e => .error (.rejected e)
    | .ok parameter =>
      match readParameters rest with
      | .error e => .error e
      | .ok parameters => .ok ((key, parameter) :: parameters)

/-- The condition that an entry of a list declares; an entry must have a name. -/
def readCondition (j : Json) : Except Failure NamedCondition :=
  match (j.field "name").text? with
  | some name =>
    match Condition.ofJson (j.field "condition") with
    | .error e => .error (.fault e)
    | .ok condition => .ok { name := name, condition := condition }
  | none => .error (.rejected (.unnamedCondition j))

/-- The conditions that a list declares. -/
def readConditions : List Json → Except Failure (List NamedCondition)
  | [] => .ok []
  | j :: rest =>
    match readCondition j with
    | .error e => .error e
    | .ok condition =>
      match readConditions rest with
      | .error e => .error e
      | .ok conditions => .ok (condition :: conditions)

/-- The parameters of a template, of which there are none if it does not mention any. -/
def parametersOf (j : Json) : Except Failure Parameters :=
  match j.field? "parameters" with
  | none => .ok []
  | some (.obj members) => readParameters members
  | some _ => .error (.rejected .parametersNotObject)

/-- The conditions of a template, of which there are none if it does not mention any. -/
def conditionsOf (j : Json) : Except Failure (List NamedCondition) :=
  match j.field? "conditions" with
  | none => .ok []
  | some (.arr items) => readConditions items
  | some .null => .error (.rejected .conditionsNull)
  | some _ => .error (.rejected .conditionsNotArray)

/-- The groups of parameters, an empty object unless they are set. -/
def groupsOf (j : Json) : Json :=
  let groups := j.field "parameterGroups"
  if groups.isSet then groups else .obj []

/-- The tag of a template, which is a text or else empty. -/
def tagOf (j : Json) : String := (j.field "etag").text?.getD ""

/-- The template that a value describes. -/
def ofJson (j : Json) : Except Failure Template :=
  match j with
  | .obj _ =>
    match parametersOf j with
    | .error e => .error e
    | .ok parameters =>
      match conditionsOf j with
      | .error e => .error e
      | .ok conditions =>
        .ok
          { conditions := conditions
            parameters := parameters
            parameterGroups := groupsOf j
            version := (j.field? "version").getD (.str "")
            etag := tagOf j
            source := j }
  | _ => .error (.rejected .notObject)

/-- The template that a text describes in JSON. -/
def ofText (text : String) : Except Failure Template :=
  match Json.read text with
  | .error e => .error (.rejected (.unreadable e))
  | .ok j => ofJson j

/-- The template that the JSON in a value describes, which has to be a text. -/
def parse (j : Json) : Except Failure Template :=
  match j.text? with
  | some text => ofText text
  | none => .error (.rejected (.notText j.kind))

/-- The template that a source describes: a text in JSON or a value that was read from one. -/
def ofSource (j : Json) : Except Failure Template :=
  match j.text? with
  | some text => ofText text
  | none => ofJson j

/-- The text of a template, from which it can be read again. -/
def render (t : Template) : String := t.source.render

end Template

end Rollout
