import Rollout.Failure
import Rollout.Template.ParameterValue

/-!
# Parameters

A parameter has values for conditions, by name, and a default for when none of them holds. The
type of its values is declared for readers of the template and does not affect evaluation.
-/

namespace Rollout

/-- Declared types of parameter values. -/
inductive ParameterType
  | text
  | boolean
  | number
  | json
  | unspecified
  deriving DecidableEq, Repr

namespace ParameterType

/-- The name of a type. -/
def name : ParameterType → String
  | .text => "STRING"
  | .boolean => "BOOLEAN"
  | .number => "NUMBER"
  | .json => "JSON"
  | .unspecified => "PARAMETER_VALUE_TYPE_UNSPECIFIED"

/-- The type that a value names; whatever names none is unspecified. -/
def ofJson : Json → ParameterType
  | .str s =>
    if s == "STRING" then .text
    else if s == "BOOLEAN" then .boolean
    else if s == "NUMBER" then .number
    else if s == "JSON" then .json
    else .unspecified
  | _ => .unspecified

end ParameterType

/-- A parameter of a template. -/
structure Parameter where
  default : Option ParameterValue
  conditional : List (String × ParameterValue)
  valueType : ParameterType
  description : Json
  deriving Repr

namespace Parameter

/-- The conditional values of an object; entries that describe no value are left out. -/
def readConditional : List (String × Json) → List (String × ParameterValue)
  | [] => []
  | (name, j) :: rest =>
    match ParameterValue.ofJson? j with
    | some value => (name, value) :: readConditional rest
    | none => readConditional rest

/-- The object in which conditional values are given; a value that is not set has none. -/
def conditionalMembers (key : String) (j : Json) :
    Except Rejection (List (String × Json)) :=
  if !j.isSet then .ok []
  else
    match j with
    | .obj members => .ok members
    | _ => .error (.conditionalValuesNotObject key)

/-- The parameter of a key that a value describes. -/
def ofJson (key : String) (j : Json) : Except Rejection Parameter :=
  match j with
  | .obj _ =>
    match conditionalMembers key (j.field "conditionalValues") with
    | .error e => .error e
    | .ok members =>
      .ok
        { default := ParameterValue.ofJson? (j.field "defaultValue")
          conditional := readConditional members
          valueType := ParameterType.ofJson (j.field "valueType")
          description := j.field "description" }
  | _ => .error (.parameterNotObject key)

/-- The value for a condition, if the parameter has one. -/
def valueFor? (p : Parameter) (condition : String) : Option ParameterValue :=
  Entries.find? p.conditional condition

end Parameter

end Rollout
