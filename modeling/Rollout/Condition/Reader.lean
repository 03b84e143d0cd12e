import Rollout.Condition.Basic

/-!
# Reading conditions

An object is a condition by the first of the known keys that it sets to something other than
null. Whatever has another shape is kept as an unrecognised condition, so that reading refuses
nothing.

## Implementation notes

The functions that look up the payload of a key go through the members themselves, which keeps
the recursion structural.
-/

namespace Rollout.Condition

/-- The operator of a signal rule: a name that is not recognised is unknown, and a value that is
not set is no operator. -/
def readOperator (j : Json) : Option Signal.Operator :=
  if !j.isSet then none
  else
    match j with
    | .str s => some ((Signal.Operator.ofName? s).getD .unknown)
    | _ => some .unknown

/-- The targets of a signal rule: a list of values or a single text. -/
def readTargets (j : Json) : Option (List String) :=
  if !j.isSet then some []
  else
    match j with
    | .str s => some [s]
    | .stray t => some [t.shown]
    | .arr items => some (items.map Json.displayText)
    | _ => none

/-- The key of a signal rule. -/
def readKey (j : Json) : Option String := j.text?

/-- The signal rule that a payload describes. -/
def readSignal (j : Json) : Condition :=
  match j with
  | .obj _ =>
    match readTargets (j.field "targetCustomSignalValues") with
    | some targets =>
      .signal
        { operator := readOperator (j.field "customSignalOperator")
          key := readKey (j.field "customSignalKey")
          targets := targets }
    | none => .unrecognized (.obj [("customSignal", j)])
  | j => .unrecognized (.obj [("customSignal", j)])

/-- The percent rule that a payload describes. -/
def readPercent (j : Json) : Except Fault Condition :=
  match j with
  | .obj _ =>
    match PercentRule.ofJson j with
    | .ok rule => .ok (.percent rule)
    | .error e => .error e
  | j => .ok (.unrecognized (.obj [("percent", j)]))

/-- The condition that an object without combining keys describes. -/
def readLeaf (j : Json) : Except Fault Condition :=
  if !(j.field "true").isNull then .ok .always
  else if !(j.field "false").isNull then .ok .never
  else if !(j.field "percent").isNull then readPercent (j.field "percent")
  else if !(j.field "customSignal").isNull then .ok (readSignal (j.field "customSignal"))
  else .ok (.unrecognized j)

/-- Combine conditions that could be read. -/
def combine (node : List Condition → Condition) :
    Except Fault (List Condition) → Except Fault Condition
  | .ok conditions => .ok (node conditions)
  | .error e => .error e

mutual

/-- The condition that a value describes. -/
def ofJson : Json → Except Fault Condition
  | .obj members =>
    match readMember "orCondition" members with
    | some conditions => combine .any conditions
    | none =>
      match readMember "andCondition" members with
      | some conditions => combine .all conditions
      | none => readLeaf (.obj members)
  | j => .ok (.unrecognized j)

/-- The conditions combined under a key, if it is set to something other than null. -/
def readMember (key : String) :
    List (String × Json) → Option (Except Fault (List Condition))
  | [] => none
  | (k, j) :: rest =>
    if k == key then (if j.isNull then none else some (readPayload j))
    else readMember key rest

/-- The conditions that a payload combines. -/
def readPayload : Json → Except Fault (List Condition)
  | .obj members => readConditions members
  | _ => .ok []

/-- The conditions listed in an object. -/
def readConditions : List (String × Json) → Except Fault (List Condition)
  | [] => .ok []
  | (k, j) :: rest => if k == "conditions" then readArray j else readConditions rest

/-- The conditions in an array; other values hold none. -/
def readArray : Json → Except Fault (List Condition)
  | .arr items => readItems items
  | _ => .ok []

/-- The conditions that values describe. -/
def readItems : List Json → Except Fault (List Condition)
  | [] => .ok []
  | j :: rest =>
    match ofJson j with
    | .error e => .error e
    | .ok condition =>
      match readItems rest with
      | .error e => .error e
      | .ok conditions => .ok (condition :: conditions)

end

end Rollout.Condition
