import Rollout.Context
import Rollout.Json.Numeric
import Rollout.Pattern.Search
import Rollout.Signal.Operator
import Rollout.Signal.Version

/-!
# Comparison of signals

A comparison of texts holds when it holds for one of the targets; that the signal lacks a text
means that it contains none of them. A comparison by order looks at the first target only, and it
fails in every direction unless both sides have a place in the order.

## Implementation notes

A comparison is first defined on values whose kinds are known: a present signal and a list of
targets. `testLoose` puts the checks of kinds in front, for operators, keys and targets that were
never looked at.
-/

namespace Rollout.Signal

open Text

/-- The place of a value on the line of numbers. Truth values have none. -/
def numberPlace? (j : Json) : Except Fault (Option Int) :=
  match j with
  | .bool _ => .ok none
  | j =>
    match j.toFloat? with
    | .error e => .error e
    | .ok none => .ok none
    | .ok (some x) => .ok x.place?

/-- Compare two values as numbers. -/
def compareNumbers (r : Relation) (actual target : Json) : Except Fault Bool :=
  match numberPlace? target with
  | .error e => .error e
  | .ok t =>
    match numberPlace? actual with
    | .error e => .error e
    | .ok a =>
      match a, t with
      | some a, some t => .ok (r.holds (compare a t))
      | _, _ => .ok false

/-- Compare two values as versions. -/
def compareVersions (r : Relation) (actual target : Json) : Except Fault Bool :=
  match Version.read actual.display with
  | .error e => .error e
  | .ok a =>
    match Version.read target.display with
    | .error e => .error e
    | .ok t =>
      match a, t with
      | some a, some t => .ok (r.holds (a.order t))
      | _, _ => .ok false

/-- The first target that is found decides; later ones are not looked at. -/
def anyPattern (actual : List Char) : List Json → Except Fault Bool
  | [] => .ok false
  | t :: rest =>
    match Pattern.search t.display actual with
    | .error e => .error e
    | .ok true => .ok true
    | .ok false => anyPattern actual rest

/-- The signal contains one of the targets. -/
def containsAny (actual : List Char) (targets : List Json) : Bool :=
  targets.any fun t => occursIn t.display actual

/-- The signal equals one of the targets when blanks around both are left out. -/
def equalsAny (actual : List Char) (targets : List Json) : Bool :=
  targets.any fun t => trim t.display == trim actual

/-- Compare a signal as a text. -/
def compareTexts (t : TextTest) (actual : List Char) (targets : List Json) :
    Except Fault Bool :=
  match t with
  | .contains => .ok (containsAny actual targets)
  | .lacks => .ok (!containsAny actual targets)
  | .equals => .ok (equalsAny actual targets)
  | .matchesPattern => anyPattern actual targets

/-- Compare a signal with targets. -/
def Operator.test (op : Operator) (actual : Json) (targets : List Json) : Except Fault Bool :=
  match op, targets with
  | .text t, targets => compareTexts t actual.display targets
  | .numeric r, target :: _ => compareNumbers r actual target
  | .version r, target :: _ => compareVersions r actual target
  | _, _ => .ok false

/-- A comparison that a condition asks for. -/
structure Rule where
  operator : Option Operator
  key : Option String
  targets : List String
  deriving DecidableEq, Repr

/-- The comparison holds in a context. Without an operator, a key, targets or a signal it does
not hold. -/
def Rule.holds (rule : Rule) (c : Context) : Except Fault Bool :=
  match rule.operator, rule.key with
  | some op, some key =>
    if key == "" || rule.targets.isEmpty then .ok false
    else
      let actual := c.get key
      if actual.isNull then .ok false else op.test actual (rule.targets.map .str)
  | _, _ => .ok false

/-! ## Comparisons of unchecked values -/

/-- An operator, or a value that stands in place of one. -/
inductive LooseOperator
  | known (op : Operator)
  | other (j : Json)

/-- The value in place of an operator is set. -/
def LooseOperator.isSet : LooseOperator → Bool
  | .known _ => true
  | .other j => j.isSet

/-- The first entry of a value. -/
def firstPart (j : Json) : Except Fault (List Json) :=
  match j with
  | .obj _ => .error .noFirstEntry
  | j =>
    match Signals.parts? j with
    | some parts => .ok parts
    | none => .error (.notIndexable j.kind)

/-- The targets that an operator takes from a value. -/
def looseTargets (op : Operator) (targets : Json) : Except Fault (List Json) :=
  match op with
  | .text _ =>
    match Signals.parts? targets with
    | some parts => .ok parts
    | none => .error (.notIterable targets.kind)
  | .numeric _ | .version _ => firstPart targets
  | .unknown => .ok []

/-- Compare a signal by an operator, a key and targets of any kind. -/
def testLoose (op : LooseOperator) (key targets : Json) (c : Context) : Except Fault Bool :=
  if !(op.isSet && key.isSet && targets.isSet) then .ok false
  else
    match key.text? with
    | some key =>
      let actual := c.get key
      if actual.isNull then .ok false
      else
        match op with
        | .known op =>
          match looseTargets op targets with
          | .error e => .error e
          | .ok targets => op.test actual targets
        | .other (.arr _) => .error (.notHashable .arr)
        | .other (.obj _) => .error (.notHashable .obj)
        | .other _ => .ok false
    | none => .ok false

end Rollout.Signal
