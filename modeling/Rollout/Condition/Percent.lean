import Rollout.Context
import Rollout.Json.Numeric
import Rollout.Percentile

/-!
# Percent rules

A percent rule selects a part of the population by bounds on the percentile of the id. The lower
bound of a range is outside of it and the upper bound is inside, so ranges that meet at a bound
do not overlap. A bound that is missing counts as zero.
-/

namespace Rollout

/-- Comparisons of a percentile; one that is not recognised is unknown. -/
inductive PercentOperator
  | lessOrEqual
  | greaterThan
  | between
  | unknown
  deriving DecidableEq, Repr

namespace PercentOperator

/-- The name of an operator. -/
def name : PercentOperator → String
  | .lessOrEqual => "LESS_OR_EQUAL"
  | .greaterThan => "GREATER_THAN"
  | .between => "BETWEEN"
  | .unknown => "UNKNOWN"

/-- The operator with a given name. -/
def ofName (s : String) : PercentOperator :=
  if s == "LESS_OR_EQUAL" then .lessOrEqual
  else if s == "GREATER_THAN" then .greaterThan
  else if s == "BETWEEN" then .between
  else .unknown

/-- The operator that a value describes; a value that is not set describes none. -/
def ofJson (j : Json) : Option PercentOperator :=
  if !j.isSet then none
  else
    match j with
    | .str s => some (ofName s)
    | _ => some .unknown

end PercentOperator

/-- Bounds of a percentile. -/
structure PercentRange where
  lower : Option Int
  upper : Option Int
  deriving DecidableEq, Repr

/-- A part of the population. The limit belongs to the comparisons with one bound, the range to
the one with two. -/
structure PercentRule where
  operator : Option PercentOperator
  limit : Option Int
  seed : Json
  range : Option PercentRange
  deriving Repr

namespace PercentRule

/-- The lower bound of a rule. -/
def lower (rule : PercentRule) : Int := (rule.range.bind (·.lower)).getD 0

/-- The upper bound of a rule. -/
def upper (rule : PercentRule) : Int := (rule.range.bind (·.upper)).getD 0

/-- An operator accepts a percentile under the bounds of a rule. -/
def accepts (rule : PercentRule) (op : PercentOperator) (percentile : Int) : Bool :=
  match op with
  | .lessOrEqual => percentile ≤ rule.limit.getD 0
  | .greaterThan => rule.limit.getD 0 < percentile
  | .between => rule.lower < percentile && percentile ≤ rule.upper
  | .unknown => false

/-- A client belongs to the part. Without an id or an operator it does not. -/
def holds (rule : PercentRule) (c : Context) : Except Fault Bool :=
  match c.id, rule.operator with
  | some id, some op =>
    if id.isEmpty then .ok false
    else
      match Percentile.ofId rule.seed id with
      | .error e => .error e
      | .ok percentile => .ok (rule.accepts op percentile)
  | _, _ => .ok false

/-- A bound: the integer that a value other than a truth value is read as. -/
def readBound (j : Json) : Except Fault (Option Int) :=
  match j with
  | .bool _ => .ok none
  | j => j.toInt?

/-- The range of a rule, if one is given as an object. -/
def readRange (j : Json) : Except Fault (Option PercentRange) :=
  match j with
  | .obj _ =>
    match readBound (j.field "microPercentLowerBound") with
    | .error e => .error e
    | .ok lower =>
      match readBound (j.field "microPercentUpperBound") with
      | .error e => .error e
      | .ok upper => .ok (some { lower := lower, upper := upper })
  | _ => .ok none

/-- The rule that an object describes. -/
def ofJson (j : Json) : Except Fault PercentRule :=
  match readRange (j.field "microPercentRange") with
  | .error e => .error e
  | .ok range =>
    match readBound (j.field "microPercent") with
    | .error e => .error e
    | .ok limit =>
      .ok
        { operator := PercentOperator.ofJson (j.field "percentOperator")
          limit := limit
          seed := j.field "seed"
          range := range }

end PercentRule

end Rollout
