import Rollout.Condition.Basic

/-!
# Verdicts on conditions

A verdict says whether a condition holds in a context. Conditions may be combined up to ten deep;
a combination that lies deeper does not hold. Combined conditions are looked at in order, and
only until the verdict is known.
-/

namespace Rollout

namespace Condition

/-- The number of combinations that may enclose each other. -/
def maxDepth : Int := 10

mutual

/-- The verdict on a condition that is enclosed by a number of combinations. -/
def holdsAt (c : Context) : Condition → Int → Except Fault Bool
  | .any conditions, level =>
    if maxDepth ≤ level then .ok false else anyHoldsAt c conditions (level + 1)
  | .all conditions, level =>
    if maxDepth ≤ level then .ok false else allHoldAt c conditions (level + 1)
  | .always, _ => .ok true
  | .never, _ => .ok false
  | .percent rule, _ => rule.holds c
  | .signal rule, _ => rule.holds c
  | .unrecognized _, _ => .ok false

/-- One of the conditions holds. -/
def anyHoldsAt (c : Context) : List Condition → Int → Except Fault Bool
  | [], _ => .ok false
  | condition :: rest, level =>
    match holdsAt c condition level with
    | .error e => .error e
    | .ok true => .ok true
    | .ok false => anyHoldsAt c rest level

/-- All of the conditions hold. -/
def allHoldAt (c : Context) : List Condition → Int → Except Fault Bool
  | [], _ => .ok true
  | condition :: rest, level =>
    match holdsAt c condition level with
    | .error e => .error e
    | .ok true => allHoldAt c rest level
    | .ok false => .ok false

end

/-- The verdict on a condition that stands on its own. -/
def holds (c : Context) (condition : Condition) : Except Fault Bool := holdsAt c condition 0

end Condition

/-- Verdicts by name. -/
abbrev Verdicts := List (String × Bool)

namespace Verdicts

/-- Put the verdicts on conditions in order. A name that occurs twice keeps its place and takes
the later verdict. -/
def extend (c : Context) (verdicts : Verdicts) :
    List NamedCondition → Except Fault Verdicts
  | [] => .ok verdicts
  | named :: rest =>
    match named.condition.holds c with
    | .error e => .error e
    | .ok b => extend c (Entries.put verdicts named.name b) rest

/-- The verdicts on conditions. -/
def ofConditions (c : Context) (conditions : List NamedCondition) : Except Fault Verdicts :=
  extend c [] conditions

/-- The verdict under a name; a name without a verdict does not hold. -/
def holds (verdicts : Verdicts) (name : String) : Bool :=
  (Entries.find? verdicts name).getD false

end Verdicts

end Rollout
