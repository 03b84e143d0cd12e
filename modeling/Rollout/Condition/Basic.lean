import Rollout.Condition.Percent
import Rollout.Signal.Comparison

/-!
# Conditions

A condition is a tree: its inner nodes combine conditions, and its leaves are constants, percent
rules and comparisons of signals. What a reader does not recognise is kept as it was given.
-/

namespace Rollout

/-- Conditions on a context. -/
inductive Condition
  | any (conditions : List Condition)
  | all (conditions : List Condition)
  | always
  | never
  | percent (rule : PercentRule)
  | signal (rule : Signal.Rule)
  | unrecognized (raw : Json)
  deriving Repr, Inhabited

/-- A condition and the name under which parameters refer to it. -/
structure NamedCondition where
  name : String
  condition : Condition
  deriving Repr

end Rollout
