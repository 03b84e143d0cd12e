import Rollout.Condition.Basic

/-!
# Induction on conditions

A property holds of every condition when it holds of the leaves, and of a combination whenever it
holds of the conditions that are combined.
-/

namespace Rollout.Condition

/-- Induction on conditions, in which the hypothesis covers every condition of a combination. -/
@[induction_eliminator]
theorem induct {motive : Condition → Prop}
    (any : ∀ conditions, (∀ x ∈ conditions, motive x) → motive (.any conditions))
    (all : ∀ conditions, (∀ x ∈ conditions, motive x) → motive (.all conditions))
    (always : motive .always) (never : motive .never)
    (percent : ∀ rule, motive (.percent rule)) (signal : ∀ rule, motive (.signal rule))
    (unrecognized : ∀ raw, motive (.unrecognized raw)) : ∀ condition, motive condition
  | .any conditions =>
    any conditions fun x _ =>
      induct any all always never percent signal unrecognized x
  | .all conditions =>
    all conditions fun x _ =>
      induct any all always never percent signal unrecognized x
  | .always => always
  | .never => never
  | .percent rule => percent rule
  | .signal rule => signal rule
  | .unrecognized raw => unrecognized raw

end Rollout.Condition
