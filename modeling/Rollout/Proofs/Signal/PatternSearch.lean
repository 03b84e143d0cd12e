import Rollout.Proofs.Pattern.Literal
import Rollout.Proofs.Signal.TextSearch

/-!
# Comparisons by patterns

A signal matches targets when one of them, read as a pattern, is found in its text. Targets that are
literal are found just where they occur, so the comparison is then the same as the one for
containment. Targets that are no patterns are found nowhere, and the others count as if these were
not there.
-/

namespace Rollout.Signal

open Text

/-- A target that is refused as a pattern. -/
def Malformed (target : String) : Prop := Pattern.compile target.toList = .error .malformed

/-- Targets among which some that are no patterns are put, at any places. -/
inductive AddsMalformed : List String → List String → Prop
  | nil : AddsMalformed [] []
  | keep (target : String) {targets others : List String} (rest : AddsMalformed targets others) :
      AddsMalformed (target :: targets) (target :: others)
  | add {target : String} (malformed : Malformed target) {targets others : List String}
      (rest : AddsMalformed targets others) : AddsMalformed targets (target :: others)

theorem AddsMalformed.ne_nil {targets others : List String} (h : AddsMalformed targets others)
    (hne : targets ≠ []) : others ≠ [] := by
  cases h with
  | nil => exact absurd rfl hne
  | keep target rest => exact List.cons_ne_nil _ _
  | add malformed rest => exact List.cons_ne_nil _ _

open Rule

end Rollout.Signal
