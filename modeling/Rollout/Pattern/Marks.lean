/-!
# Marks of groups

A group leaves two marks: the position at which it begins and the one at which it ends. All marks
are kept in one row, those of the first group first. The row ends with the last mark that has been
set; marks before it that have not been set are empty.
-/

namespace Rollout.Pattern

/-- The marks of the groups, each group with its beginning and its end. -/
abbrev Marks := List (Option Nat)

namespace Marks

/-- Set a mark. Marks that are skipped over are empty. -/
def put (ms : Marks) (i pos : Nat) : Marks :=
  if i < ms.length then ms.set i (some pos)
  else ms ++ List.replicate (i - ms.length) none ++ [some pos]

/-- Set the mark at which a group begins. -/
def putBegin (ms : Marks) (index pos : Nat) : Marks := ms.put (2 * index - 2) pos

/-- Set the mark at which a group ends. -/
def putEnd (ms : Marks) (index pos : Nat) : Marks := ms.put (2 * index - 1) pos

/-- The positions between which a group has matched; there are none while the group is not closed
behind its beginning. -/
def span? (ms : Marks) (index : Nat) : Option (Nat × Nat) :=
  match ms[2 * index - 2]?, ms[2 * index - 1]? with
  | some (some i), some (some j) => if i ≤ j then some (i, j) else none
  | _, _ => none

/-- The marks with which a search goes on after a way that began with `ms` and failed with other
marks. Either all marks are put back, or only those beyond the last one are dropped. -/
def resume (whole : Bool) (ms failed : Marks) : Marks :=
  if whole then ms else failed.take ms.length

/-- Recognise marks by which no group ends before it begins. -/
def isOrdered : Marks → Bool
  | some i :: some j :: rest => i ≤ j && isOrdered rest
  | _ :: _ :: rest => isOrdered rest
  | _ => true

end Marks

end Rollout.Pattern
