import Rollout.Fault
import Rollout.Json.Display

/-!
# Defaults

An application declares default values for its parameters. Declared values of any kind are kept
as texts, in the form in which a template would give them.
-/

namespace Rollout

/-- Default values in order. -/
abbrev Defaults := List (String × String)

namespace Defaults

/-- The text of a declared value. Truth values are written in lower case, other values as they
are displayed. -/
def write : Json → String
  | .bool b => if b then "true" else "false"
  | j => j.displayText

/-- The defaults that the members of an object declare. -/
def ofMembers (members : List (String × Json)) : Defaults :=
  members.map fun (key, j) => (key, write j)

/-- The defaults that a value declares: null declares none, and other values must be objects. -/
def ofJson : Json → Except Fault Defaults
  | .null => .ok []
  | .obj members => .ok (ofMembers members)
  | j => .error (.noMembers j.kind)

end Defaults

end Rollout
