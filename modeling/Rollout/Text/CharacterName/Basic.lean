/-!
# Rows of character names

Characters that follow each other often have names that begin alike. A row of names keeps the
common beginning once; the endings are separated by semicolons, on as many lines as they need.
-/

namespace Rollout.Text

/-- The names of characters that follow each other. -/
structure NameRow where
  first : Nat
  start : String
  lines : List String

end Rollout.Text
