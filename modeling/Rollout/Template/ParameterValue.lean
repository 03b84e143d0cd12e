import Rollout.Json.Display
import Rollout.Text.LetterCase

/-!
# Parameter values

A parameter value is a text, or it leaves the choice to the application, whose default then
stands.
-/

namespace Rollout

/-- Values that a template gives to a parameter. -/
inductive ParameterValue
  | explicit (text : String)
  | inAppDefault
  deriving DecidableEq, Repr

namespace ParameterValue

/-- The lower-case form of a value that is true. -/
def trueWord : List Char := ['t', 'r', 'u', 'e']

/-- A value says that the application chooses: it is displayed as the word for true, in letters
of any case. -/
def choosesInApp (j : Json) : Bool := Text.lower j.display == trueWord

/-- The parameter value that a value describes, if it describes one. -/
def ofJson? (j : Json) : Option ParameterValue :=
  match j with
  | .obj _ =>
    if choosesInApp (j.field "useInAppDefault") then some .inAppDefault
    else if (j.field "value").isNull then none
    else some (.explicit (j.field "value").displayText)
  | _ => none

end ParameterValue

end Rollout
