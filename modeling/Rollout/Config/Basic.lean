import Rollout.Condition.Verdict
import Rollout.Config.Defaults
import Rollout.Template.Basic
import Rollout.Value

/-!
# Configurations

A configuration gives each key a value. It starts from the defaults of the application, and the
template then puts the values that its parameters have in a context. A parameter takes its value
from the first declared condition that holds and for which it has one, and its own default if
there is no such condition. A parameter without a value, or one that leaves the choice to the
application, puts nothing.
-/

namespace Rollout

/-- Values by key, in order. -/
structure Config where
  entries : List (String × Value)

namespace Config

/-- The configuration of the defaults alone. -/
def ofDefaults (defaults : Defaults) : Config :=
  ⟨defaults.map fun (key, text) => (key, .ofText .default text)⟩

/-- The value of a parameter for the first condition that holds and for which it has one. -/
def conditionalValue? (verdicts : Verdicts) (p : Parameter) :
    List NamedCondition → Option ParameterValue
  | [] => none
  | named :: rest =>
    if verdicts.holds named.name then
      match p.valueFor? named.name with
      | some value => some value
      | none => conditionalValue? verdicts p rest
    else conditionalValue? verdicts p rest

/-- The value of a parameter: the one for a condition, or else its default. -/
def chosenValue? (verdicts : Verdicts) (conditions : List NamedCondition) (p : Parameter) :
    Option ParameterValue :=
  match conditionalValue? verdicts p conditions with
  | some value => some value
  | none => p.default

/-- Put the chosen value of a parameter, if it is a text. -/
def putChosen (entries : List (String × Value)) (key : String) :
    Option ParameterValue → List (String × Value)
  | some (.explicit text) => Entries.put entries key (.ofText .remote text)
  | _ => entries

/-- Put the values of parameters one after the other. -/
def putParameters (verdicts : Verdicts) (conditions : List NamedCondition)
    (entries : List (String × Value)) : Parameters → List (String × Value)
  | [] => entries
  | (key, p) :: rest =>
    putParameters verdicts conditions
      (putChosen entries key (chosenValue? verdicts conditions p)) rest

/-- The configuration of a template in a context, over given defaults. -/
def evaluate (defaults : Defaults) (t : Template) (c : Context) : Except Fault Config :=
  match Verdicts.ofConditions c t.conditions with
  | .error e => .error e
  | .ok verdicts =>
    .ok ⟨putParameters verdicts t.conditions (ofDefaults defaults).entries t.parameters⟩

/-- The value of a key; a key that is not configured has the absent value. -/
def get (config : Config) (key : String) : Value :=
  (Entries.find? config.entries key).getD .absent

/-- The number of keys. -/
def size (config : Config) : Nat := config.entries.length

end Config

end Rollout
