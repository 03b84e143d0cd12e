import Rollout.Json.Display
import Rollout.Json.Numeric
import Rollout.Text.LetterCase

/-!
# Configuration values

A value is what a key of a configuration holds, together with where it comes from. It is read as
a text, a truth value or a number. What cannot be read as a number counts as zero.

## Implementation notes

The values of a configuration are texts, which every reader accepts. The content may be any JSON
value so that the readers can also be used on values that were never put into a configuration;
only then can a reader meet a number that is too large or infinite.
-/

namespace Rollout

/-- Where a value comes from. -/
structure Source where
  label : String
  deriving DecidableEq, Repr

namespace Source

/-- The value was set by the defaults of the application. -/
def default : Source := ⟨"default"⟩

/-- The value was set by a template. -/
def remote : Source := ⟨"remote"⟩

/-- The value stands in for a key that is not configured. -/
def static : Source := ⟨"static"⟩

end Source

/-- A number that keeps whether it is an integer. -/
inductive Number
  | int (n : Int)
  | float (x : Binary64)
  deriving DecidableEq, Repr

/-- A configured value and its source. -/
structure Value where
  source : Source
  content : Json

namespace Value

/-- A value that is a text. -/
def ofText (source : Source) (text : String) : Value := ⟨source, .str text⟩

/-- The value of a key that is not configured. -/
def absent : Value := ofText .static ""

/-- The words that mean true, in lower case. -/
def trueWords : List String := ["1", "true", "t", "yes", "y", "on"]

/-- The value as a text. -/
def text (v : Value) : String := v.content.displayText

/-- The value as a truth value: its lower-case form is one of the words that mean true. -/
def truth (v : Value) : Bool :=
  trueWords.contains (String.ofList (Text.lower v.content.display))

/-- The value as a number; what is not numeric becomes the integer zero. -/
def number (v : Value) : Except Fault Number :=
  match v.content.toFloat? with
  | .error e => .error e
  | .ok none => .ok (.int 0)
  | .ok (some x) => .ok (if x.isNan then .int 0 else .float x)

/-- The value as an integer, zero if it has none. -/
def integer (v : Value) : Except Fault Int :=
  match v.content.toInt? with
  | .error e => .error e
  | .ok n => .ok (n.getD 0)

/-- The value as a floating-point number; every zero becomes the positive one. -/
def float (v : Value) : Except Fault Binary64 :=
  match v.number with
  | .error e => .error e
  | .ok (.float x) => .ok (if x.isZero then .zero false else x)
  | .ok (.int n) => .ok (if n = 0 then .zero false else Binary64.ofInt n)

/-- The value shown with its source. -/
def inspect (v : Value) : String :=
  "Value(source=" ++ String.ofList (Text.quoted v.source.label.toList) ++ ", value=" ++
    String.ofList v.content.inspect ++ ")"

end Value

end Rollout
