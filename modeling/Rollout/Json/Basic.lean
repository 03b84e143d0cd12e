import Rollout.Number.Binary64
import Rollout.Entries
import Rollout.Text.Stray

/-!
# JSON values

Integers and floating-point numbers are different values, and the members of an object are
ordered: a value keeps everything that a later rendering shows.

## Implementation notes

A text with stray surrogates is a value apart from the texts that are strings, because no bytes
stand for it. The names of members are strings, in which a stray surrogate is replaced.
-/

namespace Rollout

/-- JSON values. -/
inductive Json
  | null
  | bool (b : Bool)
  | int (n : Int)
  | float (x : Binary64)
  | str (s : String)
  | stray (t : StrayText)
  | arr (items : List Json)
  | obj (members : List (String × Json))
  deriving Repr, Inhabited

namespace Json

/-- The kinds of JSON values. -/
inductive Kind
  | null
  | bool
  | int
  | float
  | str
  | arr
  | obj
  deriving DecidableEq, Repr

/-- The kind of a value. -/
def kind : Json → Kind
  | .null => .null
  | .bool _ => .bool
  | .int _ => .int
  | .float _ => .float
  | .str _ | .stray _ => .str
  | .arr _ => .arr
  | .obj _ => .obj

/-- The name of a kind in messages. -/
def Kind.name : Kind → String
  | .null => "NoneType"
  | .bool => "bool"
  | .int => "int"
  | .float => "float"
  | .str => "str"
  | .arr => "list"
  | .obj => "dict"

/-- Null, false, zero and whatever is empty count as unset. -/
def isSet : Json → Bool
  | .null => false
  | .bool b => b
  | .int n => n != 0
  | .float x => !x.isZero
  | .str s => s != ""
  | .stray _ => true
  | .arr items => !items.isEmpty
  | .obj members => !members.isEmpty

/-- The value that is a text. -/
def ofRaw : RawText → Json
  | .plain s => .str s
  | .stray t => .stray t

theorem ne_ofRaw {j : Json} (h : j.kind ≠ .str) (t : RawText) : j ≠ .ofRaw t := by
  rintro rfl
  cases t <;> exact h rfl

/-- The text that a value is, as it is shown. -/
def text? : Json → Option String
  | .str s => some s
  | .stray t => some t.shown
  | _ => none

/-- Recognise null. -/
def isNull : Json → Bool
  | .null => true
  | _ => false

theorem isNull_iff (j : Json) : j.isNull = true ↔ j = .null := by
  cases j <;> simp [isNull]

/-- The member of an object; null when it is missing or the value is no object. -/
def field (j : Json) (key : String) : Json :=
  match j with
  | .obj members => (Entries.find? members key).getD .null
  | _ => .null

/-- The member of an object, if it is there. -/
def field? (j : Json) (key : String) : Option Json :=
  match j with
  | .obj members => Entries.find? members key
  | _ => none

theorem field_eq_getD (j : Json) (key : String) : j.field key = (j.field? key).getD .null := by
  cases j <;> rfl

end Json

end Rollout
