import Rollout.Json.Basic
import Rollout.Number.Shortest
import Rollout.Text.Quoted

/-!
# Display of JSON values

A value is displayed for people: a text on its own stands as it is, while inside an array or an
object it is quoted. The displayed form is what conditions compare and what parameters hold.

## Implementation notes

The displayed form is a row of characters, so a text with stray surrogates is displayed as it is
shown. `rawText` is the displayed form that still holds them. Every integer has a displayed form
here, also one with more digits than a reader accepts; what is said of the text of a value asks that
its integers are short.
-/

namespace Rollout.Json

open Text

/-- Join texts with a separator between neighbours. -/
def separated (sep : List Char) : List (List Char) → List Char
  | [] => []
  | t :: rest => t ++ rest.flatMap (sep ++ ·)

/-- The separator of items and members. -/
def itemSeparator : List Char := [',', ' ']

/-- The separator of a key and its value. -/
def keySeparator : List Char := [':', ' ']

mutual

/-- The displayed form of a value inside another one. -/
def inspect : Json → List Char
  | .null => "None".toList
  | .bool b => if b then "True".toList else "False".toList
  | .int n => intDigits n
  | .float x => x.write
  | .str s => quoted s.toList
  | .stray t => quotedStray t
  | .arr items => '[' :: separated itemSeparator (inspectItems items) ++ [']']
  | .obj members => '\x7b' :: separated itemSeparator (inspectMembers members) ++ ['\x7d']

def inspectItems : List Json → List (List Char)
  | [] => []
  | j :: rest => inspect j :: inspectItems rest

def inspectMembers : List (String × Json) → List (List Char)
  | [] => []
  | (k, j) :: rest =>
    (quoted k.toList ++ keySeparator ++ inspect j) :: inspectMembers rest

end

/-- The displayed form of a value on its own. -/
def display : Json → List Char
  | .str s => s.toList
  | .stray t => t.shown.toList
  | j => inspect j

@[simp] theorem display_str (s : String) : (str s).display = s.toList := rfl

/-- The displayed form as a string. -/
def displayText (j : Json) : String := String.ofList j.display

@[simp] theorem displayText_str (s : String) : (str s).displayText = s := String.ofList_toList

@[simp] theorem displayText_stray (t : StrayText) : (stray t).displayText = t.shown :=
  String.ofList_toList

/-- The displayed form with the stray surrogates of a text. -/
def rawText : Json → RawText
  | .stray t => .stray t
  | j => .plain j.displayText

@[simp] theorem rawText_ofRaw (t : RawText) : (ofRaw t).rawText = t := by
  cases t with
  | plain s => simp [ofRaw, rawText]
  | stray t => rfl

end Rollout.Json
