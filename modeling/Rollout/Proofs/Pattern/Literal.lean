import Rollout.Pattern.Search
import Rollout.Text.Search

/-!
# Literal patterns

A pattern text without any of the signs of the pattern language stands for itself: it is read as the
row of its characters. The matcher passes over this row where the text comes next, and it leaves no
marks, so that looking for the pattern is looking for a part of the text.

## Implementation notes

Scanners are described by the text that is ahead of them. A literal text has no escapes, so the
scanner has taken its first character and nothing else.
-/

namespace Rollout.Pattern

open Text

/-- The characters that stand for something else than themselves. -/
def signs : List Char :=
  ['.', '^', '$', '*', '+', '?', '\x7b', '\x7d', '[', ']', '\\', '|', '(', ')']

/-- A pattern text in which every character stands for itself. -/
def IsLiteral (text : List Char) : Prop := ∀ c ∈ text, c ∉ signs

instance decidableIsLiteral (text : List Char) : Decidable (IsLiteral text) :=
  List.decidableBAll (· ∉ signs) text

namespace Scanner

end Scanner

open Scanner

namespace Cursor

end Cursor

end Rollout.Pattern
