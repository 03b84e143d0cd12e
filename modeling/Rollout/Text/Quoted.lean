import Rollout.Text.Printable
import Rollout.Text.Stray

/-!
# Quoted text

A quoted text stands between two quotation marks. Single marks are used unless the text holds a
single mark and no double one. The mark and the backslash are written after a backslash, the tab
and the line breaks by their letters, and a character that is not shown as it stands by its code
point in two, four or eight hexadecimal digits. A stray surrogate is written by its code point, too.
-/

namespace Rollout.Text

/-- The last `width` hexadecimal digits of a number, in lower case. -/
def hexDigits (width n : Nat) : List Char :=
  (List.range width).reverse.map fun i => Nat.digitChar (n / Nat.pow 16 i % 16)

/-- The quotation mark that a text is put between. -/
def quoteMark (s : List Char) : Char :=
  if s.contains '\x27' && !s.contains '\x22' then '\x22' else '\x27'

/-- The written form of one character between two marks. -/
def quotedChar (mark c : Char) : List Char :=
  if c == mark || c == '\\' then ['\\', c]
  else if c == '\t' then ['\\', 't']
  else if c == '\n' then ['\\', 'n']
  else if c == '\r' then ['\\', 'r']
  else if isVisible c then [c]
  else if c.toNat ≤ 0xff then '\\' :: 'x' :: hexDigits 2 c.toNat
  else if c.toNat ≤ 0xffff then '\\' :: 'u' :: hexDigits 4 c.toNat
  else '\\' :: 'U' :: hexDigits 8 c.toNat

/-- A text between quotation marks. -/
def quoted (s : List Char) : List Char :=
  let mark := quoteMark s
  mark :: s.flatMap (quotedChar mark) ++ [mark]

/-- The written form of what stands at one place between two marks. -/
def quotedSign (mark : Char) : Sign → List Char
  | .char c => quotedChar mark c
  | .lone u => '\\' :: 'u' :: hexDigits 4 u.code

/-- A text with stray surrogates between quotation marks. -/
def quotedStray (t : StrayText) : List Char :=
  let mark := quoteMark t.shown.toList
  mark :: t.signs.flatMap (quotedSign mark) ++ [mark]

end Rollout.Text
