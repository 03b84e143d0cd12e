/-!
# Blank characters

A character is blank when it separates words: the space, the line and paragraph separators, the
control characters that move the cursor, and the four information separators. Trimming removes
blanks at both ends of a text.
-/

namespace Rollout.Text

/-- Blanks among the first 128 characters that also separate numerals. -/
def isAsciiBlank (c : Char) : Bool :=
  (9 ≤ c.toNat && c.toNat ≤ 13) || c.toNat == 32

/-- Blanks beyond the first 128 characters. -/
def isWideBlank (c : Char) : Bool :=
  let n := c.toNat
  n == 0x85 || n == 0xa0 || n == 0x1680 || (0x2000 ≤ n && n ≤ 0x200a) ||
    n == 0x2028 || n == 0x2029 || n == 0x202f || n == 0x205f || n == 0x3000

/-- The information separators are blank too, although they do not separate numerals. -/
def isBlank (c : Char) : Bool :=
  isAsciiBlank c || (0x1c ≤ c.toNat && c.toNat ≤ 0x1f) || isWideBlank c

/-- Remove the characters with property `p` at both ends. -/
def trimBoth (p : Char → Bool) (s : List Char) : List Char :=
  ((s.dropWhile p).reverse.dropWhile p).reverse

/-- Remove the blanks at both ends. -/
def trim (s : List Char) : List Char := trimBoth isBlank s

end Rollout.Text
