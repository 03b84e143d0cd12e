import Rollout.Json.Display

/-!
# Writing JSON

A value is written on one line, with a blank after every comma and colon. Only characters from
the space to the tilde stand for themselves; every other one is escaped, beyond the first 65536
as a pair of surrogates. A stray surrogate is escaped on its own.
-/

namespace Rollout.Json

open Text

/-- The escape of a 16-bit unit. -/
def unitEscape (n : Nat) : List Char := '\\' :: 'u' :: hexDigits 4 n

/-- The written form of one character of a text. -/
def writeChar (c : Char) : List Char :=
  if c == '\x22' || c == '\\' then ['\\', c]
  else if c == '\n' then ['\\', 'n']
  else if c == '\r' then ['\\', 'r']
  else if c == '\t' then ['\\', 't']
  else if c == '\x0c' then ['\\', 'f']
  else if c == '\x08' then ['\\', 'b']
  else if 32 ≤ c.toNat && c.toNat ≤ 126 then [c]
  else if c.toNat < 0x10000 then unitEscape c.toNat
  else
    let n := c.toNat - 0x10000
    unitEscape (0xd800 + n / 0x400) ++ unitEscape (0xdc00 + n % 0x400)

/-- The written form of a text. -/
def writeString (s : List Char) : List Char :=
  '\x22' :: s.flatMap writeChar ++ ['\x22']

/-- The written form of what stands at one place of a text. -/
def writeSign : Sign → List Char
  | .char c => writeChar c
  | .lone u => unitEscape u.code

/-- The written form of a text with stray surrogates. -/
def writeStray (t : StrayText) : List Char :=
  '\x22' :: t.signs.flatMap writeSign ++ ['\x22']

/-- The written form of a number with a fraction or an exponent, and of the three that JSON
proper does not have. -/
def writeFloat : Binary64 → List Char
  | .nan => "NaN".toList
  | .infinite negative => if negative then "-Infinity".toList else "Infinity".toList
  | x => x.write

mutual

/-- The written form of a value. -/
def write : Json → List Char
  | .null => "null".toList
  | .bool b => if b then "true".toList else "false".toList
  | .int n => intDigits n
  | .float x => writeFloat x
  | .str s => writeString s.toList
  | .stray t => writeStray t
  | .arr items => '[' :: separated itemSeparator (writeItems items) ++ [']']
  | .obj members => '\x7b' :: separated itemSeparator (writeMembers members) ++ ['\x7d']

def writeItems : List Json → List (List Char)
  | [] => []
  | j :: rest => write j :: writeItems rest

def writeMembers : List (String × Json) → List (List Char)
  | [] => []
  | (k, j) :: rest => (writeString k.toList ++ keySeparator ++ write j) :: writeMembers rest

end

/-- The written form as a string. -/
def render (j : Json) : String := String.ofList j.write

end Rollout.Json
