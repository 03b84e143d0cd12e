import Rollout.Json.Basic
import Rollout.Number.Numeral

/-!
# Reading JSON

The reader accepts JSON and the words for infinity and for what is not a number. A number with a
fraction or an exponent is a floating-point number, any other one an integer. Of members with
the same key the first gives the place and the last the value.

## Implementation notes

A trouble carries the part of the text that was not yet read; its place is worked out once, from
the length of that part. The fuel of the recursive readers is twice the length of the text, and
every call spends one unit for at most two calls on each character.
-/

namespace Rollout.Json

open Text

/-- What is wrong with a text that is not JSON. -/
inductive Issue
  | expectingValue
  | expectingName
  | expectingColon
  | expectingComma
  | extraData
  | badEscape
  | badUnicodeEscape
  | controlCharacter
  | unterminatedString
  | byteOrderMark
  deriving DecidableEq, Repr

/-- The wording of an issue. -/
def Issue.message : Issue → String
  | .expectingValue => "Expecting value"
  | .expectingName => "Expecting property name enclosed in double quotes"
  | .expectingColon => "Expecting ':' delimiter"
  | .expectingComma => "Expecting ',' delimiter"
  | .extraData => "Extra data"
  | .badEscape => "Invalid \\escape"
  | .badUnicodeEscape => "Invalid \\uXXXX escape"
  | .controlCharacter => "Invalid control character at"
  | .unterminatedString => "Unterminated string starting at"
  | .byteOrderMark => "Unexpected UTF-8 BOM (decode using utf-8-sig)"

/-- Reasons for which a text is not read as a JSON value. -/
inductive ReadError
  | malformed (issue : Issue) (line column offset : Nat)
  | tooManyDigits (digits : Nat)
  deriving DecidableEq, Repr

/-- An error whose place is given by the unread part of the text. -/
inductive Trouble
  | at (issue : Issue) (unread : List Char)
  | tooManyDigits (digits : Nat)

/-- The blanks that JSON allows between its signs. -/
def isSpace (c : Char) : Bool := c == ' ' || c == '\t' || c == '\n' || c == '\r'

/-- The text without the blanks at its beginning. -/
def skipSpaces (cs : List Char) : List Char := cs.dropWhile isSpace

/-- The character that an escape of one letter stands for. -/
def unescape? (c : Char) : Option Char :=
  if c == '\x22' || c == '\\' || c == '/' then some c
  else if c == 'b' then some '\x08'
  else if c == 'f' then some '\x0c'
  else if c == 'n' then some '\n'
  else if c == 'r' then some '\r'
  else if c == 't' then some '\t'
  else none

/-- The value of a hexadecimal digit of either case. -/
def hexValue? (c : Char) : Option Nat :=
  let n := c.toNat
  if 48 ≤ n && n ≤ 57 then some (n - 48)
  else if 97 ≤ n && n ≤ 102 then some (n - 87)
  else if 65 ≤ n && n ≤ 70 then some (n - 55)
  else none

/-- The value of four hexadecimal digits. -/
def hexUnit? (a b c d : Char) : Option Nat := do
  let a ← hexValue? a
  let b ← hexValue? b
  let c ← hexValue? c
  let d ← hexValue? d
  return ((a * 16 + b) * 16 + c) * 16 + d

/-- Recognise the first unit of a surrogate pair. -/
def isHighSurrogate (n : Nat) : Bool := 0xd800 ≤ n && n < 0xdc00

/-- Recognise the second unit of a surrogate pair. -/
def isLowSurrogate (n : Nat) : Bool := 0xdc00 ≤ n && n < 0xe000

theorem isLowSurrogate_of_isHighSurrogate {n : Nat} (h : isHighSurrogate n = true) :
    isLowSurrogate n = false := by
  simp only [isHighSurrogate, Bool.and_eq_true, decide_eq_true_eq] at h
  simp only [isLowSurrogate, Bool.and_eq_false_iff, decide_eq_false_iff_not]
  omega

/-- What a code point stands for on its own: a character, or a surrogate without its partner. -/
def codeSign (n : Nat) : Sign :=
  if h : 0xd800 ≤ n ∧ n < 0xe000 then .lone ⟨n, h⟩ else .char (Char.ofNat n)

/-- The character of a surrogate pair. -/
def pairChar (high low : Nat) : Char :=
  Char.ofNat (0x10000 + (high - 0xd800) * 0x400 + (low - 0xdc00))

/-- Turn code points into characters, joining the surrogates of a pair that stand next to each
other; other surrogates stay as they are. The first argument is a first surrogate that waits for its
second. -/
def joinSurrogates : Option Nat → List Nat → List Sign
  | none, [] => []
  | some high, [] => [codeSign high]
  | none, n :: rest =>
    if isHighSurrogate n then joinSurrogates (some n) rest
    else codeSign n :: joinSurrogates none rest
  | some high, n :: rest =>
    if isLowSurrogate n then .char (pairChar high n) :: joinSurrogates none rest
    else if isHighSurrogate n then codeSign high :: joinSurrogates (some n) rest
    else codeSign high :: codeSign n :: joinSurrogates none rest

theorem isFirst_codeSign (n : Nat) : (codeSign n).isFirst = isHighSurrogate n := by
  rw [codeSign]
  split
  · rename_i h
    simp [Sign.isFirst, Surrogate.isHigh, isHighSurrogate, h.1]
  · have hhigh : isHighSurrogate n = false := by
      simp only [isHighSurrogate, Bool.and_eq_false_iff, decide_eq_false_iff_not]
      omega
    rw [hhigh, Sign.isFirst]

theorem isSecond_codeSign (n : Nat) : (codeSign n).isSecond = isLowSurrogate n := by
  rw [codeSign]
  split
  · rename_i h
    rw [Bool.eq_iff_iff]
    simp [Sign.isSecond, Surrogate.isHigh, isLowSurrogate, h.2]
  · have hlow : isLowSurrogate n = false := by
      simp only [isLowSurrogate, Bool.and_eq_false_iff, decide_eq_false_iff_not]
      omega
    rw [hlow, Sign.isSecond]

/-- No pair is left where surrogates are joined, and what waits for its second surrogate does not
become one. -/
theorem joinSurrogates_leaves_no_pair (ns : List Nat) :
    Sign.unpaired (joinSurrogates none ns) = true ∧
      ∀ high, isHighSurrogate high = true →
        Sign.unpaired (joinSurrogates (some high) ns) = true ∧
          ∀ s ∈ (joinSurrogates (some high) ns).head?, s.isSecond = false := by
  have hsecond {n : Nat} (hn : isHighSurrogate n = true) : (codeSign n).isSecond = false := by
    rw [isSecond_codeSign, isLowSurrogate_of_isHighSurrogate hn]
  induction ns with
  | nil =>
    refine ⟨rfl, fun high hhigh => ⟨rfl, ?_⟩⟩
    rintro s ⟨⟩
    exact hsecond hhigh
  | cons n rest ih =>
    obtain ⟨hrest, hwaiting⟩ := ih
    have hplain (hn : ¬ isHighSurrogate n = true) :
        Sign.unpaired (codeSign n :: joinSurrogates none rest) = true := by
      rw [Sign.unpaired_cons_iff, isFirst_codeSign]
      exact ⟨fun h => absurd h hn, hrest⟩
    constructor
    · rw [joinSurrogates]
      split
      · rename_i hn
        exact (hwaiting n hn).1
      · rename_i hn
        exact hplain hn
    · intro high hhigh
      rw [joinSurrogates]
      split
      · rw [Sign.unpaired_cons_iff]
        exact ⟨⟨nofun, hrest⟩, by rintro s ⟨⟩; rfl⟩
      · rename_i hlow
        have hfirst : ∀ s ∈ some (codeSign high), s.isSecond = false := by
          rintro s ⟨⟩
          exact hsecond hhigh
        split
        · rename_i hn
          obtain ⟨hunpaired, hhead⟩ := hwaiting n hn
          rw [Sign.unpaired_cons_iff]
          exact ⟨⟨fun _ => hhead, hunpaired⟩, hfirst⟩
        · rename_i hn
          rw [Sign.unpaired_cons_iff]
          refine ⟨⟨fun _ s hs => ?_, hplain hn⟩, hfirst⟩
          cases hs
          rwa [isSecond_codeSign, ← Bool.not_eq_true]

/-- Put a code point before those that are read next. -/
def prepend (n : Nat) (r : Except Trouble (List Nat × List Char)) :
    Except Trouble (List Nat × List Char) :=
  match r with
  | .error e => .error e
  | .ok (codes, rest) => .ok (n :: codes, rest)

/-- Read the code points of a text up to its closing mark. The first argument is the text from the
opening mark on, where an unterminated text is reported. -/
def readCodes (opening : List Char) : List Char → Except Trouble (List Nat × List Char)
  | [] => .error (.at .unterminatedString opening)
  | '\\' :: 'u' :: a :: b :: c :: d :: rest =>
    if rest.isEmpty then .error (.at .badUnicodeEscape ('u' :: a :: b :: c :: d :: rest))
    else
      match hexUnit? a b c d with
      | none => .error (.at .badUnicodeEscape ('u' :: a :: b :: c :: d :: rest))
      | some n => prepend n (readCodes opening rest)
  | '\\' :: [] => .error (.at .unterminatedString opening)
  | '\\' :: c :: rest =>
    if c == 'u' then .error (.at .badUnicodeEscape (c :: rest))
    else
      match unescape? c with
      | some d => prepend d.toNat (readCodes opening rest)
      | none => .error (.at .badEscape ('\\' :: c :: rest))
  | c :: rest =>
    if c == '\x22' then .ok ([], rest)
    else if c.toNat < 32 then .error (.at .controlCharacter (c :: rest))
    else prepend c.toNat (readCodes opening rest)

/-- Read a text after its opening mark. -/
def readString (opening : List Char) (cs : List Char) : Except Trouble (RawText × List Char) :=
  match readCodes opening cs with
  | .error e => .error e
  | .ok (codes, rest) =>
    .ok (.ofSigns (joinSurrogates none codes) (joinSurrogates_leaves_no_pair codes).1, rest)

/-- Take a fraction off: a point and at least one digit. -/
def splitFraction : List Char → Option (List Char) × List Char
  | '.' :: d :: rest =>
    if isAsciiDigit d then
      (some (d :: rest.takeWhile isAsciiDigit), rest.dropWhile isAsciiDigit)
    else (none, '.' :: d :: rest)
  | cs => (none, cs)

/-- Take an exponent off: a letter, perhaps a sign, and at least one digit. -/
def splitExponent : List Char → Option Int × List Char
  | c :: rest =>
    if c == 'e' || c == 'E' then
      let (negative, body) := Numeral.splitSign rest
      let ds := body.takeWhile isAsciiDigit
      if ds.isEmpty then (none, c :: rest)
      else (some (Binary64.signed negative (digitsToNat ds)), body.dropWhile isAsciiDigit)
    else (none, c :: rest)
  | [] => (none, [])

/-- Take the digits before the point off: a zero, or digits that do not begin with one. -/
def splitWhole : List Char → List Char × List Char
  | c :: rest =>
    if c == '0' then (['0'], rest)
    else ((c :: rest).takeWhile isAsciiDigit, (c :: rest).dropWhile isAsciiDigit)
  | [] => ([], [])

/-- Read a number. -/
def readNumber (cs : List Char) : Except Trouble (Json × List Char) :=
  let (negative, body) :=
    match cs with
    | '-' :: rest => (true, rest)
    | _ => (false, cs)
  let (whole, rest) := splitWhole body
  if whole.isEmpty then .error (.at .expectingValue cs)
  else
    let (fraction, rest) := splitFraction rest
    let (exponent, rest) := splitExponent rest
    if fraction.isNone && exponent.isNone then
      if Numeral.maxDigits < whole.length then .error (.tooManyDigits whole.length)
      else .ok (.int (Binary64.signed negative (digitsToNat whole)), rest)
    else
      let digits := fraction.getD []
      let x := Binary64.ofDecimal negative (digitsToNat (whole ++ digits))
        (exponent.getD 0 - (digits.length : Int))
      .ok (.float x, rest)

/-- The rest of a text that begins with a word. -/
def afterWord? (word : List Char) (cs : List Char) : Option (List Char) :=
  if word.isPrefixOf cs then some (cs.drop word.length) else none

/-- The words that stand for a value. -/
def wordValues : List (List Char × Json) :=
  [("null".toList, .null), ("true".toList, .bool true), ("false".toList, .bool false),
   ("NaN".toList, .float .nan), ("Infinity".toList, .float (.infinite false)),
   ("-Infinity".toList, .float (.infinite true))]

/-- Read a word or a number. -/
def readPlain (cs : List Char) : Except Trouble (Json × List Char) :=
  match wordValues.findSome? fun (word, j) => (afterWord? word cs).map (j, ·) with
  | some r => .ok r
  | none => readNumber cs

mutual

/-- Read a value. -/
def readValue : Nat → List Char → Except Trouble (Json × List Char)
  | 0, cs => .error (.at .expectingValue cs)
  | fuel + 1, cs =>
    match cs with
    | [] => .error (.at .expectingValue [])
    | c :: rest =>
      if c == '\x22' then
        match readString cs rest with
        | .error e => .error e
        | .ok (text, rest) => .ok (.ofRaw text, rest)
      else if c == '[' then
        match skipSpaces rest with
        | ']' :: rest => .ok (.arr [], rest)
        | rest =>
          match readItems fuel rest with
          | .error e => .error e
          | .ok (items, rest) => .ok (.arr items, rest)
      else if c == '\x7b' then
        match skipSpaces rest with
        | '\x7d' :: rest => .ok (.obj [], rest)
        | rest =>
          match readMembers fuel rest with
          | .error e => .error e
          | .ok (members, rest) => .ok (.obj (Entries.putAll [] members), rest)
      else readPlain cs

/-- Read the items of an array and its closing bracket. -/
def readItems : Nat → List Char → Except Trouble (List Json × List Char)
  | 0, cs => .error (.at .expectingValue cs)
  | fuel + 1, cs =>
    match readValue fuel cs with
    | .error e => .error e
    | .ok (j, rest) =>
      match skipSpaces rest with
      | ']' :: rest => .ok ([j], rest)
      | ',' :: rest =>
        match readItems fuel (skipSpaces rest) with
        | .error e => .error e
        | .ok (items, rest) => .ok (j :: items, rest)
      | rest => .error (.at .expectingComma rest)

/-- Read the members of an object and its closing brace. -/
def readMembers : Nat → List Char → Except Trouble (List (String × Json) × List Char)
  | 0, cs => .error (.at .expectingName cs)
  | fuel + 1, cs =>
    match cs with
    | '\x22' :: rest =>
      match readString cs rest with
      | .error e => .error e
      | .ok (key, rest) =>
        match skipSpaces rest with
        | ':' :: rest =>
          match readValue fuel (skipSpaces rest) with
          | .error e => .error e
          | .ok (j, rest) =>
            match skipSpaces rest with
            | '\x7d' :: rest => .ok ([(key.shown, j)], rest)
            | ',' :: rest =>
              match readMembers fuel (skipSpaces rest) with
              | .error e => .error e
              | .ok (members, rest) => .ok ((key.shown, j) :: members, rest)
            | rest => .error (.at .expectingComma rest)
        | rest => .error (.at .expectingColon rest)
    | _ => .error (.at .expectingName cs)

end

/-- The error at a place of a text that is given by its unread part. Lines and columns count from
one, offsets from zero. -/
def placed (text : List Char) : Trouble → ReadError
  | .tooManyDigits n => .tooManyDigits n
  | .at issue unread =>
    let offset := text.length - unread.length
    let done := text.take offset
    .malformed issue (done.count '\n' + 1)
      ((done.reverse.takeWhile (· != '\n')).length + 1) offset

/-- Read the only value of a text. -/
def readAll (cs : List Char) : Except Trouble Json :=
  match readValue (2 * cs.length + 2) (skipSpaces cs) with
  | .error e => .error e
  | .ok (j, rest) =>
    match skipSpaces rest with
    | [] => .ok j
    | rest => .error (.at .extraData rest)

/-- Recognise a text that begins with a byte order mark. -/
def hasByteOrderMark : List Char → Bool
  | c :: _ => c.toNat == 0xfeff
  | [] => false

/-- Read a text as a JSON value. -/
def read (text : String) : Except ReadError Json :=
  let cs := text.toList
  if hasByteOrderMark cs then .error (placed cs (.at .byteOrderMark cs))
  else
    match readAll cs with
    | .error e => .error (placed cs e)
    | .ok j => .ok j

/-- The wording of a reading error. -/
def ReadError.message : ReadError → String
  | .malformed issue line column offset =>
    issue.message ++ ": line " ++ toString line ++ " column " ++ toString column ++
      " (char " ++ toString offset ++ ")"
  | .tooManyDigits digits =>
    "Exceeds the limit (4300 digits) for integer string conversion: value has " ++
      toString digits ++ " digits; use sys.set_int_max_str_digits() to increase the limit"

end Rollout.Json
