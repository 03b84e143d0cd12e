import Rollout.Pattern.Basic

/-!
# Scanning patterns

A pattern text is scanned into characters and escapes, an escape being a backslash with the
character after it. The scanner always knows the token that comes next, so that a backslash at
the very end is refused as soon as it is reached.

The scanner also carries what has been learned about the pattern so far: its groups, their names
and the modes that hold for all of it.
-/

namespace Rollout.Pattern

/-- Reasons for which a text is not a pattern. All but the first are reported as faults. -/
inductive Issue
  | malformed
  | repetitionTooLarge
  | tooManyDigits (digits : Nat)
  | mixedAlphabets
  | codePointTooLarge
  | lookTooFar
  deriving DecidableEq, Repr

/-- Pieces of a pattern text. -/
inductive Token
  | plain (c : Char)
  | escape (c : Char)
  deriving DecidableEq, Repr

/-- The scanner of a pattern text. The width of a group is known once the group is closed. -/
structure Scanner where
  next : Option Token
  rest : List Char
  groups : List (Option Width) := []
  names : List (List Char × Nat) := []
  behindLimit : Option Nat := none
  wanted : List Nat := []
  modes : List Char := []
  deriving DecidableEq, Repr

namespace Scanner

/-- Take the next token off a text. -/
def takeToken : List Char → Except Issue (Option Token × List Char)
  | [] => .ok (none, [])
  | c :: rest =>
    if c == '\\' then
      match rest with
      | [] => .error .malformed
      | d :: rest => .ok (some (.escape d), rest)
    else .ok (some (.plain c), rest)

/-- Move on to the token after the next one. -/
def advance (s : Scanner) : Except Issue Scanner :=
  match takeToken s.rest with
  | .error e => .error e
  | .ok (next, rest) => .ok { s with next := next, rest := rest }

/-- The scanner at the beginning of a text. -/
def start (text : List Char) : Except Issue Scanner :=
  advance { next := none, rest := text }

/-- The next token is the given character. -/
def nextIs (s : Scanner) (c : Char) : Bool := s.next == some (.plain c)

/-- The next token is a character with the given property. -/
def nextHas (s : Scanner) (p : Char → Bool) : Bool :=
  match s.next with
  | some (.plain c) => p c
  | _ => false

/-- Move over the given character if it comes next. -/
def accept (s : Scanner) (c : Char) : Except Issue (Bool × Scanner) :=
  if s.nextIs c then
    match s.advance with
    | .error e => .error e
    | .ok s => .ok (true, s)
  else .ok (false, s)

/-- Move over the given character, which has to come next. -/
def expect (s : Scanner) (c : Char) : Except Issue Scanner :=
  if s.nextIs c then s.advance else .error .malformed

/-- Take the next token, which has to be there. -/
def take (s : Scanner) : Except Issue (Token × Scanner) :=
  match s.next with
  | none => .error .malformed
  | some t =>
    match s.advance with
    | .error e => .error e
    | .ok s => .ok (t, s)

/-- Take at most `count` characters with a property. -/
def takeWhile (p : Char → Bool) : Nat → Scanner → Except Issue (List Char × Scanner)
  | 0, s => .ok ([], s)
  | count + 1, s =>
    match s.next with
    | some (.plain c) =>
      if p c then do
        let s ← s.advance
        let (cs, s) ← takeWhile p count s
        return (c :: cs, s)
      else .ok ([], s)
    | _ => .ok ([], s)

/-- The characters of a token. -/
def tokenText : Token → List Char
  | .plain c => [c]
  | .escape c => ['\\', c]

/-- Take the text up to a closing character, which is taken too. The text must not be empty. -/
def takeUntil (close : Char) : Nat → Scanner → Except Issue (List Char × Scanner)
  | 0, _ => .error .malformed
  | fuel + 1, s => do
    let (t, s) ← s.take
    if t == .plain close then return ([], s)
    let (cs, s) ← takeUntil close fuel s
    return (tokenText t ++ cs, s)

/-- A bound on the tokens that are left. -/
def remaining (s : Scanner) : Nat := s.rest.length + 2

/-- Take a name up to its closing character. -/
def takeName (close : Char) (s : Scanner) : Except Issue (List Char × Scanner) := do
  let (name, s) ← takeUntil close s.remaining s
  if name.isEmpty then .error .malformed else return (name, s)

/-- Skip a comment up to its closing character; a comment that runs to the end is `open`. -/
def skipUntil (close : Char) : Nat → Scanner → Except Issue (Bool × Scanner)
  | 0, s => .ok (false, s)
  | fuel + 1, s =>
    match s.next with
    | none => .ok (false, s)
    | some t => do
      let s ← s.advance
      if t == .plain close then return (true, s)
      skipUntil close fuel s

/-- Open a new group and give its number. A name must be new. -/
def openGroup (s : Scanner) (name : Option (List Char)) : Except Issue (Nat × Scanner) :=
  let index := s.groups.length + 1
  let s := { s with groups := s.groups ++ [none] }
  match name with
  | none => .ok (index, s)
  | some name =>
    if (s.names.lookup name).isSome then .error .malformed
    else .ok (index, { s with names := (name, index) :: s.names })

/-- Close a group of known width. -/
def closeGroup (s : Scanner) (index : Nat) (w : Width) : Scanner :=
  { s with groups := s.groups.set (index - 1) (some w) }

/-- The width of a group that is closed. -/
def groupWidth? (s : Scanner) (index : Nat) : Option Width :=
  if index = 0 then none else (s.groups[index - 1]?).join

/-- Inside a look behind only groups that were closed before it can be referred to. -/
def checkBehind (s : Scanner) (index : Nat) : Except Issue Unit :=
  match s.behindLimit with
  | none => .ok ()
  | some limit =>
    if (s.groupWidth? index).isSome && index < limit then .ok () else .error .malformed

/-- A reference to a group that is closed. -/
def reference (s : Scanner) (index : Nat) : Except Issue Pattern :=
  match s.groupWidth? index with
  | none => .error .malformed
  | some w => do
    s.checkBehind index
    return .backref index w

end Scanner

end Rollout.Pattern
