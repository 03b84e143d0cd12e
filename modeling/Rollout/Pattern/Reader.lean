import Rollout.Pattern.Escape
import Rollout.Number.Numeral

/-!
# Reading patterns

A pattern text is a choice between branches, a branch a row of items, and an item a character
test, a position, a group, or a repetition of the item before it. Groups that neither capture nor
change modes dissolve into the row around them; beginnings that all branches share are moved in
front of the choice, and a choice between single characters becomes a set.

## Implementation notes

The recursive readers spend one unit of fuel for each call. A parenthesis leads to four calls
within each other and every other sign to fewer, so four times the length of the text is enough.
-/

namespace Rollout.Pattern

open Text

/-- Items of a row while it is read: a pattern, or a group that will dissolve. -/
inductive Item
  | single (p : Pattern)
  | loose (ps : List Pattern)
  deriving DecidableEq, Repr

namespace Item

/-- The patterns that an item adds to a finished row. -/
def patterns : Item → List Pattern
  | .single p => [p]
  | .loose ps => ps

/-- The item as one pattern. -/
def toPattern : Item → Pattern
  | .single p => p
  | .loose ps => Pattern.ofList ps

/-- A position cannot be repeated, and a repetition cannot be repeated once more. -/
def isRepeatable : Item → Bool
  | .single (.anchor _) => false
  | .single (.repeated _ _ _ _) => false
  | _ => true

end Item

/-- The width of a row of patterns. -/
def rowWidth (ps : List Pattern) : Width := (Pattern.ofList ps).width

/-! ## Choices -/

/-- Patterns that match in one way only and can be moved in front of a choice. -/
def isPlainItem : Pattern → Bool
  | .code _ _ | .any | .set _ _ | .anchor _ | .backref _ _ => true
  | _ => false

/-- Split off the beginning that a row shares with all other rows. -/
def splitShared : List Pattern → List (List Pattern) → List Pattern × List (List Pattern)
  | [], others => ([], [] :: others)
  | p :: rest, others =>
    if isPlainItem p && others.all (fun row => row.head? == some p) then
      let (shared, rows) := splitShared rest (others.map (·.drop 1))
      (p :: shared, rows)
    else ([], (p :: rest) :: others)

/-- The members that a row adds to a set when it is a single character test. -/
def rowItems? : List Pattern → Option (List SetItem)
  | [.code n false] => some [.code n]
  | [.set false items] => some items
  | _ => none

/-- Join the members of all rows, if every row is a single character test. -/
def joinItems? : List (List Pattern) → Option (List SetItem)
  | [] => some []
  | row :: rows =>
    match rowItems? row, joinItems? rows with
    | some items, some more => some (items ++ more)
    | _, _ => none

/-- The row of a choice between rows. -/
def joinRows : List (List Pattern) → List Pattern
  | [] => []
  | [row] => row
  | row :: rows =>
    let (shared, branches) := splitShared row rows
    match joinItems? branches with
    | some items => shared ++ [.set false items.eraseDups]
    | none => shared ++ [choiceOf (branches.map Pattern.ofList)]

/-! ## Repetitions -/

/-- The end of the counts that a repetition may have. -/
def countEnd : Nat := Nat.pow 2 32 - 1

/-- Read a count of repetitions, which is given by its digits. -/
def readCount (ds : List Char) : Except Issue Nat :=
  if Numeral.maxDigits < ds.length then .error (.tooManyDigits ds.length)
  else
    let n := digitsToNat ds
    if countEnd ≤ n then .error .repetitionTooLarge else .ok n

/-- Read a count of repetitions that may be left out. -/
def readCount? (ds : List Char) : Except Issue (Option Nat) :=
  if ds.isEmpty then .ok none
  else
    match readCount ds with
    | .error e => .error e
    | .ok n => .ok (some n)

/-- Read the bounds after an opening brace. Without a closing brace the opening one stands for
itself. -/
def readBounds (s : Scanner) : Except Issue (Option (Nat × Option Nat) × Scanner) := do
  if s.nextIs '\x7d' then return (none, s)
  let (lo, t) ← s.takeWhile isAsciiDigit s.remaining
  let (comma, t) ← t.accept ','
  let (hi, t) ← if comma then t.takeWhile isAsciiDigit t.remaining else .ok (lo, t)
  let (closed, t) ← t.accept '\x7d'
  if !closed then return (none, s)
  let least := (← readCount? lo).getD 0
  let most ← readCount? hi
  match most with
  | some n => if n < least then .error .malformed else return (some (least, most), t)
  | none => return (some (least, none), t)

/-- Read the bounds that a sign of repetition stands for. -/
def readRepetition (c : Char) (s : Scanner) :
    Except Issue (Option (Nat × Option Nat) × Scanner) :=
  if c == '?' then .ok (some (0, some 1), s)
  else if c == '*' then .ok (some (0, none), s)
  else if c == '+' then .ok (some (1, none), s)
  else readBounds s

/-- Read how eager a repetition is. -/
def readGreed (s : Scanner) : Except Issue (Greed × Scanner) := do
  let (isLazy, s) ← s.accept '?'
  if isLazy then return (.lazy, s)
  let (possessive, s) ← s.accept '+'
  return (if possessive then .possessive else .greedy, s)

/-- Repeat the last item of a row, which is kept last item first. -/
def repeatLast (c : Char) (row : List Item) (s : Scanner) :
    Except Issue (List Item × Scanner) := do
  let (bounds, s) ← readRepetition c s
  match bounds with
  | none => return (.single (.code c.toNat false) :: row, s)
  | some (least, most) =>
    match row with
    | [] => .error .malformed
    | item :: row =>
      if !item.isRepeatable then .error .malformed
      else
        let (greed, s) ← readGreed s
        return (.single (.repeated greed least most item.toPattern) :: row, s)

/-! ## Sets -/

/-- Read one member of a set whose first token is taken. -/
def readMember (t : Token) (s : Scanner) : Except Issue (SetItem × Scanner) :=
  match t with
  | .plain c => .ok (.code c.toNat, s)
  | .escape c => readSetEscape c s

/-- A range between two members, which have to be characters in order. -/
def rangeOf : SetItem → SetItem → Except Issue SetItem
  | .code lo, .code hi => if hi < lo then .error .malformed else .ok (.range lo hi)
  | _, _ => .error .malformed

/-- Read the members of a set and its closing bracket. A bracket that comes first is a member. -/
def readMembers : Nat → List SetItem → Scanner → Except Issue (List SetItem × Scanner)
  | 0, _, _ => .error .malformed
  | fuel + 1, items, s => do
    let (t, s) ← s.take
    if t == .plain ']' && !items.isEmpty then return (items.reverse, s)
    let (item, s) ← readMember t s
    let (dash, s) ← s.accept '-'
    if !dash then readMembers fuel (item :: items) s
    else
      let (t, s) ← s.take
      if t == .plain ']' then return ((.code 45 :: item :: items).reverse, s)
      let (last, s) ← readMember t s
      let range ← rangeOf item last
      readMembers fuel (range :: items) s

/-- Read a set after its opening bracket. -/
def readSet (s : Scanner) : Except Issue (Pattern × Scanner) := do
  let (negated, s) ← s.accept '^'
  let (items, s) ← readMembers s.remaining [] s
  match items.eraseDups with
  | [.code n] => return (.code n negated, s)
  | items => return (.set negated items, s)

/-! ## Modes -/

/-- Letters of modes that can be switched on. -/
def isMode (c : Char) : Bool := "imsxatuL".toList.contains c

/-- Letters of modes that choose an alphabet. -/
def isAlphabet (c : Char) : Bool := "auL".toList.contains c

/-- Switch a mode on; an alphabet excludes the others, and one of them is not available. -/
def switchOn (c : Char) (on : List Char) : Except Issue (List Char) :=
  if c == 'L' || (isAlphabet c && on.any fun d => isAlphabet d && d != c) then .error .malformed
  else .ok (c :: on)

/-- Read modes that are switched on, of which the first is taken, and the sign after them. -/
def readModesOn : Nat → Char → List Char → Scanner → Except Issue (List Char × Char × Scanner)
  | 0, _, _, _ => .error .malformed
  | fuel + 1, c, on, s => do
    let on ← switchOn c on
    let (t, s) ← s.take
    match t with
    | .escape _ => .error .malformed
    | .plain d =>
      if d == ')' || d == '-' || d == ':' then return (on, d, s)
      else if isMode d then readModesOn fuel d on s
      else .error .malformed

/-- Read modes that are switched off, up to a colon. -/
def readModesOff : Nat → List Char → Scanner → Except Issue (List Char × Scanner)
  | 0, _, _ => .error .malformed
  | fuel + 1, off, s => do
    let (t, s) ← s.take
    match t with
    | .escape _ => .error .malformed
    | .plain d =>
      if d == ':' && !off.isEmpty then return (off, s)
      else if isMode d && !isAlphabet d then readModesOff fuel (d :: off) s
      else .error .malformed

/-- Read modes whose first sign is taken. Without a part of the pattern they hold for all of
it. -/
def readModes (c : Char) (s : Scanner) : Except Issue (Option ModeChange × Scanner) := do
  let (on, sign, s) ←
    if c == '-' then .ok ([], '-', s) else readModesOn s.remaining c [] s
  if sign == ')' then return (none, { s with modes := on ++ s.modes })
  if on.contains 't' then .error .malformed
  else
    let (off, s) ← if sign == '-' then readModesOff s.remaining [] s else .ok ([], s)
    if off.contains 't' || on.any off.contains then .error .malformed
    else return (some { on := on, off := off }, s)

/-! ## Groups -/

/-- What an opening parenthesis stands for. -/
inductive Opening
  | comment
  | modes
  | reference (p : Pattern)
  | capture (name : Option (List Char))
  | loose
  | atomic
  | scoped (change : ModeChange)
  | look (behind negated : Bool)
  | condition (index : Nat)
  deriving DecidableEq, Repr

/-- The greatest number that a condition may give a group. -/
def groupEnd : Nat := Nat.pow 2 31 - 1

/-- Read the number of a group in a condition. -/
def readGroupNumber (name : List Char) : Except Issue Nat :=
  match Numeral.readInt name with
  | .error _ => .error .malformed
  | .ok n => if n ≤ 0 || (groupEnd : Int) ≤ n then .error .malformed else .ok n.toNat

/-- Read the group that a condition asks for. -/
def readCondition (s : Scanner) : Except Issue (Nat × Scanner) := do
  let (name, s) ← s.takeName ')'
  let (index, s) ←
    if isName name then
      match s.names.lookup name with
      | some index => .ok (index, s)
      | none => .error .malformed
    else do
      let index ← readGroupNumber name
      return (index, { s with wanted := index :: s.wanted })
  s.checkBehind index
  return (index, s)

/-- Read the name of a group. -/
def readGroupName (close : Char) (s : Scanner) : Except Issue (List Char × Scanner) := do
  let (name, s) ← s.takeName close
  if isName name then return (name, s) else .error .malformed

/-- Read a named group or a reference to one. -/
def readNamedOpening (s : Scanner) : Except Issue (Opening × Scanner) := do
  let (opens, s) ← s.accept '<'
  if opens then
    let (name, s) ← readGroupName '>' s
    return (.capture (some name), s)
  let s ← s.expect '='
  let (name, s) ← readGroupName ')' s
  match s.names.lookup name with
  | none => .error .malformed
  | some index => do
    let p ← s.reference index
    return (.reference p, s)

/-- Read what follows an opening parenthesis and a question mark, of which the next token is
taken. -/
def readExtension (c : Char) (s : Scanner) : Except Issue (Opening × Scanner) :=
  if c == 'P' then readNamedOpening s
  else if c == ':' then .ok (.loose, s)
  else if c == '#' then do
    let (closed, s) ← s.skipUntil ')' s.remaining
    if closed then return (.comment, s) else .error .malformed
  else if c == '=' then .ok (.look false false, s)
  else if c == '!' then .ok (.look false true, s)
  else if c == '<' then do
    let (t, s) ← s.take
    match t with
    | .plain '=' => return (.look true false, s)
    | .plain '!' => return (.look true true, s)
    | _ => .error .malformed
  else if c == '(' then do
    let (index, s) ← readCondition s
    return (.condition index, s)
  else if c == '>' then .ok (.atomic, s)
  else if isMode c || c == '-' then do
    let (change, s) ← readModes c s
    match change with
    | none => return (.modes, s)
    | some change => return (.scoped change, s)
  else .error .malformed

/-- Read what stands after an opening parenthesis up to the contents of the group. -/
def readOpening (s : Scanner) : Except Issue (Opening × Scanner) := do
  let (special, s) ← s.accept '?'
  if !special then return (.capture none, s)
  let (t, s) ← s.take
  match t with
  | .escape _ => .error .malformed
  | .plain c => readExtension c s

/-- Verbose mode inside a part of the pattern with changed modes. -/
def verboseIn (verbose : Bool) (change : ModeChange) : Bool :=
  (verbose || change.on.contains 'x') && !change.off.contains 'x'

/-- Blanks that verbose mode skips. -/
def isVerboseBlank (c : Char) : Bool := " \t\n\r\x0b\x0c".toList.contains c

mutual

/-- Read the branches of a choice. The flags say whether verbose mode is on and whether the
choice is the whole pattern, where modes may be set before the first item. -/
def readChoice : Nat → Bool → Bool → Scanner → Except Issue (List Pattern × Scanner)
  | 0, _, _, _ => .error .malformed
  | fuel + 1, verbose, outer, s => do
    let (rows, s) ← readBranches fuel verbose outer outer s
    return (joinRows rows, s)

/-- Read one branch and those after it. -/
def readBranches : Nat → Bool → Bool → Bool → Scanner →
    Except Issue (List (List Pattern) × Scanner)
  | 0, _, _, _, _ => .error .malformed
  | fuel + 1, verbose, outer, first, s => do
    let (row, s) ← readRow fuel verbose first [] s
    let (more, s) ← s.accept '|'
    if more then
      let verbose := if outer then s.modes.contains 'x' else verbose
      let (rows, s) ← readBranches fuel verbose outer false s
      return (row :: rows, s)
    else return ([row], s)

/-- Read the items of a row up to its end. The items that are already read come last item
first. -/
def readRow : Nat → Bool → Bool → List Item → Scanner → Except Issue (List Pattern × Scanner)
  | 0, _, _, _, _ => .error .malformed
  | fuel + 1, verbose, first, row, s =>
    match s.next with
    | none => .ok (row.reverse.flatMap Item.patterns, s)
    | some (.escape c) => do
      let s ← s.advance
      let (p, s) ← readEscape c s
      readRow fuel verbose first (.single p :: row) s
    | some (.plain c) =>
      if c == '|' || c == ')' then .ok (row.reverse.flatMap Item.patterns, s)
      else do
        let s ← s.advance
        if verbose && isVerboseBlank c then readRow fuel verbose first row s
        else if verbose && c == '#' then
          let (_, s) ← s.skipUntil '\n' s.remaining
          readRow fuel verbose first row s
        else if c == '[' then
          let (p, s) ← readSet s
          readRow fuel verbose first (.single p :: row) s
        else if c == '*' || c == '+' || c == '?' || c == '\x7b' then
          let (row, s) ← repeatLast c row s
          readRow fuel verbose first row s
        else if c == '.' then readRow fuel verbose first (.single .any :: row) s
        else if c == '^' then readRow fuel verbose first (.single (.anchor .lineStart) :: row) s
        else if c == '$' then readRow fuel verbose first (.single (.anchor .lineEnd) :: row) s
        else if c == '(' then
          let (opening, s) ← readOpening s
          if opening == .modes then
            if !first || !row.isEmpty then .error .malformed
            else readRow fuel (s.modes.contains 'x') first row s
          else
            let (item, s) ← readGroup fuel verbose opening s
            readRow fuel verbose first (item.toList ++ row) s
        else readRow fuel verbose first (.single (.code c.toNat false) :: row) s

/-- Read the contents of a group and its closing parenthesis. -/
def readGroup : Nat → Bool → Opening → Scanner → Except Issue (Option Item × Scanner)
  | 0, _, _, _ => .error .malformed
  | fuel + 1, verbose, opening, s =>
    match opening with
    | .comment | .modes => .ok (none, s)
    | .reference p => .ok (some (.single p), s)
    | .capture name => do
      let (index, s) ← s.openGroup name
      let (ps, s) ← readChoice fuel verbose false s
      let s ← s.expect ')'
      return (some (.single (.group index (Pattern.ofList ps))), s.closeGroup index (rowWidth ps))
    | .loose => do
      let (ps, s) ← readChoice fuel verbose false s
      let s ← s.expect ')'
      return (some (.loose ps), s)
    | .atomic => do
      let (ps, s) ← readChoice fuel verbose false s
      let s ← s.expect ')'
      return (some (.single (.atomic (Pattern.ofList ps))), s)
    | .scoped change => do
      let (ps, s) ← readChoice fuel (verboseIn verbose change) false s
      let s ← s.expect ')'
      return (some (.single (.scoped change (Pattern.ofList ps))), s)
    | .look behind negated => do
      let limit := s.behindLimit
      let s := if behind && limit.isNone then { s with behindLimit := some (s.groups.length + 1) }
        else s
      let (ps, s) ← readChoice fuel verbose false s
      let s := if behind && limit.isNone then { s with behindLimit := none } else s
      let s ← s.expect ')'
      return (some (.single (.look behind negated (Pattern.ofList ps))), s)
    | .condition index => do
      let (yes, s) ← readRow fuel verbose false [] s
      let (both, s) ← s.accept '|'
      let (no, s) ← if both then readRow fuel verbose false [] s else .ok ([], s)
      let s ← if both && s.nextIs '|' then .error .malformed else s.expect ')'
      return (some (.single (.ifGroup index (Pattern.ofList yes) (Pattern.ofList no))), s)

end

/-- A pattern with the modes that hold for all of it. -/
structure Compiled where
  pattern : Pattern
  modes : Modes
  deriving Repr

/-- The modes that are set for the whole pattern. -/
def wholeModes (set : List Char) : Modes :=
  { ignoreCase := set.contains 'i', multiline := set.contains 'm', dotAll := set.contains 's'
    wide := !set.contains 'a' }

/-- Read a pattern text. -/
def compile (text : List Char) : Except Issue Compiled := do
  let s ← Scanner.start text
  let (ps, s) ← readChoice (4 * text.length + 8) false true s
  if s.modes.contains 'a' && s.modes.contains 'u' then .error .mixedAlphabets
  else if s.next.isSome || s.wanted.any (fun index => s.groups.length < index) then
    .error .malformed
  else
    let p := Pattern.ofList ps
    if !p.isWellFormed (!s.modes.contains 't') then .error .malformed
    else if maxReach < p.reach then .error .lookTooFar
    else return { pattern := p, modes := wholeModes s.modes }

end Rollout.Pattern
