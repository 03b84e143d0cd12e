import Rollout.Pattern.Reader
import Rollout.Pattern.Matcher
import Rollout.Fault

/-!
# Searching

A pattern text is looked for anywhere in a text. A text that is not a pattern is found nowhere;
only numbers that are too large, alphabets that exclude each other and groups that end before they
begin are faults.

## Implementation notes

A pattern that begins with a set of characters is tried only at characters of that set. This first
look takes the alphabet of the whole pattern, also where the set stands in a part with another
alphabet: there it may pass over places at which the pattern would match.
-/

namespace Rollout.Pattern

/-- The items of sets that letter case makes no difference to. -/
def SetItem.isUncased (wide : Bool) : SetItem → Bool
  | .code n => !hasCase wide n n
  | .range lo hi => hi < basicEnd && !hasCase wide lo hi
  | .category _ _ => true

/-- The set that a pattern begins with, if letter case makes no difference to it. -/
def firstSet? : Pattern → Modes → Option (Bool × List SetItem)
  | .set negated items, m =>
    if m.ignoreCase && !items.all (·.isUncased m.wide) then none else some (negated, items)
  | .seq p _, m => firstSet? p m
  | .group _ p, m => firstSet? p m
  | .scoped change p, m => firstSet? p (m.change change)
  | _, _ => none

/-- The test that the first character of a match has to pass; there is none for patterns that can
match the empty text. -/
def firstTest? (p : Pattern) (m : Modes) : Option (Nat → Bool) :=
  if p.width.1 = 0 then none
  else (firstSet? p m).map fun (negated, items) => setHolds { wide := m.wide } negated items

/-- Recognise the positions that are tried, by the characters after them. -/
def isTried (test : Option (Nat → Bool)) (after : List Char) : Bool :=
  match test, after with
  | none, _ => true
  | some _, [] => false
  | some holds, c :: _ => holds c.toNat

/-- The marks of a match at one position. -/
def matchAt? (p : Pattern) (m : Modes) (s : Cursor) : Option Marks :=
  match run p m false s .matched with
  | .matched t => some t.marks
  | .failed _ => none

/-- Look for a match from every position between the characters before, which are counted and
kept last first, and the characters after. -/
def findFrom? (p : Pattern) (m : Modes) (test : Option (Nat → Bool)) (pos : Nat)
    (before : List Char) (after : List Char) : Option Marks :=
  let here :=
    if isTried test after then matchAt? p m { pos := pos, before := before, after := after }
    else none
  match here, after with
  | some marks, _ => some marks
  | none, [] => none
  | none, c :: after => findFrom? p m test (pos + 1) (c :: before) after

/-- The marks of the first match in a text. -/
def find? (p : Pattern) (m : Modes) (text : List Char) : Option Marks :=
  findFrom? p m (firstTest? p m) 0 [] text

/-- Look for a pattern text in a text. -/
def search (pattern text : List Char) : Except Fault Bool :=
  match compile pattern with
  | .ok c =>
    match find? c.pattern c.modes text with
    | none => .ok false
    | some marks => if marks.isOrdered then .ok true else .error .crossedGroup
  | .error .malformed => .ok false
  | .error .repetitionTooLarge => .error .repetitionTooLarge
  | .error (.tooManyDigits n) => .error (.tooManyDigits n)
  | .error .mixedAlphabets => .error .mixedAlphabets
  | .error .codePointTooLarge => .error .codePointTooLarge
  | .error .lookTooFar => .error .lookTooFar

end Rollout.Pattern
