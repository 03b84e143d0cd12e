import Rollout.Pattern.CharTest
import Rollout.Pattern.Marks

/-!
# Matching

A matcher stands at a position of the text, has seen the characters before it and expects those
after it. Matching a pattern tries its ways in order; each way goes on with what follows the
pattern, and the first way that succeeds to the end is the match.

## Implementation notes

What follows is given as a function, so that matching is a recursion on the pattern. A repetition
without upper bound runs at most once more than there are characters ahead: a round that stays in
place is the last one.

A way that fails tells which marks it has left. Within a repetition whose rounds can be taken back
the next way begins with the marks of the time before; elsewhere marks that were set again keep
their new place.
-/

namespace Rollout.Pattern

/-- The state of a matcher. The position is the count of characters before it, which are kept
last first. -/
structure Cursor where
  pos : Nat
  before : List Char
  after : List Char
  marks : Marks := []
  deriving DecidableEq, Repr

/-- The end of an attempt: the state behind a match, or the marks that a failure leaves. -/
inductive Outcome
  | matched (s : Cursor)
  | failed (marks : Marks)
  deriving DecidableEq, Repr

namespace Cursor

/-- The whole text. -/
def text (s : Cursor) : List Char := s.before.reverse ++ s.after

/-- Fail at this state. -/
def fail (s : Cursor) : Outcome := .failed s.marks

/-- Note the position at which a group begins. -/
def beginGroup (s : Cursor) (index : Nat) : Cursor :=
  { s with marks := s.marks.putBegin index s.pos }

/-- Note the position at which a group ends. -/
def endGroup (s : Cursor) (index : Nat) : Cursor :=
  { s with marks := s.marks.putEnd index s.pos }

/-- What a group has matched. -/
def captured? (s : Cursor) (index : Nat) : Option (List Char) :=
  (s.marks.span? index).map fun (i, j) => (s.text.drop i).take (j - i)

/-- Pass over one character. -/
def forward? (s : Cursor) : Option (Char × Cursor) :=
  match s.after with
  | [] => none
  | c :: rest => some (c, { s with pos := s.pos + 1, before := c :: s.before, after := rest })

/-- Go back over a number of characters. -/
def back? (s : Cursor) (n : Nat) : Option Cursor :=
  if s.pos < n then none
  else
    some
      { s with
        pos := s.pos - n
        before := s.before.drop n
        after := (s.before.take n).reverse ++ s.after }

end Cursor

/-- What follows a pattern. -/
abbrev Next := Cursor → Outcome

/-- Try a way of matching; when it fails, put marks back as `Marks.resume` says. -/
def attempt (whole : Bool) (s : Cursor) (way : Next) : Outcome :=
  match way s with
  | .matched t => .matched t
  | .failed marks => .failed (s.marks.resume whole marks)

/-- Try a way of matching and, with the marks that it leaves, another one. -/
def orElse (s : Cursor) (way : Outcome) (other : Next) : Outcome :=
  match way with
  | .matched t => .matched t
  | .failed marks => other { s with marks := marks }

/-- Pass over one character that has the property. -/
def passChar (p : Nat → Bool) (s : Cursor) (k : Next) : Outcome :=
  match s.forward? with
  | some (c, t) => if p c.toNat then k t else s.fail
  | none => s.fail

/-- Pass over the given characters. -/
def passText (m : Modes) : List Char → Cursor → Next → Outcome
  | [], s, k => k s
  | c :: cs, s, k =>
    match s.forward? with
    | some (d, t) => if sameChar m c d then passText m cs t k else s.fail
    | none => s.fail

/-- A word character comes first. -/
def startsWithWord (wide : Bool) : List Char → Bool
  | [] => false
  | c :: _ => Category.word.holds wide c.toNat

/-- A line break comes first. -/
def startsWithBreak : List Char → Bool
  | [] => false
  | c :: _ => c.toNat == lineBreak

/-- Recognise the positions that an anchor asks for. In an empty text there is neither a word
boundary nor its absence. -/
def Anchor.holds (m : Modes) (s : Cursor) : Anchor → Bool
  | .lineStart => s.before.isEmpty || (m.multiline && startsWithBreak s.before)
  | .lineEnd =>
    s.after.isEmpty || (startsWithBreak s.after && (m.multiline || s.after.length == 1))
  | .textStart => s.before.isEmpty
  | .textEnd => s.after.isEmpty
  | .boundary =>
    !(s.before.isEmpty && s.after.isEmpty) &&
      startsWithWord m.wide s.before != startsWithWord m.wide s.after
  | .nonBoundary =>
    !(s.before.isEmpty && s.after.isEmpty) &&
      startsWithWord m.wide s.before == startsWithWord m.wide s.after

section Repetition

variable (body : Cursor → Next → Outcome)

/-- Match the body a given number of times. -/
def exactly : Nat → Cursor → Next → Outcome
  | 0, s, k => k s
  | n + 1, s, k => body s fun t => exactly n t k

/-- Match the body up to a given number of times, more often first. The position at which the
last round began is kept: no round begins twice at the same position. -/
def greedyMore (whole : Bool) : Nat → Option Nat → Cursor → Next → Outcome
  | 0, _, s, k => k s
  | n + 1, last, s, k =>
    if last = some s.pos then k s
    else
      orElse s
        (attempt whole s fun s => body s fun t => greedyMore whole n (some s.pos) t k) k

/-- Match the body up to a given number of times, less often first. -/
def lazyMore (whole : Bool) : Nat → Option Nat → Cursor → Next → Outcome
  | 0, _, s, k => attempt whole s k
  | n + 1, last, s, k =>
    orElse s (attempt whole s k) fun s =>
      if last = some s.pos then s.fail
      else body s fun t => lazyMore whole n (some s.pos) t k

/-- Match the body a given number of times, each time in its first way. -/
def firstExactly : Nat → Cursor → Outcome
  | 0, s => .matched s
  | n + 1, s =>
    match body s .matched with
    | .matched t => firstExactly n t
    | .failed marks => .failed marks

/-- Match the body as often as possible up to a given number of times, each time in its first
way. -/
def firstMore : Nat → Option Nat → Cursor → Cursor
  | 0, _, s => s
  | n + 1, last, s =>
    if last = some s.pos then s
    else
      match body s .matched with
      | .matched t => firstMore n (some s.pos) t
      | .failed _ => s

/-- Match the body at least `least` and at most `most` times. The flags say whether the body is a
test of one character and whether the repetition stands within another one. -/
def repeatBody (single looped : Bool) (greed : Greed) (least : Nat) (most : Option Nat)
    (s : Cursor) (k : Next) : Outcome :=
  let room (t : Cursor) : Nat :=
    match most with
    | some n => n - least
    | none => t.after.length + 1
  match greed with
  | .greedy =>
    exactly body least s fun t =>
      if single then greedyMore body looped (room t) none t fun u => attempt looped u k
      else greedyMore body true (room t) none t k
  | .lazy => exactly body least s fun t => lazyMore body looped (room t) none t k
  | .possessive =>
    match firstExactly body least s with
    | .failed marks => .failed marks
    | .matched t => k (firstMore body (room t) none t)

end Repetition

/-- Match a pattern from a position and go on with what follows. The flag says whether the pattern
stands within a repetition whose rounds can be taken back. -/
def run : Pattern → Modes → Bool → Cursor → Next → Outcome
  | .empty, _, _, s, k => k s
  | .code n negated, m, _, s, k => passChar (codeHolds m n negated) s k
  | .any, m, _, s, k => passChar (fun n => m.dotAll || n != lineBreak) s k
  | .set negated items, m, _, s, k => passChar (setHolds m negated items) s k
  | .anchor a, m, _, s, k => if a.holds m s then k s else s.fail
  | .seq p q, m, looped, s, k => run p m looped s fun t => run q m looped t k
  | .choice p q, m, looped, s, k =>
    orElse s (attempt looped s fun s => run p m looped s k) fun s =>
      attempt looped s fun s => run q m looped s k
  | .repeated greed least most p, m, looped, s, k =>
    repeatBody (fun t k => run p m (looped || greed != .possessive) t k) p.isSingle looped greed
      least most s k
  | .group index p, m, looped, s, k =>
    run p m looped (s.beginGroup index) fun t => k (t.endGroup index)
  | .scoped change p, m, looped, s, k => run p (m.change change) looped s k
  | .atomic p, m, looped, s, k =>
    match run p m looped s .matched with
    | .matched t => k t
    | .failed marks => .failed marks
  | .look behind false p, m, looped, s, k =>
    match if behind then s.back? p.width.1 else some s with
    | none => s.fail
    | some start =>
      match run p m looped start .matched with
      | .matched t => k { s with marks := t.marks }
      | .failed marks => .failed marks
  | .look behind true p, m, looped, s, k =>
    match if behind then s.back? p.width.1 else some s with
    | none => k s
    | some start =>
      match attempt looped start fun start => run p m looped start .matched with
      | .matched t => t.fail
      | .failed marks => k { s with marks := marks }
  | .backref index _, m, _, s, k =>
    match s.captured? index with
    | some cs => passText m cs s k
    | none => s.fail
  | .ifGroup index yes no, m, looped, s, k =>
    match s.captured? index with
    | some _ => run yes m looped s k
    | none => run no m looped s k

end Rollout.Pattern
