import Rollout.Text.LetterCase
import Rollout.Text.Word
import Rollout.Text.Digit
import Rollout.Text.Blank

/-!
# Search patterns

A pattern describes pieces of text. It is a tree over single-character tests and positions in
the text, joined by sequence, choice and repetition, with groups that remember what they matched.

Characters are given by code points, because a pattern may name a code point that no text holds.
-/

namespace Rollout

/-- Modes that change what a part of a pattern matches. -/
structure Pattern.Modes where
  ignoreCase : Bool := false
  multiline : Bool := false
  dotAll : Bool := false
  wide : Bool := true
  deriving DecidableEq, Repr

/-- Classes of characters that have a letter of their own. -/
inductive Pattern.Category
  | digit
  | space
  | word
  deriving DecidableEq, Repr

/-- Members of a set of characters. -/
inductive Pattern.SetItem
  | code (n : Nat)
  | range (lo hi : Nat)
  | category (c : Pattern.Category) (negated : Bool)
  deriving DecidableEq, Repr

/-- Positions in a text that a pattern can ask for. -/
inductive Pattern.Anchor
  | lineStart
  | lineEnd
  | textStart
  | textEnd
  | boundary
  | nonBoundary
  deriving DecidableEq, Repr

/-- The order in which a repetition tries its counts. -/
inductive Pattern.Greed
  | greedy
  | lazy
  | possessive
  deriving DecidableEq, Repr

/-- The least and the greatest length of what a pattern matches. -/
abbrev Pattern.Width := Nat × Nat

/-- Changes of modes for a part of a pattern. -/
structure Pattern.ModeChange where
  on : List Char
  off : List Char
  deriving DecidableEq, Repr

/-- Search patterns. A reference to a group carries the width of the group. -/
inductive Pattern
  | empty
  | code (n : Nat) (negated : Bool)
  | any
  | set (negated : Bool) (items : List Pattern.SetItem)
  | anchor (a : Pattern.Anchor)
  | seq (p q : Pattern)
  | choice (p q : Pattern)
  | repeated (greed : Pattern.Greed) (least : Nat) (most : Option Nat) (p : Pattern)
  | group (index : Nat) (p : Pattern)
  | scoped (change : Pattern.ModeChange) (p : Pattern)
  | atomic (p : Pattern)
  | look (behind negated : Bool) (p : Pattern)
  | backref (index : Nat) (width : Pattern.Width)
  | ifGroup (index : Nat) (yes no : Pattern)
  deriving DecidableEq, Repr, Inhabited

namespace Pattern

/-- The pattern that matches the given patterns one after the other. -/
def ofList : List Pattern → Pattern
  | [] => .empty
  | [p] => p
  | p :: rest => .seq p (ofList rest)

/-- The pattern that tries the given patterns in order. -/
def choiceOf : List Pattern → Pattern
  | [] => .empty
  | [p] => p
  | p :: rest => .choice p (choiceOf rest)

/-- Widths are counted up to this bound, which stands for any greater width. -/
def maxWidth : Nat := Nat.pow 2 64

/-- The greatest width that a look behind may have. -/
def maxBehind : Nat := Nat.pow 2 32 - 1

/-- The width of what a pattern matches. -/
def width : Pattern → Width
  | .empty | .anchor _ | .look _ _ _ => (0, 0)
  | .code _ _ | .any | .set _ _ => (1, 1)
  | .seq p q =>
    let (lo, hi) := p.width
    let (lo', hi') := q.width
    (min (lo + lo') maxWidth, min (hi + hi') maxWidth)
  | .choice p q =>
    let (lo, hi) := p.width
    let (lo', hi') := q.width
    (min lo lo', max hi hi')
  | .repeated _ least most p =>
    let (lo, hi) := p.width
    (min (lo * least) maxWidth,
      match most with
      | some n => min (hi * n) maxWidth
      | none => if hi = 0 then 0 else maxWidth)
  | .group _ p | .scoped _ p | .atomic p => p.width
  | .backref _ w => w
  | .ifGroup _ yes no =>
    let (lo, hi) := yes.width
    let (lo', hi') := no.width
    (min lo lo', max hi hi')

/-- A look behind must have a fixed width, and where repetition is not available there must be
none. -/
def isWellFormed (repetition : Bool) : Pattern → Bool
  | .empty | .code _ _ | .any | .set _ _ | .anchor _ | .backref _ _ => true
  | .seq p q | .choice p q | .ifGroup _ p q =>
    p.isWellFormed repetition && q.isWellFormed repetition
  | .repeated _ _ _ p => repetition && p.isWellFormed repetition
  | .group _ p | .scoped _ p | .atomic p => p.isWellFormed repetition
  | .look behind _ p =>
    (!behind || (p.width.1 == p.width.2 && p.width.1 ≤ maxBehind)) && p.isWellFormed repetition

/-- The greatest width that is looked behind. -/
def reach : Pattern → Nat
  | .empty | .code _ _ | .any | .set _ _ | .anchor _ | .backref _ _ => 0
  | .seq p q | .choice p q | .ifGroup _ p q => max p.reach q.reach
  | .repeated _ _ _ p | .group _ p | .scoped _ p | .atomic p => p.reach
  | .look behind _ p => max (if behind then p.width.1 else 0) p.reach

/-- The greatest reach with which a pattern can be searched for. -/
def maxReach : Nat := Nat.pow 2 31 - 1

/-- Recognise the patterns that test one character. -/
def isSingle : Pattern → Bool
  | .code _ _ | .any | .set _ _ => true
  | .scoped _ p => p.isSingle
  | _ => false

/-- Apply a change of modes: letters that are switched on count before those switched off. -/
def Modes.change (m : Modes) (c : ModeChange) : Modes :=
  let wide := if c.on.contains 'a' then false else if c.on.contains 'u' then true else m.wide
  { ignoreCase := (m.ignoreCase || c.on.contains 'i') && !c.off.contains 'i'
    multiline := (m.multiline || c.on.contains 'm') && !c.off.contains 'm'
    dotAll := (m.dotAll || c.on.contains 's') && !c.off.contains 's'
    wide := wide }

end Pattern

end Rollout
