import Rollout.Fault
import Rollout.Text.Search

/-!
# Versions

A version is made of one to five numbers with points between them. Missing numbers at the end are
zero, and versions are ordered by their first different number.
-/

namespace Rollout.Signal

open Text

/-- Five numbers, the most significant first. -/
structure Version where
  parts : List Nat
  deriving DecidableEq, Repr

namespace Version

/-- The count of numbers in a version. -/
def size : Nat := 5

/-- Recognise a piece of a version: at least one digit and nothing else. -/
def isPiece (piece : List Char) : Bool := !piece.isEmpty && piece.all isAsciiDigit

/-- The pieces of a text that has the form of a version. -/
def pieces? (text : List Char) : Option (List (List Char)) :=
  let pieces := splitAt '.' text
  if pieces.length ≤ size && pieces.all isPiece then some pieces else none

/-- The number of a piece; too many digits are a fault. -/
def readPiece (piece : List Char) : Except Fault Nat :=
  if Numeral.maxDigits < piece.length then .error (.tooManyDigits piece.length)
  else .ok (digitsToNat piece)

/-- The numbers of all pieces. -/
def readPieces : List (List Char) → Except Fault (List Nat)
  | [] => .ok []
  | piece :: rest =>
    match readPiece piece with
    | .error e => .error e
    | .ok n =>
      match readPieces rest with
      | .error e => .error e
      | .ok ns => .ok (n :: ns)

/-- The version with the given first numbers. -/
def ofParts (ns : List Nat) : Version := ⟨ns ++ List.replicate (size - ns.length) 0⟩

/-- Read a version, if the text is one. -/
def read (text : List Char) : Except Fault (Option Version) :=
  match pieces? text with
  | none => .ok none
  | some pieces =>
    match readPieces pieces with
    | .error e => .error e
    | .ok ns => .ok (some (ofParts ns))

/-- The order of two rows of numbers by their first difference. -/
def compareParts : List Nat → List Nat → Ordering
  | a :: as, b :: bs =>
    match compare a b with
    | .eq => compareParts as bs
    | o => o
  | _, _ => .eq

/-- The order of two versions. -/
def order (v w : Version) : Ordering := compareParts v.parts w.parts

end Version

end Rollout.Signal
