import Rollout.Json.Display
import Rollout.Json.Key

/-!
# Contexts

A context describes the client for whom a template is evaluated: an id by which the population
is divided, and signals that the application defines. A context may be given flat, as one object
in which the id is a signal of its own, or typed, as an id and signals apart from each other.

## Implementation notes

Signals may also be given as a list of pairs. Their keys then need not be texts; such keys are
kept and listed, but no condition can ask for them. Numbers and truth values that are equal are
the same key.
-/

namespace Rollout

/-- The key of a signal. -/
structure SignalKey where
  content : Json

namespace SignalKey

instance : BEq SignalKey := ⟨fun a b => a.content.sameKey b.content⟩

/-- The key that is a text. -/
def ofText (s : String) : SignalKey := ⟨.str s⟩

end SignalKey

/-- Signals in order. -/
abbrev Signals := List (SignalKey × Json)

namespace Signals

/-- The signals of an object. -/
def ofMembers (members : List (String × Json)) : Signals :=
  members.map fun (key, j) => (.ofText key, j)

/-- The texts of one character of which a text is made. -/
def letters (t : RawText) : List Json := t.signs.map fun s => .ofRaw (.ofSigns [s] rfl)

/-- The entries of a value that can be gone through: items, letters or keys. -/
def parts? : Json → Option (List Json)
  | .arr items => some items
  | .str s => some (letters s)
  | .stray t => some (letters (.stray t))
  | .obj members => some (members.map fun (key, _) => .str key)
  | _ => none

/-- The pair at a position of a list of pairs. -/
def readPair (index : Nat) (j : Json) : Except Fault (SignalKey × Json) :=
  match parts? j with
  | none => .error (.badPair index)
  | some [.arr _, _] => .error (.notHashable .arr)
  | some [.obj _, _] => .error (.notHashable .obj)
  | some [key, value] => .ok (⟨key⟩, value)
  | some parts => .error (.badPairLength index parts.length)

/-- Put the pairs of a list, the first of which is at the given position. -/
def putPairs (signals : Signals) (index : Nat) : List Json → Except Fault Signals
  | [] => .ok signals
  | j :: rest =>
    match readPair index j with
    | .error e => .error e
    | .ok (key, value) => putPairs (Entries.put signals key value) (index + 1) rest

/-- The signals that a value describes; a value that is not set describes none. -/
def ofJson (j : Json) : Except Fault Signals :=
  if !j.isSet then .ok []
  else
    match j with
    | .obj members => .ok (ofMembers members)
    | j =>
      match parts? j with
      | some pairs => putPairs [] 0 pairs
      | none => .error (.notIterable j.kind)

end Signals

/-- What is known about a client. -/
structure Context where
  id : Option RawText
  signals : Signals

namespace Context

/-- The signal key under which a flat context holds the id. -/
def idKey : String := "randomization_id"

/-- An id is the displayed form of a value that is not null. -/
def readId (j : Json) : Option RawText := if j.isNull then none else some j.rawText

/-- The typed form of a context. -/
def typed (id signals : Json) : Except Fault Context :=
  match Signals.ofJson signals with
  | .error e => .error e
  | .ok signals => .ok { id := readId id, signals := signals }

/-- The context of given signals, the id among them. -/
def ofSignals (signals : Signals) : Context :=
  { id := readId ((Entries.find? signals (.ofText idKey)).getD .null), signals := signals }

/-- The flat form of a context. -/
def flat (j : Json) : Except Fault Context :=
  match Signals.ofJson j with
  | .error e => .error e
  | .ok signals => .ok (ofSignals signals)

/-- The value of a signal, null when it is not defined. The id is found under its key unless a
signal has that key. -/
def get (c : Context) (key : String) : Json :=
  match Entries.find? c.signals (.ofText key) with
  | some j => j
  | none =>
    if key = idKey then
      match c.id with
      | some id => .ofRaw id
      | none => .null
    else .null

end Context

end Rollout
