import Rollout.Proofs.Config.Totality

/-!
# What a context answers

A context is asked for its id and for signals by name. A flat context answers with the members of
its object. A typed one answers with the members of its signals, and under the key of the id with
the id if no signal has that key.
-/

namespace Rollout

theorem Signals.find?_ofMembers (members : List (String × Json)) (key : String) :
    Entries.find? (ofMembers members) (.ofText key) = Entries.find? members key := by
  induction members with
  | nil => rfl
  | cons e rest ih =>
      obtain ⟨k, j⟩ := e
      have hkey : (SignalKey.ofText k == .ofText key) = (k == key) := rfl
      change Entries.find? ((SignalKey.ofText k, j) :: ofMembers rest) _ = _
      rw [Entries.find?_cons, Entries.find?_cons, hkey, ih]

namespace Context

/-- The value under which a flat context gives an id, null when there is none. -/
def idValue : Option RawText → Json
  | some id => .ofRaw id
  | none => .null

theorem readId_idValue (id : Option RawText) : readId (idValue id) = id := by
  cases id with
  | none => rfl
  | some id => exact readId_ofRaw id

@[simp] theorem readId_null : readId .null = none := rfl

theorem flat_obj (signals : List (String × Json)) :
    flat (.obj signals) = .ok (PlainContext.object signals).context :=
  (PlainContext.object signals).source_made

theorem get_eq (c : Context) (key : String) :
    c.get key = (Entries.find? c.signals (.ofText key)).getD
      (if key = idKey then idValue c.id else .null) := by
  unfold get
  cases Entries.find? c.signals (.ofText key) with
  | some j => rfl
  | none => cases c.id <;> rfl

end Context

namespace PlainContext

open Context

variable (signals : List (String × Json))

theorem object_id : (object signals).context.id = readId ((Json.obj signals).field idKey) := by
  rw [context, ofSignals, Signals.find?_ofMembers, Json.field]

theorem object_get (key : String) :
    (object signals).context.get key = (Json.obj signals).field key := by
  rw [get_eq, object_id, context, ofSignals, Signals.find?_ofMembers]
  cases h : Entries.find? signals key with
  | some j => simp [Json.field, h]
  | none =>
      by_cases hkey : key = idKey
      · subst hkey
        simp [Json.field, h, idValue]
      · simp [Json.field, h, hkey]

theorem typed_get (id : Option RawText) (key : String) :
    (typed id signals).context.get key =
      (Entries.find? signals key).getD (if key = idKey then idValue id else .null) := by
  rw [get_eq, context, Signals.find?_ofMembers]

end PlainContext

end Rollout
