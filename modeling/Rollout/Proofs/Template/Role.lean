import Rollout.Json.Basic

/-!
# The interpreted part of a template

A template is made of objects in certain roles, and in each role only some members are interpreted.
The interpreted part of a value is what is left of it when all other members are left out, at every
depth. Two values with the same interpreted part differ by members that were added, removed or
changed without being interpreted.

## Implementation notes

The members of a table, such as the parameters under their keys, are all interpreted. So is every
member inside a value that is displayed or compared as a whole, such as the text of a parameter.
-/

namespace Rollout

/-- What a value in a template is read as. -/
inductive Role
  | template
  | parameters
  | parameter
  | values
  | value
  | declarations
  | declaration
  | condition
  | combination
  | operands
  | percent
  | range
  | comparison
  | whole
  | ignored
  deriving DecidableEq

namespace Role

/-- The members that are interpreted in an object of fixed members, with their roles. -/
def members : Role → List (String × Role)
  | .template => [("parameters", .parameters), ("conditions", .declarations)]
  | .declaration => [("name", .whole), ("condition", .condition)]
  | .condition =>
    [("orCondition", .combination), ("andCondition", .combination), ("true", .ignored),
     ("false", .ignored), ("percent", .percent), ("customSignal", .comparison)]
  | .combination => [("conditions", .operands)]
  | .percent =>
    [("percentOperator", .whole), ("microPercent", .whole), ("seed", .whole),
     ("microPercentRange", .range)]
  | .range => [("microPercentLowerBound", .whole), ("microPercentUpperBound", .whole)]
  | .comparison =>
    [("customSignalOperator", .whole), ("customSignalKey", .whole),
     ("targetCustomSignalValues", .whole)]
  | .parameter => [("defaultValue", .value), ("conditionalValues", .values)]
  | .value => [("value", .whole), ("useInAppDefault", .whole)]
  | _ => []

/-- The role of the member under a key, if it is interpreted. -/
def member? (role : Role) (key : String) : Option Role :=
  match role with
  | .whole => some .whole
  | .parameters => some .parameter
  | .values => some .value
  | role => role.members.lookup key

/-- The role of the items of an array. -/
def item : Role → Role
  | .whole => .whole
  | .declarations => .declaration
  | .operands => .condition
  | _ => .ignored

end Role

namespace Json

mutual

/-- What is left of a value in a role without the members that are not interpreted. -/
def interpreted : Json → Role → Json
  | .arr items, role => .arr (interpretedItems items role.item)
  | .obj members, role => .obj (interpretedMembers members role)
  | j, _ => j

def interpretedItems : List Json → Role → List Json
  | [], _ => []
  | j :: rest, role => interpreted j role :: interpretedItems rest role

def interpretedMembers : List (String × Json) → Role → List (String × Json)
  | [], _ => []
  | (key, j) :: rest, role =>
    match role.member? key with
    | some r => (key, interpreted j r) :: interpretedMembers rest role
    | none => interpretedMembers rest role

end

mutual

/-- Nothing is left out of a value that is interpreted as a whole. -/
theorem interpreted_whole : ∀ j : Json, j.interpreted .whole = j
  | .arr items => by
    rw [interpreted, Role.item, interpretedItems_whole items]
  | .obj members => by
    rw [interpreted, interpretedMembers_whole members]
  | .null | .bool _ | .int _ | .float _ | .str _ | .stray _ => by rw [interpreted] <;> simp

theorem interpretedItems_whole : ∀ items : List Json, interpretedItems items .whole = items
  | [] => by rw [interpretedItems]
  | j :: rest => by
    rw [interpretedItems, interpreted_whole j, interpretedItems_whole rest]

theorem interpretedMembers_whole :
    ∀ members : List (String × Json), interpretedMembers members .whole = members
  | [] => by rw [interpretedMembers]
  | (key, j) :: rest => by
    simp only [interpretedMembers, Role.member?, interpreted_whole j, interpretedMembers_whole rest]

end

theorem interpretedItems_eq_map (items : List Json) (role : Role) :
    interpretedItems items role = items.map fun j => j.interpreted role := by
  induction items with
  | nil => rfl
  | cons j rest ih => rw [interpretedItems, ih, List.map_cons]

theorem find?_interpretedMembers {role r : Role} {key : String} (h : role.member? key = some r)
    (members : List (String × Json)) :
    Entries.find? (interpretedMembers members role) key =
      (Entries.find? members key).map fun j => j.interpreted r := by
  induction members with
  | nil => rfl
  | cons e rest ih =>
      obtain ⟨k, j⟩ := e
      rw [interpretedMembers, Entries.find?_cons]
      by_cases hk : k = key
      · subst hk
        simp [h, Entries.find?_cons]
      · cases role.member? k with
        | none => simp [hk, ih]
        | some r' => simp [hk, ih, Entries.find?_cons]

theorem field_interpretedMembers (role : Role) (key : String) {r : Role}
    (h : role.member? key = some r) (members : List (String × Json)) :
    (obj (interpretedMembers members role)).field key =
      ((obj members).field key).interpreted r := by
  rw [field, field, find?_interpretedMembers h]
  cases Entries.find? members key <;> simp [interpreted]

/-- An interpreted member is left, in its role. -/
theorem field_interpreted (role : Role) (key : String) {r : Role}
    (h : role.member? key = some r) (j : Json) :
    (j.interpreted role).field key = (j.field key).interpreted r := by
  cases j with
  | obj members => rw [interpreted, field_interpretedMembers role key h]
  | _ => simp [interpreted, field]

theorem field?_interpreted {role r : Role} {key : String} (h : role.member? key = some r)
    (j : Json) :
    (j.interpreted role).field? key = (j.field? key).map fun value => value.interpreted r := by
  cases j with
  | obj members => rw [interpreted, field?, field?, find?_interpretedMembers h]
  | _ => simp [interpreted, field?]

@[simp] theorem isNull_interpreted (j : Json) (role : Role) :
    (j.interpreted role).isNull = j.isNull := by
  cases j <;> simp [interpreted, isNull]

end Json

end Rollout
