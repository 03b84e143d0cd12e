/-!
# Operators on signals

A signal is compared with target values as a text, as a number or as a version. The order
comparisons are the same for numbers and versions.
-/

namespace Rollout.Signal

/-- Comparisons of texts. -/
inductive TextTest
  | contains
  | lacks
  | equals
  | matchesPattern
  deriving DecidableEq, Repr

/-- Comparisons by an order. -/
inductive Relation
  | less
  | lessEqual
  | equal
  | notEqual
  | greater
  | greaterEqual
  deriving DecidableEq, Repr

/-- The comparison holds for a signal that stands in the given order to its target. -/
def Relation.holds : Relation → Ordering → Bool
  | .less, o => o == .lt
  | .lessEqual, o => o != .gt
  | .equal, o => o == .eq
  | .notEqual, o => o != .eq
  | .greater, o => o == .gt
  | .greaterEqual, o => o != .lt

/-- Operators that a condition can name; an operator that is not recognised is unknown. -/
inductive Operator
  | text (t : TextTest)
  | numeric (r : Relation)
  | version (r : Relation)
  | unknown
  deriving DecidableEq, Repr

namespace Operator

/-- The operators with their names. -/
def names : List (String × Operator) :=
  [("STRING_CONTAINS", .text .contains),
   ("STRING_DOES_NOT_CONTAIN", .text .lacks),
   ("STRING_EXACTLY_MATCHES", .text .equals),
   ("STRING_CONTAINS_REGEX", .text .matchesPattern),
   ("NUMERIC_LESS_THAN", .numeric .less),
   ("NUMERIC_LESS_EQUAL", .numeric .lessEqual),
   ("NUMERIC_EQUAL", .numeric .equal),
   ("NUMERIC_NOT_EQUAL", .numeric .notEqual),
   ("NUMERIC_GREATER_THAN", .numeric .greater),
   ("NUMERIC_GREATER_EQUAL", .numeric .greaterEqual),
   ("SEMANTIC_VERSION_LESS_THAN", .version .less),
   ("SEMANTIC_VERSION_LESS_EQUAL", .version .lessEqual),
   ("SEMANTIC_VERSION_EQUAL", .version .equal),
   ("SEMANTIC_VERSION_NOT_EQUAL", .version .notEqual),
   ("SEMANTIC_VERSION_GREATER_THAN", .version .greater),
   ("SEMANTIC_VERSION_GREATER_EQUAL", .version .greaterEqual),
   ("UNKNOWN", .unknown)]

/-- The operator with a given name. -/
def ofName? (s : String) : Option Operator := names.lookup s

/-- The name of an operator. -/
def name (op : Operator) : String :=
  match names.find? fun e => e.2 == op with
  | some e => e.1
  | none => ""

end Operator

end Rollout.Signal
