import Rollout.Json.Reader
import Rollout.Text.Quoted

/-!
# Faults

A fault is a computation that cannot be carried out on the values it is given: a number that is
too large, a pattern that repeats too often, a text that has no encoding, or a value of a kind that
the computation does not accept. Faults are not caught inside the library; its own refusals are
failures.
-/

namespace Rollout

/-- Computations that cannot be carried out. -/
inductive Fault
  | integerTooLarge
  | infiniteInteger
  | repetitionTooLarge
  | tooManyDigits (digits : Nat)
  | mixedAlphabets
  | codePointTooLarge
  | lookTooFar
  | crossedGroup
  | notIterable (kind : Json.Kind)
  | notIndexable (kind : Json.Kind)
  | notHashable (kind : Json.Kind)
  | noFirstEntry
  | noMembers (kind : Json.Kind)
  | badPair (index : Nat)
  | badPairLength (index length : Nat)
  | notEncodable (first : Surrogate) (position count : Nat)
  deriving DecidableEq, Repr

/-- The wording of a fault. -/
def Fault.message : Fault → String
  | .integerTooLarge => "int too large to convert to float"
  | .infiniteInteger => "cannot convert float infinity to integer"
  | .repetitionTooLarge => "the repetition number is too large"
  | .tooManyDigits digits => (Json.ReadError.tooManyDigits digits).message
  | .mixedAlphabets => "ASCII and UNICODE flags are incompatible"
  | .codePointTooLarge => "Python int too large to convert to C int"
  | .lookTooFar => "invalid SRE code"
  | .crossedGroup =>
    "The span of capturing group is wrong, please report a bug for the re module."
  | .notIterable kind => "'" ++ kind.name ++ "' object is not iterable"
  | .notIndexable kind => "'" ++ kind.name ++ "' object is not subscriptable"
  | .notHashable kind => "unhashable type: '" ++ kind.name ++ "'"
  | .noFirstEntry => "0"
  | .noMembers kind => "'" ++ kind.name ++ "' object has no attribute 'items'"
  | .badPair index =>
    "cannot convert dictionary update sequence element #" ++ toString index ++ " to a sequence"
  | .badPairLength index length =>
    "dictionary update sequence element #" ++ toString index ++ " has length " ++
      toString length ++ "; 2 is required"
  | .notEncodable first position 1 =>
    "'utf-8' codec can't encode character '\\u" ++ String.ofList (Text.hexDigits 4 first.code) ++
      "' in position " ++ toString position ++ ": surrogates not allowed"
  | .notEncodable _ position count =>
    "'utf-8' codec can't encode characters in position " ++ toString position ++ "-" ++
      toString (position + count - 1) ++ ": surrogates not allowed"

end Rollout
