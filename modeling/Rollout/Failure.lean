import Rollout.Fault
import Rollout.Json.Display

/-!
# Failures

An operation of the library that cannot be carried out ends in a failure. A failure says that
the given template is not acceptable, that the operation comes too early, or that a template
could not be fetched. Faults of a computation pass through unchanged.
-/

namespace Rollout

/-- Reasons for which something is not a template. -/
inductive Rejection
  | notText (kind : Json.Kind)
  | unreadable (error : Json.ReadError)
  | notObject
  | parametersNotObject
  | parameterNotObject (key : String)
  | conditionalValuesNotObject (key : String)
  | conditionsNull
  | conditionsNotArray
  | unnamedCondition (entry : Json)
  deriving Repr

/-- The wording for a text that does not hold JSON. -/
def Rejection.unreadableMessage (error : String) : String :=
  "Invalid Remote Config template JSON: " ++ error

/-- The wording of a rejection. -/
def Rejection.message : Rejection → String
  | .notText kind =>
    unreadableMessage ("the JSON object must be str, bytes or bytearray, not " ++ kind.name)
  | .unreadable error => unreadableMessage error.message
  | .notObject => "Remote Config template data must be a non-null object"
  | .parametersNotObject => "Remote Config parameters must be a non-null object"
  | .parameterNotObject key =>
    "Remote Config parameter \"" ++ key ++ "\" must be a non-null object"
  | .conditionalValuesNotObject key =>
    "Remote Config parameter \"" ++ key ++ "\" conditionalValues must be an object"
  | .conditionsNull => "Remote Config conditions must be a non-null object"
  | .conditionsNotArray => "Remote Config conditions must be an array"
  | .unnamedCondition entry =>
    "Remote Config condition must have a string name: " ++ entry.displayText

/-- Operations that come too early. -/
inductive Unready
  | nothingToEvaluate
  | nothingToWrite
  | noLoader
  deriving DecidableEq, Repr

/-- The wording of an operation that comes too early. -/
def Unready.message : Unready → String
  | .nothingToEvaluate =>
    "No Remote Config Server template in cache. " ++
      "Call load() or set() before calling evaluate()."
  | .nothingToWrite =>
    "No Remote Config Server template in cache. Call load() or set() before calling to_json()."
  | .noLoader =>
    "No template loader configured. Pass a loader when creating the template, " ++
      "or call set() instead."

/-- Troubles that a loader meets outside of the library. -/
inductive Mishap
  | unavailable (text : String)
  | unsuitable (text : String)
  | missing (key : String)
  | fault (f : Fault)
  deriving DecidableEq, Repr

/-- The wording of a mishap; a missing key is quoted. -/
def Mishap.message : Mishap → String
  | .unavailable text => text
  | .unsuitable text => text
  | .missing key => String.ofList (Text.quoted key.toList)
  | .fault f => f.message

/-- Kinds of failures, as callers tell them apart. -/
inductive FailureKind
  | general (code : String)
  | invalidArgument
  | failedPrecondition
  | unknown
  deriving DecidableEq, Repr

namespace FailureKind

/-- The code of a kind. -/
def code : FailureKind → String
  | .general code => code
  | .invalidArgument => "INVALID_ARGUMENT"
  | .failedPrecondition => "FAILED_PRECONDITION"
  | .unknown => "UNKNOWN"

/-- The kinds that blame what the caller did. -/
def blamesCaller : FailureKind → Bool
  | .invalidArgument => true
  | .failedPrecondition => true
  | _ => false

end FailureKind

/-- A failure that an application declares itself, in the terms of the library. -/
structure Report where
  kind : FailureKind
  message : String
  cause : Option Mishap
  deriving DecidableEq, Repr

/-- Failures of operations. -/
inductive Failure
  | rejected (r : Rejection)
  | unready (u : Unready)
  | loading (m : Mishap)
  | reported (r : Report)
  | fault (f : Fault)
  deriving Repr

namespace Failure

/-- The wording of a failure. -/
def message : Failure → String
  | .rejected r => r.message
  | .unready u => u.message
  | .loading m => "Failed to load Remote Config server template: " ++ m.message
  | .reported r => r.message
  | .fault f => f.message

/-- The kind of a failure; faults have none. -/
def kind? : Failure → Option FailureKind
  | .rejected _ => some .invalidArgument
  | .unready _ => some .failedPrecondition
  | .loading _ => some .unknown
  | .reported r => some r.kind
  | .fault _ => none

end Failure

end Rollout
