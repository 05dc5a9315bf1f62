import Dialogue.Json.Record

/-! # Guards

    A transition into a task is open when every fact it requires is known and not empty. Otherwise
    the first missing one, in the order of declaration, is the reason of the refusal. -/

namespace Dialogue.StateMachine

open Json

/-- What is known about each variable. -/
abbrev Facts := String → Option Value

/-- Why a request for a task was refused. -/
inductive Rejection where
  | missingParameter (variableId : String)
  | noSuchTransition (origin target : String)
  deriving DecidableEq, Repr

/-- The reason in words. -/
def Rejection.message : Rejection → String
  | .missingParameter id => s!"Missing the required parameter: {id}"
  | .noSuchTransition origin target => s!"No transition from '{origin}' to '{target}'"

/-- Known and not empty. -/
def isKnown (facts : Facts) (id : String) : Bool := (facts id).any Value.isPresent

/-- The first of the required facts that is missing. -/
def firstMissing? (facts : Facts) (required : List String) : Option String :=
  required.find? fun id => !isKnown facts id

/-- Passes, or names the first missing fact. -/
def checkFacts (facts : Facts) (required : List String) : Except Rejection Unit :=
  match firstMissing? facts required with
  | some id => .error (.missingParameter id)
  | none => .ok ()

/-! ### Documents -/

instance : ToJson Rejection where
  toJson
    | .missingParameter id =>
      .object [("kind", toJson "missing_parameter"), ("variable_id", toJson id)]
    | .noSuchTransition origin target =>
      .object [("kind", toJson "no_such_transition"), ("from", toJson origin),
        ("to", toJson target)]

/-- The reason that a document tells. -/
def Rejection.ofWritten? (w : Written) : Option Rejection := do
  let (tag, rest) ← w.tagged? "kind" 0
  match ← tag.string? with
  | "missing_parameter" => do
    let fs ← rest.fields? ["variable_id"]
    return .missingParameter (← fs.required "variable_id" Written.string?)
  | "no_such_transition" => do
    let fs ← rest.fields? ["from", "to"]
    return .noSuchTransition (← fs.required "from" Written.string?)
      (← fs.required "to" Written.string?)
  | _ => none

end Dialogue.StateMachine
