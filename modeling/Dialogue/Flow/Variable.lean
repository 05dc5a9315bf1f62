import Dialogue.Flow.Problem
import Dialogue.Json.Record

/-! # Declared variables

    A variable is a fact that the flow expects to collect. Every type but `custom`, which only tools
    fill, needs a prompt that tells how to extract it; an `enum` needs its values. -/

namespace Dialogue.Flow

open Json

/-- The types that a variable can be declared with. -/
inductive VariableType where | string | number | boolean | date | enum | object | array | custom
  deriving DecidableEq, Repr

namespace VariableType

/-- All types. -/
def all : List VariableType := [.string, .number, .boolean, .date, .enum, .object, .array, .custom]

/-- The name in documents. -/
def name : VariableType → String
  | .string => "string"
  | .number => "number"
  | .boolean => "boolean"
  | .date => "date"
  | .enum => "enum"
  | .object => "object"
  | .array => "array"
  | .custom => "custom"

instance : ToJson VariableType := ⟨fun t => .string t.name⟩

/-- The type of that name. -/
def ofWritten? : Written → Option VariableType := Written.choice? (all.map fun t => (t.name, t))

end VariableType

/-- A variable as its author declares it. -/
structure Variable where
  id : String
  name : String
  type : VariableType
  /-- How to extract the value. -/
  prompt : Option String := none
  enumValues : Option (List String) := none
  deriving DecidableEq, Repr

namespace Variable

/-- Everything that is wrong with the declaration. -/
def problems (v : Variable) : List Problem :=
  (if v.type ≠ .custom ∧ v.prompt.getD "" = "" then [.noPrompt v.name v.type.name] else [])
    ++ (if v.type = .enum ∧ v.enumValues.getD [] = [] then [.noEnumValues v.name] else [])

instance : ToJson Variable :=
  ⟨fun v => .object ([("_id", toJson v.id), ("name", toJson v.name), ("type", toJson v.type)]
    ++ memberIfSome "prompt" v.prompt ++ memberIfSome "enumValues" v.enumValues)⟩

/-- The members of the document, in order. -/
def keys : List String := ["_id", "name", "type", "prompt", "enumValues"]

/-- The variable that a document tells. -/
def ofWritten? (w : Written) : Option Variable := do
  let fs ← w.fields? keys
  return {
    id := ← fs.required "_id" Written.string?
    name := ← fs.required "name" Written.string?
    type := ← fs.required "type" VariableType.ofWritten?
    prompt := ← fs.optional "prompt" Written.string?
    enumValues := ← fs.optional "enumValues" (Written.list? Written.string?) }

end Variable
end Dialogue.Flow
