import Dialogue.Json.Record

/-! # When a conversation closes

    A conversation of a single contact closes with it. One of several contacts may have a time
    limit, counted from its first contact, and the name of a hook that decides. -/

namespace Dialogue.Flow

open Json

/-- When a conversation closes as one of its contacts ends. -/
structure ClosureConfig where
  multiContact : Bool := false
  /-- Longest life of the conversation, in seconds. -/
  timeLimit : Option UInt64 := none
  hook : Option String := none
  deriving DecidableEq, Repr

namespace ClosureConfig

/-- The conversation closes with its first contact. -/
def singleContact : ClosureConfig := {}

instance : Inhabited ClosureConfig := ⟨singleContact⟩

instance : ToJson ClosureConfig :=
  ⟨fun c => .object (("multiContact", toJson c.multiContact)
    :: memberIfSome "conversationTimeLimit" c.timeLimit ++ memberIfSome "customHandler" c.hook)⟩

/-- The members of the document, in order. -/
def keys : List String := ["multiContact", "conversationTimeLimit", "customHandler"]

/-- The configuration that a document tells. -/
def ofWritten? (w : Written) : Option ClosureConfig := do
  let fs ← w.fields? keys
  return {
    multiContact := ← fs.withDefault "multiContact" false Written.bool?
    timeLimit := ← fs.optional "conversationTimeLimit" Written.uint64?
    hook := ← fs.optional "customHandler" Written.string? }

end ClosureConfig
end Dialogue.Flow
