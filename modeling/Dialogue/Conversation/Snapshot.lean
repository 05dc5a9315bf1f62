import Dialogue.Conversation.State
import Dialogue.StateMachine.Compile

/-! # Snapshots

    All that is stored of a conversation, with the fingerprint of the machine it was taken on and
    the version that the machine was compiled from. A snapshot of any timestamps has a text; one
    that is read from a text has instants. -/

namespace Dialogue.Conversation

open Json Time

/-- What is stored of a conversation. -/
structure Snapshot (T : Type := Instant) where
  fingerprint : String
  flowId : String
  versionId : String
  currentTaskId : String
  context : Context T
  previousContacts : List (ContactSummary T) := []
  deriving DecidableEq, Repr

/-- Why a conversation cannot be taken up again. -/
inductive ResumeError where
  | fingerprintMismatch (expected found : String)
  | unknownState (state taskId : String)
  | corrupt (reason : String)
  deriving DecidableEq, Repr

/-- The error in words. -/
def ResumeError.message : ResumeError → String
  | .fingerprintMismatch expected found =>
    s!"Snapshot was taken against definition {found}, current definition is {expected}"
  | .unknownState state taskId => s!"Snapshot refers to unknown state '{state}' (task {taskId})"
  | .corrupt reason => s!"Corrupt snapshot: {reason}"

namespace Snapshot

instance {T : Type} [ToJson T] : ToJson (Snapshot T) :=
  ⟨fun s => .object [("definitionFingerprint", toJson s.fingerprint), ("flowId", toJson s.flowId),
    ("versionId", toJson s.versionId), ("currentTaskId", toJson s.currentTaskId),
    ("context", toJson s.context),
    ("previousContacts", toJson s.previousContacts)]⟩

/-- The snapshot that a document tells. -/
def ofWritten? (w : Written) : Option Snapshot := do
  let fs ← w.fields?
    ["definitionFingerprint", "flowId", "versionId", "currentTaskId", "context", "previousContacts"]
  return {
    fingerprint := ← fs.required "definitionFingerprint" Written.string?
    flowId := ← fs.required "flowId" Written.string?
    versionId := ← fs.required "versionId" Written.string?
    currentTaskId := ← fs.required "currentTaskId" Written.string?
    context := ← fs.required "context" Context.ofWritten?
    previousContacts :=
      ← fs.withDefault "previousContacts" [] (Written.list? ContactSummary.ofWritten?) }

/-- The text a snapshot is stored as. -/
def blob {T : Type} [ToJson T] (s : Snapshot T) : String := textOf s

/-- The snapshot that a text tells. -/
def ofBlob (blob : String) : Except ResumeError Snapshot :=
  match Written.ofText? blob >>= ofWritten? with
  | some s => .ok s
  | none => .error (.corrupt "the text is no snapshot")

end Snapshot
end Dialogue.Conversation
