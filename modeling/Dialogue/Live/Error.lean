import Dialogue.Conversation.Session
import Dialogue.Memory.Error

/-! # Errors of the manager -/

namespace Dialogue.Live

open Conversation StateMachine Memory

/-- Why a call on the manager fails. -/
inductive RuntimeError where
  | compile (error : CompileError)
  | resume (error : ResumeError)
  | memory (error : StoreError)
  | snapshot (reason : String)
  | flowSource (reason : String)
  | versionNotFound (flowId versionId : String)
  | unknownConversation (conversationId : String)
  | conversationClosed (conversationId : String)
  /-- The conversation was closed, but not all of its state could be removed. -/
  | cleanupFailed (conversationId : String) (outcome : ClosureOutcome) (reason : String)
  /-- No actor can have a mailbox of this size. -/
  | mailboxTooLarge (size : Nat)
  deriving DecidableEq, Repr

/-- The error in words. -/
def RuntimeError.message : RuntimeError → String
  | .compile e => e.message
  | .resume e => e.message
  | .memory e => e.message
  | .snapshot reason => s!"Snapshot store error: {reason}"
  | .flowSource reason => s!"Flow version source error: {reason}"
  | .versionNotFound flowId versionId => s!"Flow version {versionId} of flow {flowId} not found"
  | .unknownConversation id => s!"Conversation {id} not found"
  | .conversationClosed id => s!"Conversation {id} is closed"
  | .cleanupFailed id _ reason => s!"Conversation {id} closed with incomplete cleanup: {reason}"
  | .mailboxTooLarge size => s!"There is no mailbox for {size} commands"

end Dialogue.Live
