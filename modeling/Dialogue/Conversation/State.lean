import Dialogue.Flow.Version

/-! # The state of a conversation

    A conversation is in one task, has one contact attached, and remembers the contacts it had
    before and a summary of each contact that ended without closing it. The times in its
    records are instants here, which a clock has shown or a text has told; the records
    themselves can hold any timestamps. -/

namespace Dialogue.Conversation

open Json Time Dialogue.Flow

/-- Why a contact ended. -/
inductive EndReason where | userHangup | agentHangup | timeout | error
  deriving DecidableEq, Repr

namespace EndReason

/-- All reasons. -/
def all : List EndReason := [.userHangup, .agentHangup, .timeout, .error]

/-- The name in documents. -/
def name : EndReason → String
  | .userHangup => "user_hangup"
  | .agentHangup => "agent_hangup"
  | .timeout => "timeout"
  | .error => "error"

instance : ToJson EndReason := ⟨fun r => .string r.name⟩

/-- The reason of that name. -/
def ofWritten? : Written → Option EndReason := Written.choice? (all.map fun r => (r.name, r))

end EndReason

/-- A contact that has just ended. -/
structure ContactEnd where
  contactId : String
  reason : Option EndReason := none
  durationSecs : Option UInt64 := none
  summary : Option String := none
  deriving DecidableEq, Repr

/-- What is kept of a contact that ended. -/
structure ContactSummary (T : Type := Instant) where
  contactId : String
  taskName : String
  reason : Option EndReason := none
  endedAt : T
  durationSecs : Option UInt64 := none
  summary : String
  deriving DecidableEq, Repr

/-- Who takes part in a conversation and where it is. -/
structure Context (T : Type := Instant) where
  conversationId : String
  /-- The contact that is attached. -/
  contactId : String
  /-- The name of the current task. -/
  currentTask : String
  channel : Channel
  startedAt : T
  /-- Contacts that were attached and then replaced, each once. -/
  previousContactIds : List String := []
  deriving DecidableEq, Repr

/-- All that changes while a conversation goes on. -/
structure ConversationState where
  context : Context
  previousContacts : List ContactSummary := []
  deriving DecidableEq, Repr

/-! ### Contacts -/

/-- Attaches a contact; the one it replaces is remembered. -/
def ConversationState.attach (s : ConversationState) (contactId : String) : ConversationState :=
  let c := s.context
  if contactId = c.contactId then s
  else
    let previous := c.previousContactIds
    let previous := if previous.contains c.contactId then previous else previous ++ [c.contactId]
    { s with context := { c with contactId, previousContactIds := previous } }

/-- The summary of a contact that ends now; without a text of its own it names the task
    and the reason. -/
def ConversationState.summarise (s : ConversationState) (c : ContactEnd) (now : Instant) :
    ContactSummary :=
  let task := s.context.currentTask
  let reason := (c.reason.map (·.name)).getD "unspecified"
  { contactId := c.contactId, taskName := task, reason := c.reason, endedAt := now,
    durationSecs := c.durationSecs
    summary := c.summary.getD s!"Contact {c.contactId} ended in task '{task}' ({reason})" }

/-! ### Documents -/

instance : ToJson ContactEnd :=
  ⟨fun c => .object [("contactId", toJson c.contactId), ("endReason", toJson c.reason),
    ("durationSecs", toJson c.durationSecs), ("summary", toJson c.summary)]⟩

instance {T : Type} [ToJson T] : ToJson (ContactSummary T) :=
  ⟨fun c => .object [("contactId", toJson c.contactId), ("taskName", toJson c.taskName),
    ("endReason", toJson c.reason), ("endedAt", toJson c.endedAt),
    ("durationSecs", toJson c.durationSecs),
    ("summary", toJson c.summary)]⟩

instance {T : Type} [ToJson T] : ToJson (Context T) :=
  ⟨fun c => .object [("conversationId", toJson c.conversationId), ("contactId", toJson c.contactId),
    ("currentTask", toJson c.currentTask), ("channel", toJson c.channel),
    ("startedAt", toJson c.startedAt),
    ("previousContactIds", toJson c.previousContactIds)]⟩

/-- The end of a contact that a document tells. -/
def ContactEnd.ofWritten? (w : Written) : Option ContactEnd := do
  let fs ← w.fields? ["contactId", "endReason", "durationSecs", "summary"]
  return {
    contactId := ← fs.required "contactId" Written.string?
    reason := ← fs.optional "endReason" EndReason.ofWritten?
    durationSecs := ← fs.optional "durationSecs" Written.uint64?
    summary := ← fs.optional "summary" Written.string? }

/-- The summary that a document tells. -/
def ContactSummary.ofWritten? (w : Written) : Option ContactSummary := do
  let fs ← w.fields? ["contactId", "taskName", "endReason", "endedAt", "durationSecs", "summary"]
  return {
    contactId := ← fs.required "contactId" Written.string?
    taskName := ← fs.required "taskName" Written.string?
    reason := ← fs.optional "endReason" EndReason.ofWritten?
    endedAt := ← fs.required "endedAt" Written.instant?
    durationSecs := ← fs.optional "durationSecs" Written.uint64?
    summary := ← fs.required "summary" Written.string? }

/-- The context that a document tells. -/
def Context.ofWritten? (w : Written) : Option Context := do
  let fs ← w.fields?
    ["conversationId", "contactId", "currentTask", "channel", "startedAt", "previousContactIds"]
  return {
    conversationId := ← fs.required "conversationId" Written.string?
    contactId := ← fs.required "contactId" Written.string?
    currentTask := ← fs.required "currentTask" Written.string?
    channel := ← fs.required "channel" Channel.ofWritten?
    startedAt := ← fs.required "startedAt" Written.instant?
    previousContactIds := ← fs.withDefault "previousContactIds" [] (Written.list? Written.string?) }

end Dialogue.Conversation
