import Dialogue.Conversation.State

/-! # Closing a conversation

    When a contact ends, the closure configuration decides whether the conversation ends with it:
    one of a single contact does; one of several ends when its time limit has been reached;
    otherwise the hook it names decides, and it goes on where there is none. -/

namespace Dialogue.Conversation

open Json Time Dialogue.Flow

/-- Whether a conversation is over when a contact ends. -/
inductive Decision where | close | keepAlive
  deriving DecidableEq, Repr

namespace Decision

/-- The name in documents. -/
def name : Decision → String
  | .close => "close_conversation"
  | .keepAlive => "keep_alive"

instance : ToJson Decision := ⟨fun d => .string d.name⟩

/-- The decision of that name. -/
def ofWritten? : Written → Option Decision :=
  Written.choice? [(Decision.close.name, .close), (Decision.keepAlive.name, .keepAlive)]

end Decision

/-- The rule that led to a decision. -/
inductive ClosureReason where
  | singleContact
  | timeLimitReached
  | hook (name : String)
  /-- The hook that is named is not registered. -/
  | hookMissing (name : String)
  | default
  deriving DecidableEq, Repr

/-- What the end of a contact comes to. -/
structure ClosureOutcome where
  decision : Decision
  reason : ClosureReason
  /-- There for conversations of several contacts. -/
  summary : Option ContactSummary := none
  deriving DecidableEq, Repr

/-- A rule of its own for the end of a contact; it has no decision when it breaks down. -/
abbrev Hook := ClosureConfig → ConversationState → ContactEnd → Option Decision

/-- The registered hooks by name. -/
abbrev Hooks := String → Option Hook

/-- The limit is reached when the whole seconds since the start are not negative and no
    fewer than it. -/
def limitReached (limit : UInt64) (startedAt now : Instant) : Bool :=
  let elapsed := wholeSeconds (now.since startedAt)
  0 ≤ elapsed && limit.toNat ≤ elapsed.natAbs

/-- What the hook of the configuration decides. -/
def decideByHook (hooks : Hooks) (config : ClosureConfig) (s : ConversationState) (c : ContactEnd) :
    Option (Decision × ClosureReason) :=
  match config.hook with
  | none => some (.keepAlive, .default)
  | some name =>
    match hooks name with
    | none => some (.keepAlive, .hookMissing name)
    | some hook => (hook config s c).map fun d => (d, .hook name)

/-- What becomes of the conversation when the contact ends now; nothing if the hook breaks down. -/
def decideClosure (hooks : Hooks) (config : ClosureConfig) (s : ConversationState) (c : ContactEnd)
    (now : Instant) :
    Option ClosureOutcome :=
  if !config.multiContact then some ⟨.close, .singleContact, none⟩
  else
    let summary := some (s.summarise c now)
    if config.timeLimit.any fun limit => limitReached limit s.context.startedAt now then
      some ⟨.close, .timeLimitReached, summary⟩
    else (decideByHook hooks config s c).map fun (decision, reason) => ⟨decision, reason, summary⟩

/-! ### Rules that hooks are made of -/

/-- Hooks for conversations that are tried out. -/
inductive HookRule where
  | close
  | keep
  /-- Closes where there is a time limit. -/
  | closeIfLimited
  /-- Breaks down. -/
  | breakDown
  /-- Closes in the task. -/
  | closeInTask (name : String)
  /-- Closes after so many contacts. -/
  | closeAfter (contacts : Nat)
  /-- Closes for the reason. -/
  | closeFor (reason : EndReason)
  deriving DecidableEq, Repr

/-- Closes under a condition, and keeps the conversation otherwise. -/
def closeIf (b : Bool) : Option Decision := some (if b then .close else .keepAlive)

/-- The hook that goes by the rule. -/
def HookRule.hook : HookRule → Hook
  | .close, _, _, _ => some .close
  | .keep, _, _, _ => some .keepAlive
  | .closeIfLimited, config, _, _ => closeIf config.timeLimit.isSome
  | .breakDown, _, _, _ => none
  | .closeInTask name, _, s, _ => closeIf (s.context.currentTask = name)
  | .closeAfter n, _, s, _ => closeIf (n ≤ s.previousContacts.length)
  | .closeFor reason, _, _, c => closeIf (c.reason = some reason)

/-! ### Documents -/

instance : ToJson ClosureReason where
  toJson
    | .singleContact => .object [("kind", toJson "single_contact")]
    | .timeLimitReached => .object [("kind", toJson "time_limit_reached")]
    | .hook name => .object [("kind", toJson "hook"), ("name", toJson name)]
    | .hookMissing name => .object [("kind", toJson "hook_missing"), ("name", toJson name)]
    | .default => .object [("kind", toJson "default")]

instance : ToJson ClosureOutcome :=
  ⟨fun o => .object [("decision", toJson o.decision), ("reason", toJson o.reason),
    ("summary", toJson o.summary)]⟩

end Dialogue.Conversation
