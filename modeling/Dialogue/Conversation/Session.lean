import Dialogue.Conversation.Closure
import Dialogue.Conversation.Snapshot

/-! # Sessions

    A session runs one conversation on a machine. A request for a task is accepted when the current
    state has an edge to it whose guard passes; a refused request changes nothing. -/

namespace Dialogue.Conversation

open Json Time Dialogue.Flow StateMachine

/-- A conversation on its machine. -/
structure Session where
  machine : Machine
  state : ConversationState
  deriving DecidableEq, Repr

/-- What a new conversation starts with. -/
structure Start where
  conversationId : String
  contactId : String
  channel : Channel
  startedAt : Instant
  deriving DecidableEq, Repr

/-- What a request comes to: the task it led to, or why it was refused. -/
inductive TransitionOutcome where
  | accepted (task : TaskView)
  | rejected (reason : Rejection)
  deriving DecidableEq, Repr

namespace Session

/-- A fresh conversation, in the initial state. -/
def start (m : Machine) (s : Start) : Session :=
  { machine := m
    state := { context := { conversationId := s.conversationId, contactId := s.contactId,
                            currentTask := m.initial
                            channel := s.channel, startedAt := s.startedAt } } }

/-- Takes a conversation up again. The snapshot has to have the fingerprint of the machine and to
    name one of its states by name and task. -/
def resume (m : Machine) (s : Snapshot) : Except ResumeError Session :=
  if s.fingerprint ≠ m.fingerprint then .error (.fingerprintMismatch m.fingerprint s.fingerprint)
  else if (m.state? s.context.currentTask).any fun x => x.task.taskId = s.currentTaskId then
    .ok { machine := m, state := { context := s.context, previousContacts := s.previousContacts } }
  else .error (.unknownState s.context.currentTask s.currentTaskId)

/-- Takes a conversation up from the text of a snapshot. -/
def resumeBlob (m : Machine) (blob : String) : Except ResumeError Session :=
  Snapshot.ofBlob blob >>= resume m

/-- The id of the conversation. -/
def conversationId (s : Session) : String := s.state.context.conversationId

/-- The state of the current task. -/
def currentState? (s : Session) : Option State := s.machine.state? s.state.context.currentTask

/-- The current task as it is shown. -/
def currentTask? (s : Session) : Option TaskView := s.currentState?.map (·.task)

/-- The session in the task `name`. -/
def moveTo (s : Session) (name : String) : Session :=
  { s with state := { s.state with context := { s.state.context with currentTask := name } } }

/-- Asks to move to the task `target`. The move is made before its destination is looked up. -/
def request (s : Session) (target : String) (facts : Facts) : Session × TransitionOutcome :=
  let refused : Rejection := .noSuchTransition s.state.context.currentTask target
  match s.currentState?.bind (·.edge? target) with
  | none => (s, .rejected refused)
  | some e =>
    match checkFacts facts e.required with
    | .error reason => (s, .rejected reason)
    | .ok () =>
      match s.machine.state? e.target with
      | some x => (s.moveTo e.taskName, .accepted x.task)
      | none => (s.moveTo e.taskName, .rejected refused)

/-- Attaches a contact; the task stays. -/
def beginContact (s : Session) (contactId : String) : Session :=
  { s with state := s.state.attach contactId }

/-- The closure in force. -/
def closure (s : Session) : ClosureConfig := s.machine.closureIn s.state.context.currentTask

/-- Decides on the end of a contact and keeps its summary; nothing if the hook breaks down. -/
def endContact (s : Session) (hooks : Hooks) (c : ContactEnd) (now : Instant) :
    Option (Session × ClosureOutcome) :=
  (decideClosure hooks s.closure s.state c now).map fun outcome =>
    let kept := s.state.previousContacts ++ outcome.summary.toList
    ({ s with state := { s.state with previousContacts := kept } }, outcome)

/-- All that is needed to take the session up later. -/
def snapshot (s : Session) : Snapshot :=
  { fingerprint := s.machine.fingerprint, flowId := s.machine.flowId,
    versionId := s.machine.versionId
    currentTaskId := (s.currentTask?.map (·.taskId)).getD ""
    context := s.state.context, previousContacts := s.state.previousContacts }

end Session

namespace TransitionOutcome

/-- The request was accepted. -/
def isAccepted : TransitionOutcome → Bool
  | .accepted _ => true
  | .rejected _ => false

end TransitionOutcome
end Dialogue.Conversation
