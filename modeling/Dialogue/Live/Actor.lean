import Dialogue.Live.Stores

/-! # Actors

    Each live conversation has an actor that handles its commands one by one. A change only
    counts once it is stored: where the snapshot cannot be put, the session is as it was
    before. A conversation that closes loses its memory and its snapshot, and its actor stops
    whether or not that succeeds. -/

namespace Dialogue.Live

open Conversation StateMachine Memory

/-- What an actor can be sent. -/
inductive Command where
  | request (target : String)
  | beginContact (contactId : String)
  | endContact (contact : ContactEnd)
  | updateMemory (contactId : String) (updates : List Update) (writer : Writer)
  | currentTask
  | snapshot
  | shutdown

/-- What a call on the manager answers. -/
inductive Reply where
  | task (view : Option TaskView)
  | transition (outcome : TransitionOutcome)
  | closure (outcome : ClosureOutcome)
  | count (n : Nat)
  | snapshot (s : Snapshot)
  | definition (m : Machine)
  | unloaded (b : Bool)

/-- A reply, or why there is none. -/
abbrev Answer := Except RuntimeError Reply

/-- What becomes of an actor that has handled a command. -/
inductive Reaction where
  | goOn (session : Session) (answer : Answer)
  | stop (answer : Answer)
  /-- It broke down without an answer. -/
  | breakDown

namespace Stores

/-- Stores the snapshot of a session. -/
def persist (s : Stores) (x : Session) : Stores × Except RuntimeError Unit :=
  s.putSnapshot x.conversationId x.snapshot

/-- Stores the changed session; where that fails, the session is as it was before. -/
def commit (s : Stores) (before after : Session) (reply : Reply) : Stores × Reaction :=
  match s.persist after with
  | (s, .ok ()) => (s, .goOn after (.ok reply))
  | (s, .error e) => (s, .goOn before (.error e))

/-- Deletes memory, then the snapshot, and returns the reasons of what failed. -/
def clear (s : Stores) (conversationId : String) : Stores × List String :=
  let (s, memory) := s.deleteMemory conversationId
  let (s, snapshot) := s.deleteSnapshot conversationId
  let reason : Except String Unit → List String
    | .ok () => []
    | .error reason => [reason]
  (s, reason (memory.mapError (·.message)) ++ reason snapshot)

end Stores

/-- The actor of a conversation, which has a session as long as it lives. -/
inductive Actor where
  | live (session : Session)
  | dead

namespace Actor

/-- Reads memory, then asks for the task. -/
def handleRequest (s : Stores) (x : Session) (target : String) : Stores × Reaction :=
  match s.getMemory x.conversationId with
  | (s, .error e) => (s, .goOn x (.error (.memory e)))
  | (s, .ok facts) =>
    match x.request target facts.facts with
    | (after, .accepted task) => s.commit x after (.transition (.accepted task))
    | (after, .rejected reason) => (s, .goOn after (.ok (.transition (.rejected reason))))

/-- Writes are checked against the declared variables; with one that is not declared,
    none is written. -/
def handleUpdate (s : Stores) (x : Session) (contactId : String) (us : List Update)
    (writer : Writer) :
    Stores × Reaction :=
  match x.machine.undeclared (us.map (·.variableId)) with
  | id :: ids => (s, .goOn x (.error (.memory (.undeclaredVariables (id :: ids)))))
  | [] =>
    match s.setMemory x.conversationId contactId us writer with
    | (s, .ok (some n)) => (s, .goOn x (.ok (.count n)))
    | (s, .ok none) => (s, .breakDown)
    | (s, .error e) => (s, .goOn x (.error (.memory e)))

/-- Ends a contact. A conversation that closes is removed from all stores, and its actor stops. -/
def handleEnd (hooks : Hooks) (s : Stores) (x : Session) (c : ContactEnd) : Stores × Reaction :=
  match x.endContact hooks c s.clock with
  | none => (s, .breakDown)
  | some (after, outcome) =>
    match outcome.decision with
    | .keepAlive => s.commit x after (.closure outcome)
    | .close =>
      match s.clear x.conversationId with
      | (s, []) => (s, .stop (.ok (.closure outcome)))
      | (s, reasons) =>
        (s, .stop (.error (.cleanupFailed x.conversationId outcome ("; ".intercalate reasons))))

/-- Handles one command. -/
def handle (hooks : Hooks) (s : Stores) (x : Session) : Command → Stores × Reaction
  | .request target => handleRequest s x target
  | .beginContact contactId =>
    let after := x.beginContact contactId
    s.commit x after (.task after.currentTask?)
  | .endContact c => handleEnd hooks s x c
  | .updateMemory contactId us writer => handleUpdate s x contactId us writer
  | .currentTask => (s, .goOn x (.ok (.task x.currentTask?)))
  | .snapshot => (s, .goOn x (.ok (.snapshot x.snapshot)))
  | .shutdown => (s, .stop (.ok (.unloaded true)))

end Actor
end Dialogue.Live
