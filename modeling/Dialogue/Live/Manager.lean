import Dialogue.Live.Actor

/-! # The manager

    The manager keeps a registry of the actors of running conversations and a cache of the
    machines it has compiled. A call on a conversation goes to its actor; where there is
    none, the conversation is taken up from its snapshot, and a new contact starts one that
    has no snapshot either. Calls are taken here one after the other;
    `Dialogue.Live.Interleaving` lets them meet. -/

namespace Dialogue.Live

open Conversation StateMachine Memory Dialogue.Flow

/-- A contact for a conversation that may not exist yet. -/
structure NewContact where
  conversationId : String
  contactId : String
  flowId : String
  versionId : String
  channel : Channel
  deriving DecidableEq, Repr

/-- What the manager can be asked. -/
inductive Call where
  | begin (contact : NewContact)
  | request (conversationId target : String)
  | update (conversationId contactId : String) (updates : List Update) (writer : Writer)
  | currentTask (conversationId : String)
  | snapshot (conversationId : String)
  | endContact (conversationId : String) (contact : ContactEnd)
  | unload (conversationId : String)
  | definition (flowId versionId : String)
  | runningCount

/-- How many commands may wait for an actor, unless the manager is told otherwise. -/
def defaultMailbox : Nat := 32

/-- No mailbox can be made larger. -/
def largestMailbox : Nat := 2305843009213693951

/-- The registry of actors, the definitions that have been compiled, and the stores. -/
structure Manager where
  stores : Stores
  hooks : Hooks := fun _ => none
  /-- How many commands may wait for an actor. -/
  mailboxSize : Nat := defaultMailbox
  /-- The compiled machines by the id of the machine. -/
  definitions : Dict Machine := .empty
  /-- The registry. -/
  actors : Dict Actor := .empty

/-- The machine of the version that was read for a flow and version id. -/
def compileRead (flowId versionId : String) : Except RuntimeError (Option Version) →
    Except RuntimeError Machine
  | .error e => .error e
  | .ok none => .error (.versionNotFound flowId versionId)
  | .ok (some v) => (compile v).mapError .compile

/-- A new contact starts a conversation now. -/
def NewContact.start (c : NewContact) (now : Time.Instant) (m : Machine) : Session :=
  Session.start m
    { conversationId := c.conversationId, contactId := c.contactId, channel := c.channel,
      startedAt := now }

/-- Whether the end of a contact has closed its conversation. -/
def closes : Answer → Bool
  | .ok (.closure outcome) => outcome.decision = .close
  | .error (.cleanupFailed ..) => true
  | _ => false

namespace Manager

/-- A manager without actors and machines. A mailbox has room for one command at least. -/
def fresh (stores : Stores) (hooks : Hooks) (mailboxSize : Nat) : Manager :=
  { stores, hooks, mailboxSize := max 1 mailboxSize }

/-- How many actors are registered, be they alive or dead. -/
def runningCount (w : Manager) : Nat := w.actors.size

/-- The machine of a flow version, compiled when it is first asked for. -/
def definition (w : Manager) (flowId versionId : String) : Manager × Except RuntimeError Machine :=
  let key := machineId flowId versionId
  match w.definitions.get? key with
  | some m => (w, .ok m)
  | none =>
    let (stores, v) := w.stores.getVersion flowId versionId
    let w := { w with stores }
    match compileRead flowId versionId v with
    | .ok m => ({ w with definitions := w.definitions.insert key m }, .ok m)
    | .error e => (w, .error e)

/-- Registers an actor for the session, unless its conversation has one, and returns its key. -/
def spawn (w : Manager) (x : Session) : Manager × Except RuntimeError String :=
  let key := x.conversationId
  if w.actors.contains key then (w, .ok key)
  else if w.mailboxSize ≤ largestMailbox
  then ({ w with actors := w.actors.insert key (.live x) }, .ok key)
  else (w, .error (.mailboxTooLarge w.mailboxSize))

/-- Takes a conversation up from its snapshot, if it has one. -/
def load (w : Manager) (conversationId : String) : Manager × Except RuntimeError (Option String) :=
  let (stores, snapshot) := w.stores.getSnapshot conversationId
  let w := { w with stores }
  match snapshot with
  | .error e => (w, .error e)
  | .ok none => (w, .ok none)
  | .ok (some s) =>
    match w.definition s.flowId s.versionId with
    | (w, .error e) => (w, .error e)
    | (w, .ok m) =>
      match Session.resume m s with
      | .error e => (w, .error (.resume e))
      | .ok x =>
        let (w, key) := w.spawn x
        (w, key.map some)

/-- The key of the actor of a conversation, which may have to be loaded. -/
def find (w : Manager) (conversationId : String) : Manager × Except RuntimeError (Option String) :=
  if w.actors.contains conversationId then (w, .ok (some conversationId)) else w.load conversationId

/-- The key of the actor that a new contact goes to. -/
def findOrStart (w : Manager) (c : NewContact) : Manager × Except RuntimeError String :=
  match w.find c.conversationId with
  | (w, .error e) => (w, .error e)
  | (w, .ok (some key)) => (w, .ok key)
  | (w, .ok none) =>
    match w.definition c.flowId c.versionId with
    | (w, .error e) => (w, .error e)
    | (w, .ok m) => w.spawn (c.start w.stores.clock m)

/-- Sends a command to the actor with the key and waits for the answer. -/
def send (w : Manager) (key : String) (command : Command) : Manager × Answer :=
  match w.actors.get? key with
  | some (.live x) =>
    match Actor.handle w.hooks w.stores x command with
    | (stores, .goOn x answer) =>
      ({ w with stores, actors := w.actors.insert key (.live x) }, answer)
    | (stores, .stop answer) => ({ w with stores, actors := w.actors.insert key .dead }, answer)
    | (stores, .breakDown) =>
      ({ w with stores, actors := w.actors.insert key .dead }, .error (.conversationClosed key))
  | _ => (w, .error (.conversationClosed key))

/-- Sends a command to a conversation that has to be there. -/
def command (w : Manager) (conversationId : String) (c : Command) : Manager × Answer :=
  match w.find conversationId with
  | (w, .error e) => (w, .error e)
  | (w, .ok none) => (w, .error (.unknownConversation conversationId))
  | (w, .ok (some key)) => w.send key c

/-- Takes one call from its start to its answer. -/
def call (w : Manager) : Call → Manager × Answer
  | .begin c =>
    match w.findOrStart c with
    | (w, .error e) => (w, .error e)
    | (w, .ok key) => w.send key (.beginContact c.contactId)
  | .request id target => w.command id (.request target)
  | .update id contactId us writer => w.command id (.updateMemory contactId us writer)
  | .currentTask id => w.command id .currentTask
  | .snapshot id => w.command id .snapshot
  | .endContact id c =>
    let (w, answer) := w.command id (.endContact c)
    (if closes answer then { w with actors := w.actors.erase id } else w, answer)
  | .unload id => ({ w with actors := w.actors.erase id }, .ok (.unloaded (w.actors.contains id)))
  | .definition flowId versionId =>
    let (w, m) := w.definition flowId versionId
    (w, m.map .definition)
  | .runningCount => (w, .ok (.count w.runningCount))

end Manager
end Dialogue.Live
