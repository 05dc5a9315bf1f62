import Dialogue.Live.Manager
import Dialogue.Live.Permits

/-! # Calls that meet

    Calls that are made at the same time take turns at the steps in which they wait for
    something: the registry, a store, a place in the mailbox of an actor, its answer.
    `Floor.stepCall` takes one step of one call and `Floor.stepActor` lets one actor handle its
    next command, so an interleaving is a list of such steps. A call keeps the actor that it
    found in the registry, so actors are numbered and the registry maps conversations to numbers.
    Many calls may read the registry at a time, one alone may change it, and unloading holds it
    until the actor has stopped. -/

namespace Dialogue.Live

open Conversation StateMachine Memory

/-- What a machine is looked up for. -/
inductive Purpose where
  | start (contact : NewContact)
  | resume (snapshot : Snapshot)
  | display

/-- How far a call has come. -/
inductive Stage where
  /-- The registry is looked at next. -/
  | begun
  /-- The conversation has no actor; its snapshot is read next. -/
  | loading
  /-- The machine is looked up in the cache next. -/
  | defining (flowId versionId : String) (purpose : Purpose)
  /-- The version is read and compiled next. -/
  | fetching (flowId versionId : String) (purpose : Purpose)
  /-- The machine is put into the cache next, unless there is one. -/
  | keeping (flowId versionId : String) (m : Machine) (purpose : Purpose)
  /-- An actor is registered next, unless there is one. -/
  | spawning (session : Session)
  /-- The command is put into the mailbox of the actor next. -/
  | sending (actor : Nat)
  | waiting (actor : Nat)
  | replied (answer : Answer)
  /-- The conversation has been closed and is taken out of the registry next. -/
  | leaving (answer : Answer)
  | answered (answer : Answer)

/-- A call on its way. -/
structure InFlight where
  call : Call
  stage : Stage := .begun
  /-- It has got the permits it waited for. -/
  served : Bool := false
  /-- It has paused before the operation that comes next. -/
  paused : Bool := false

/-- An actor with the commands that wait for it, each with the number of its call. -/
structure Box where
  key : String
  /-- Nothing once the actor has stopped. -/
  session : Option Session
  mailbox : List (Nat × Command) := []
  /-- The free places of the mailbox, and the calls that wait for one. -/
  places : Permits

/-- Who can go on. -/
inductive Turn where
  | call (i : Nat)
  | actor (n : Nat)
  deriving DecidableEq, Repr

/-- How many calls may read the registry at a time. -/
def registryReaders : Nat := 536870911

/-- The manager with all calls that are on their way, and whose turn it is next. -/
structure Floor where
  stores : Stores
  hooks : Hooks
  mailboxSize : Nat
  definitions : Dict Machine := .empty
  registry : Dict Nat := .empty
  /-- Who changes the registry takes the permits of all readers. -/
  lock : Permits := { free := registryReaders }
  boxes : List Box := []
  calls : List InFlight := []
  /-- Who has been woken and not had a turn since, in order. -/
  ready : List Turn := []

/-- The conversation of a call, and the command that goes to its actor. -/
def Call.target : Call → Option (String × Command)
  | .begin c => some (c.conversationId, .beginContact c.contactId)
  | .request id target => some (id, .request target)
  | .update id contactId us writer => some (id, .updateMemory contactId us writer)
  | .currentTask id => some (id, .currentTask)
  | .snapshot id => some (id, .snapshot)
  | .endContact id c => some (id, .endContact c)
  | .unload id => some (id, .shutdown)
  | .definition .. | .runningCount => none

/-- The conversation that a call is about. -/
def Call.conversationId (c : Call) : String := (c.target.map (·.1)).getD ""

namespace Floor

/-- Moves a call on. -/
def setStage (f : Floor) (i : Nat) (stage : Stage) : Floor :=
  { f with calls := f.calls.modify i fun c => { c with stage, paused := false } }

/-- Replaces an actor. -/
def setBox (f : Floor) (n : Nat) (b : Box) : Floor := { f with boxes := f.boxes.set n b }

/-- Notes whether a call has got the permits it waited for. -/
def setServed (f : Floor) (i : Nat) (served : Bool) : Floor :=
  { f with calls := f.calls.modify i fun c => { c with served } }

/-- Lets something have a turn, after all that are to have one already. -/
def wake (f : Floor) (t : Turn) : Floor :=
  if f.ready.contains t then f else { f with ready := f.ready ++ [t] }

/-- The calls have got the permits they waited for. -/
def serve (f : Floor) (served : List Nat) : Floor :=
  served.foldl (fun f i => (f.setServed i true).wake (.call i)) f

/-- The call has its reply. -/
def reply (f : Floor) (i : Nat) (answer : Answer) : Floor :=
  (f.setStage i (.replied answer)).wake (.call i)

/-! ### The registry -/

/-- How much of the registry a call needs for its next step. -/
def share (call : Call) : Stage → Nat
  | .begun =>
    match call with
    | .unload _ => registryReaders
    | _ => 1
  | _ => registryReaders

/-- Gives permits of the registry back, to those who wait first. -/
def release (f : Floor) (n : Nat) : Floor :=
  let (lock, served) := f.lock.release n
  { f with lock }.serve served

/-- Takes the conversation out of the registry and goes on to its actor. The registry is kept until
    the actor has stopped. -/
def unload (f : Floor) (i : Nat) (conversationId : String) : Floor :=
  match f.registry.get? conversationId with
  | some n => { f with registry := f.registry.erase conversationId }.setStage i (.sending n)
  | none => (f.setStage i (.answered (.ok (.unloaded false)))).release registryReaders

/-- The actor registered for a session, a new one where there was none. -/
def spawn (f : Floor) (x : Session) : Floor × Except RuntimeError Nat :=
  match f.registry.get? x.conversationId with
  | some n => (f, .ok n)
  | none =>
    if f.mailboxSize ≤ largestMailbox then
      let n := f.boxes.length
      let box : Box :=
        { key := x.conversationId, session := some x, places := { free := f.mailboxSize } }
      ({ f with registry := f.registry.insert x.conversationId n, boxes := f.boxes ++ [box] }.wake
        (.actor n), .ok n)
    else (f, .error (.mailboxTooLarge f.mailboxSize))

/-- One step of a call that has its share of the registry, which it gives back. -/
def stepRegistry (f : Floor) (i : Nat) (call : Call) (stage : Stage) : Floor :=
  match stage, call with
  | .begun, .unload id => f.unload i id
  | .begun, .runningCount =>
    (f.setStage i (.answered (.ok (.count f.registry.size)))).release (share call stage)
  | .begun, call =>
    match f.registry.get? call.conversationId with
    | some n => (f.setStage i (.sending n)).release (share call stage)
    | none => (f.setStage i .loading).release (share call stage)
  | .spawning x, _ =>
    let (f, n) := f.spawn x
    let next : Stage := match n with
      | .ok n => .sending n
      | .error e => .answered (.error e)
    (f.setStage i next).release (share call stage)
  | .leaving answer, _ =>
    let f : Floor := { f with registry := f.registry.erase call.conversationId }
    (f.setStage i (.answered answer)).release (share call stage)
  | _, _ => f

/-- Takes such a step once the call has its share; until then the call waits. -/
def enterRegistry (f : Floor) (i : Nat) (c : InFlight) : Floor :=
  if c.served then (f.setServed i false).stepRegistry i c.call c.stage
  else if f.lock.awaited i then f
  else
    match f.lock.acquire i (share c.call c.stage) with
    | (lock, true) => { f with lock }.stepRegistry i c.call c.stage
    | (lock, false) => { f with lock }

/-! ### Steps -/

/-- What follows when the machine is there. -/
def withMachine (f : Floor) (m : Machine) : Purpose → Stage
  | .display => .answered (.ok (.definition m))
  | .start c => .spawning (c.start f.stores.clock m)
  | .resume s =>
    match Session.resume m s with
    | .ok x => .spawning x
    | .error e => .answered (.error (.resume e))

/-- What follows a read of the snapshot. -/
def afterLoad (call : Call) : Except RuntimeError (Option Snapshot) → Stage
  | .error e => .answered (.error e)
  | .ok (some s) => .defining s.flowId s.versionId (.resume s)
  | .ok none =>
    match call with
    | .begin c => .defining c.flowId c.versionId (.start c)
    | call => .answered (.error (.unknownConversation call.conversationId))

/-- Puts a command into the mailbox of an actor. -/
def put (f : Floor) (i : Nat) (n : Nat) (b : Box) (command : Command) : Floor :=
  ((f.setBox n { b with mailbox := b.mailbox ++ [(i, command)] }).setStage i (.waiting n)).wake
    (.actor n)

/-- Puts the command of a call into the mailbox of an actor once there is a place for it. There is
    none, and no use in waiting, where the actor has stopped. -/
def post (f : Floor) (i : Nat) (c : InFlight) (n : Nat) : Floor :=
  match f.boxes[n]?, c.call.target with
  | some b, some (_, command) =>
    if b.session.isNone then f.setStage i (.replied (.error (.conversationClosed b.key)))
    else if c.served then (f.setServed i false).put i n b command
    else if b.places.awaited i then f
    else
      match b.places.acquire i 1 with
      | (places, true) => f.put i n { b with places } command
      | (places, false) => f.setBox n { b with places }
  | _, _ => f

/-- What a call does with its reply. -/
def receive (f : Floor) (i : Nat) (call : Call) (answer : Answer) : Floor :=
  match call with
  | .endContact .. => f.setStage i (if closes answer then .leaving answer else .answered answer)
  | .unload _ => (f.setStage i (.answered (.ok (.unloaded true)))).release registryReaders
  | _ => f.setStage i (.answered answer)

/-- One step of the call with the number `i`. A call that waits stays where it is. -/
def stepCall (f : Floor) (i : Nat) : Floor :=
  match f.calls[i]? with
  | none => f
  | some c =>
    match c.stage with
    | .begun =>
      match c.call with
      | .definition flowId versionId => f.setStage i (.defining flowId versionId .display)
      | _ => f.enterRegistry i c
    | .loading =>
      let (stores, snapshot) := f.stores.getSnapshot c.call.conversationId
      { f with stores }.setStage i (afterLoad c.call snapshot)
    | .defining flowId versionId purpose =>
      match f.definitions.get? (machineId flowId versionId) with
      | some m => f.setStage i (f.withMachine m purpose)
      | none => f.setStage i (.fetching flowId versionId purpose)
    | .fetching flowId versionId purpose =>
      let (stores, v) := f.stores.getVersion flowId versionId
      let f := { f with stores }
      match compileRead flowId versionId v with
      | .ok m => f.setStage i (.keeping flowId versionId m purpose)
      | .error e => f.setStage i (.answered (.error e))
    | .keeping flowId versionId m purpose =>
      let key := machineId flowId versionId
      match f.definitions.get? key with
      | some m => f.setStage i (f.withMachine m purpose)
      | none =>
        { f with definitions := f.definitions.insert key m }.setStage i (f.withMachine m purpose)
    | .spawning _ | .leaving _ => f.enterRegistry i c
    | .sending n => f.post i c n
    | .replied answer => f.receive i c.call answer
    | .waiting _ | .answered _ => f

/-- The actor stops. Those who wait for a place and those whose commands are left learn that the
    conversation is closed. -/
def close (f : Floor) (n : Nat) (b : Box) (left : List (Nat × Command)) : Floor :=
  let f := f.setBox n { b with session := none, mailbox := [], places := { free := 0 } }
  let f := b.places.waiting.foldl (fun f w => f.wake (.call w.1)) f
  left.foldl (fun f c => f.reply c.1 (.error (.conversationClosed b.key))) f

/-- The actor with the number `n` handles its next command, whose place is free from then on. -/
def stepActor (f : Floor) (n : Nat) : Floor :=
  match f.boxes[n]? with
  | some ⟨key, some x, (i, command) :: left, places⟩ =>
    let (places, served) := places.release 1
    let f := f.serve served
    let b : Box := { key, session := some x, mailbox := left, places }
    match Actor.handle f.hooks f.stores x command with
    | (stores, .goOn x answer) =>
      ({ f with stores }.setBox n { b with session := some x }).reply i answer
    | (stores, .stop answer) => ({ f with stores }.reply i answer).close n b left
    | (stores, .breakDown) =>
      ({ f with stores }.reply i (.error (.conversationClosed key))).close n b left
  | _ => f

/-! ### Bursts

    Calls that are issued together have their turns in order, and so have the actors that they wake.
    In its turn a call goes on until it waits, and an actor until its mailbox is empty. An operation
    that is slow makes a call pause once: it goes on after those who are ready before it. -/

/-- The operation that the call tries next. -/
def Stage.operation? : Stage → Option Operation
  | .loading => some .getSnapshot
  | .fetching .. => some .getVersion
  | _ => none

/-- Whether the call cannot go on by itself. -/
def isIdle (f : Floor) (i : Nat) (c : InFlight) : Bool :=
  match c.stage with
  | .waiting _ | .answered _ => true
  | .sending n => (f.boxes[n]?).any (·.places.awaited i)
  | _ => f.lock.awaited i

/-- Advances a call until it waits, pauses or is answered, by at most `fuel` steps. -/
def advance (slow : Operation → Bool) (i : Nat) : Nat → Floor → Floor
  | 0, f => f
  | fuel + 1, f =>
    match f.calls[i]? with
    | none => f
    | some c =>
      if f.isIdle i c then f
      else if !c.paused && (Stage.operation? c.stage).any slow then
        { f with calls := f.calls.set i { c with paused := true } }.wake (.call i)
      else advance slow i fuel (f.stepCall i)

/-- No call takes more steps than this. -/
def mostSteps : Nat := 16

/-- The actor handles every command that has arrived. -/
def work (f : Floor) (n : Nat) : Floor :=
  (List.range ((f.boxes[n]?.map (·.mailbox.length)).getD 0)).foldl (fun f _ => f.stepActor n) f

/-- The turn of the first who is ready. -/
def turn (slow : Operation → Bool) (f : Floor) : Floor :=
  match f.ready with
  | [] => f
  | .call i :: ready => advance slow i mostSteps { f with ready }
  | .actor n :: ready => { f with ready }.work n

/-- Turns until nobody is ready, at most `n` of them. -/
def turns (slow : Operation → Bool) : Nat → Floor → Floor
  | 0, f => f
  | n + 1, f => if f.ready.isEmpty then f else turns slow n (f.turn slow)

/-- The answers there are so far, in the order of the calls. -/
def answers (f : Floor) : List Answer :=
  f.calls.map fun c => match c.stage with
    | .answered a => a
    | _ => .error (.conversationClosed c.call.conversationId)

/-- What the calls leave behind: the actors that are still registered. -/
def manager (f : Floor) : Manager :=
  let actor (n : Nat) : Actor := match f.boxes[n]? with
    | some ⟨_, some x, _, _⟩ => .live x
    | _ => .dead
  { stores := f.stores, hooks := f.hooks, mailboxSize := f.mailboxSize, definitions := f.definitions
    actors := f.registry.map actor }

end Floor

/-- The manager when the calls are made, each of which is ready. -/
def Manager.floor (w : Manager) (calls : List Call) : Floor :=
  let session : Actor → Option Session
    | .live x => some x
    | .dead => none
  { stores := w.stores, hooks := w.hooks, mailboxSize := w.mailboxSize, definitions := w.definitions
    registry := Dict.ofList (w.actors.keys.zip (List.range w.actors.size))
    boxes := w.actors.entries.map fun e =>
      { key := e.1, session := session e.2, places := { free := w.mailboxSize } }
    calls := calls.map fun call => { call }
    ready := (List.range calls.length).map .call }

/-- Issues the calls together and waits for all their answers. A call is woken, and wakes an
    actor, a few times only. -/
def Manager.burst (w : Manager) (slow : Operation → Bool) (calls : List Call) :
    Manager × List Answer :=
  let f := Floor.turns slow (16 * calls.length) (w.floor calls)
  (f.manager, f.answers)

end Dialogue.Live
