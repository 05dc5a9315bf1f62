import Dialogue.Conversation.Session

/-! # Dry runs

    A version is tried out on a list of events, without any storage. Each event asks for a
    task and may bring facts along; facts stay known for the events after it. A dry run
    goes on after a refusal. -/

namespace Dialogue.Simulation

open Json Dialogue.Flow StateMachine Conversation

/-- A request for a task, with the facts that are learned before it. -/
structure Event where
  target : String
  facts : Dict Value := .empty

/-- What became of an event that happened in the task `origin`. -/
structure Report where
  origin : String
  target : String
  outcome : TransitionOutcome
  deriving DecidableEq, Repr

/-- A session and what is known in it. -/
structure Trial where
  session : Session
  facts : Dict Value := .empty

namespace Trial

/-- A new conversation on the machine of a version, on the first of its channels. -/
def start (v : Version) (m : Machine) (now : Time.Instant) : Trial :=
  { session := Session.start m
      { conversationId := "simulation", contactId := "sim-contact",
        channel := v.channels.headD .chat, startedAt := now } }

/-- The task the dry run is in. -/
def currentTask (t : Trial) : String := t.session.state.context.currentTask

/-- Takes an event: its facts are known from here on, then its task is asked for. -/
def step (t : Trial) (e : Event) : Trial × Report :=
  let facts := t.facts.overlay e.facts
  let (session, outcome) := t.session.request e.target facts.get?
  ({ session, facts }, ⟨t.currentTask, e.target, outcome⟩)

/-- One event after the other. -/
def run (t : Trial) : List Event → Trial × List Report
  | [] => (t, [])
  | e :: es =>
    let (t, r) := t.step e
    let (t, rs) := t.run es
    (t, r :: rs)

end Trial

/-- The reports of a dry run and the task it ends in. -/
def simulate (v : Version) (es : List Event) (now : Time.Instant) :
    Except CompileError (List Report × String) := do
  let m ← compile v
  let (t, reports) := (Trial.start v m now).run es
  return (reports, t.currentTask)

/-! ### Documents -/

/-- An event in the list of a document. -/
def Event.ofWritten? (w : Written) : Option Event := do
  let fs ← w.fields? ["type", "facts"]
  return {
    target := ← fs.required "type" Written.string?
    facts := ← fs.withDefault "facts" .empty (Written.dict? (Written.valueWithin? 3)) }

/-- The events that a text tells. -/
def eventsOfText? (s : String) : Option (List Event) :=
  Written.ofText? s >>= Written.list? Event.ofWritten?

/-- The report on the event with the number `n`, its members in ascending order. -/
def Report.document (n : Nat) (r : Report) : Value :=
  let head := [("event", toJson n), ("from", toJson r.origin)]
  match r.outcome with
  | .accepted task =>
    .object (head ++ [("result", toJson "accepted"), ("task", (toJson task).sorted),
      ("to", toJson r.target)])
  | .rejected reason =>
    .object (head ++ [("reason", toJson reason.message), ("result", toJson "rejected"),
      ("to", toJson r.target)])

/-- A line for each report and one for the task at the end. -/
def reportLines (reports : List Report) (final : String) : List String :=
  (reports.zipIdx.map fun r => textOf (r.1.document r.2)) ++
    [textOf (Value.object [("final", toJson final)])]

end Dialogue.Simulation
