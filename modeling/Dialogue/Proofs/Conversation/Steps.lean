import Dialogue.Conversation.Session
import Dialogue.Proofs.StateMachine.Compiled

/-! # What one step does to a session

    On a closed machine a request is accepted and moves to the task asked for, or it is refused and
    nothing changes (`request_cases`). The end of a contact only adds to the contacts that were
    (`endContact_cases`). -/

namespace Dialogue.Conversation

open Time Dialogue.Flow StateMachine

/-- The snapshot names all that the session needs to be taken up where it is. -/
structure Snapshot.Describes (s : Snapshot) (x : Session) : Prop where
  context : s.context = x.state.context
  previousContacts : s.previousContacts = x.state.previousContacts
  currentTaskId : s.currentTaskId = x.snapshot.currentTaskId

/-- The state that a snapshot was taken in. -/
def Snapshot.state (s : Snapshot) : ConversationState :=
  { context := s.context, previousContacts := s.previousContacts }

/-- Attaching a contact changes the contact that is attached and those it has replaced,
    nothing else. -/
theorem ConversationState.attach_eq (s : ConversationState) (contactId : String) :
    s.attach contactId = { s with context := { s.context with
      contactId
      previousContactIds :=
        if contactId = s.context.contactId ∨ s.context.contactId ∈ s.context.previousContactIds
        then s.context.previousContactIds
        else s.context.previousContactIds ++ [s.context.contactId] } } := by
  rw [attach]
  by_cases hsame : contactId = s.context.contactId
  · rw [if_pos hsame, if_pos (.inl hsame), hsame]
  · rw [if_neg hsame]
    simp only [hsame, false_or, List.contains_eq_mem, decide_eq_true_iff]

namespace Session

theorem describes_snapshot (x : Session) : x.snapshot.Describes x := ⟨rfl, rfl, rfl⟩

/-- A snapshot is taken up when the fingerprint is the machine's and it names a state
    and its task. -/
theorem resume_eq_ok {m : Machine} {s : Snapshot} {x : Session} : resume m s = .ok x ↔
    s.fingerprint = m.fingerprint ∧
      (∃ t, m.state? s.context.currentTask = some t ∧ t.task.taskId = s.currentTaskId) ∧
      x = { machine := m, state := s.state } := by
  unfold resume
  by_cases hf : s.fingerprint = m.fingerprint
  · cases ht : m.state? s.context.currentTask with
    | none => simp [hf]
    | some t =>
      by_cases hid : t.task.taskId = s.currentTaskId <;> simp [hf, hid, eq_comm, Snapshot.state]
  · simp [hf]

/-- A session that was taken up is described by its snapshot. -/
theorem describes_of_resume {m : Machine} {s : Snapshot} {x : Session} (h : resume m s = .ok x) :
    s.Describes x := by
  obtain ⟨-, ⟨t, ht, hid⟩, rfl⟩ := resume_eq_ok.1 h
  refine ⟨rfl, rfl, ?_⟩
  simp [snapshot, currentTask?, currentState?, Snapshot.state, ht, hid]

/-- The edge that is asked for leads to the state of that name and makes it the current task. -/
theorem exists_edge {x : Session} (hx : x.machine.Closed) {target : String} {e : Edge}
    (h : x.currentState?.bind (·.edge? target) = some e) :
    e.target = target ∧ e.taskName = target ∧ ∃ t, x.machine.state? target = some t := by
  obtain ⟨s, hs, he⟩ := Option.bind_eq_some_iff.1 h
  have hmem := (hx.indexed.state?_eq_some.1 hs).1
  have hevent : e.event = target := by simpa using List.find?_some he
  have hlabel := hx.labels s hmem e (List.mem_of_find?_eq_some he)
  have htarget : e.target = target := by rw [← hevent, hlabel, Edge.event_to, Edge.target_to]
  refine ⟨htarget, by rw [hlabel, ← htarget, Edge.taskName_to], hx.indexed.exists_state? ?_⟩
  rw [← htarget]
  exact hx.edges s hmem e (List.mem_of_find?_eq_some he)

/-- A request moves to the task asked for, or it is refused and the session stays as it was. -/
theorem request_cases {x : Session} (hx : x.machine.Closed) (target : String) (facts : Facts) :
    (∃ task, x.request target facts = (x.moveTo target, .accepted task) ∧
      (x.moveTo target).currentTask? = some task) ∨
      ∃ reason, x.request target facts = (x, .rejected reason) := by
  unfold request
  cases hedge : x.currentState?.bind (·.edge? target) with
  | none => exact .inr ⟨_, rfl⟩
  | some e =>
    simp only
    cases checkFacts facts e.required with
    | error reason => exact .inr ⟨reason, rfl⟩
    | ok _ =>
      -- The machine is closed, so the edge leads somewhere.
      obtain ⟨htarget, htask, t, ht⟩ := exists_edge hx hedge
      left
      refine ⟨t.task, ?_, ?_⟩
      · simp only [htarget, htask, ht]
      · simp [currentTask?, currentState?, moveTo, ht]

/-- An edge whose facts are known is open. -/
theorem request_open {x : Session} {s t : State} {target : String} {e : Edge} {facts : Facts}
    (hs : x.currentState? = some s) (he : s.edge? target = some e)
    (ht : x.machine.state? e.target = some t) (hfacts : ∀ id ∈ e.required, isKnown facts id) :
    x.request target facts = (x.moveTo e.taskName, .accepted t.task) := by
  have hguard : checkFacts facts e.required = .ok () := by
    have hnone : firstMissing? facts e.required = none := by
      rw [firstMissing?, List.find?_eq_none]
      intro id hid
      simp [hfacts id hid]
    rw [checkFacts, hnone]
  simp only [request, hs, Option.bind_some, he, hguard, ht]

/-- One with a fact that is missing is not. -/
theorem request_missing {x : Session} {s : State} {target : String} {e : Edge} {facts : Facts}
    {id : String} (hs : x.currentState? = some s) (he : s.edge? target = some e)
    (hmissing : firstMissing? facts e.required = some id) :
    x.request target facts = (x, .rejected (.missingParameter id)) := by
  simp only [request, hs, Option.bind_some, he, checkFacts, hmissing]

/-- The end of a contact leaves everything but the contacts that were. -/
theorem endContact_cases {x y : Session} {hooks : Hooks} {c : ContactEnd} {now : Instant}
    {o : ClosureOutcome} (h : x.endContact hooks c now = some (y, o)) :
    y.machine = x.machine ∧ y.state.context = x.state.context ∧
      y.state.previousContacts = x.state.previousContacts ++ o.summary.toList := by
  rw [endContact, Option.map_eq_some_iff] at h
  rcases h with ⟨o', -, ⟨⟩⟩
  exact ⟨rfl, rfl, rfl⟩

/-- The hook is asked, and breaks down, exactly where the end of a contact has no outcome. -/
theorem endContact_eq_none {x : Session} {hooks : Hooks} {c : ContactEnd} {now : Instant} :
    x.endContact hooks c now = none ↔ x.closure.multiContact = true ∧
      (x.closure.timeLimit.any fun limit => limitReached limit x.state.context.startedAt now) =
          false ∧
      ∃ name hook, x.closure.hook = some name ∧ hooks name = some hook ∧
        hook x.closure x.state c = none := by
  rw [endContact, Option.map_eq_none_iff, decideClosure]
  cases x.closure.multiContact with
  | false => simp
  | true =>
    cases x.closure.timeLimit.any fun limit => limitReached limit x.state.context.startedAt now with
    | true => simp
    | false =>
      simp only [Bool.not_true, Bool.false_eq_true, if_false, Option.map_eq_none_iff, decideByHook,
        true_and]
      cases x.closure.hook with
      | none => simp
      | some name => cases hhook : hooks name <;> simp [hhook]

theorem machine_request (x : Session) (target : String) (facts : Facts) :
    (x.request target facts).1.machine = x.machine := by
  simp only [request]
  split
  · rfl
  · split
    · rfl
    · split <;> rfl

/-- What a request meets is settled by the current task; the rest of the state does not count. -/
theorem request_of_task (x : Session) {s : ConversationState}
    (hs : s.context.currentTask = x.state.context.currentTask) (target : String) (facts : Facts) :
    (request { x with state := s } target facts).2 = (x.request target facts).2 ∧
      (request { x with state := s } target facts).1.state.context.currentTask =
        (x.request target facts).1.state.context.currentTask := by
  unfold request
  simp only [currentState?, hs]
  split
  · exact ⟨rfl, hs⟩
  · split
    · exact ⟨rfl, hs⟩
    · split <;> exact ⟨rfl, rfl⟩

theorem conversationId_request (x : Session) (target : String) (facts : Facts) :
    (x.request target facts).1.conversationId = x.conversationId := by
  simp only [request]
  split
  · rfl
  · split
    · rfl
    · split <;> rfl

theorem conversationId_beginContact (x : Session) (contactId : String) :
    (x.beginContact contactId).conversationId = x.conversationId := by
  rw [conversationId, beginContact, ConversationState.attach_eq]
  rfl

end Session
end Dialogue.Conversation
