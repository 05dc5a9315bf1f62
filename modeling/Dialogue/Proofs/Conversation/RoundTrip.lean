import Dialogue.Proofs.Conversation.Blob
import Dialogue.Proofs.Conversation.Steps

/-! # A conversation is taken up where it was left

    A conversation that began on a compiled machine is always in one of the states of its machine:
    it starts in one, an accepted request leads to one, and no other step moves it
    (`Reached.located`). So its snapshot passes the two checks of being taken up on the same
    machine, and since the text of a snapshot of instants loses nothing, the conversation that is
    taken up is the one that was left (`taken_up_as_left`). Of other timestamps the text does lose
    something: a leap second in the middle of a minute reads like the second after it
    (`started_mid_minute`). -/

namespace Dialogue.Conversation.Session

open Time Dialogue.Flow StateMachine

/-- The machine is closed, and the current task is that of one of its states. -/
structure Located (x : Session) : Prop where
  closed : x.machine.Closed
  current : ∃ t, x.machine.state? x.state.context.currentTask = some t

/-! ### Every step keeps to the machine -/

theorem located_start {m : Machine} (hm : m.Closed) (s : Start) : (start m s).Located :=
  ⟨hm, hm.indexed.exists_state? hm.initial⟩

theorem currentTask_beginContact (x : Session) (contactId : String) :
    (x.beginContact contactId).state.context.currentTask = x.state.context.currentTask := by
  rw [beginContact, ConversationState.attach_eq]

namespace Located

variable {x : Session}

theorem request (h : x.Located) (target : String) (facts : Facts) :
    (x.request target facts).1.Located := by
  obtain ⟨task, hmoved, htask⟩ | ⟨reason, hsame⟩ := request_cases h.closed target facts
  · rw [hmoved]
    -- an accepted request shows the task of the state it led to
    obtain ⟨t, ht, -⟩ := Option.map_eq_some_iff.1 htask
    exact ⟨h.closed, t, ht⟩
  · rw [hsame]
    exact h

theorem beginContact (h : x.Located) (contactId : String) : (x.beginContact contactId).Located := by
  refine ⟨h.closed, ?_⟩
  rw [currentTask_beginContact]
  exact h.current

theorem endContact {y : Session} {hooks : Hooks} {c : ContactEnd} {now : Instant}
    {o : ClosureOutcome} (h : x.Located) (he : x.endContact hooks c now = some (y, o)) :
    y.Located := by
  obtain ⟨hmachine, hcontext, -⟩ := endContact_cases he
  exact ⟨hmachine ▸ h.closed, by rw [hmachine, hcontext]; exact h.current⟩

end Located

theorem located_of_resume {m : Machine} {s : Snapshot} {y : Session} (hm : m.Closed)
    (h : resume m s = .ok y) :
    y.Located := by
  obtain ⟨-, ⟨t, ht, -⟩, rfl⟩ := resume_eq_ok.1 h
  exact ⟨hm, t, ht⟩

/-! ### Taking up a snapshot -/

/-- The snapshot of a conversation is taken up on its machine, with nothing changed. -/
theorem resume_snapshot {x : Session} (h : x.Located) : resume x.machine x.snapshot = .ok x := by
  obtain ⟨t, ht⟩ := h.current
  refine resume_eq_ok.2 ⟨rfl, ⟨t, ht, ?_⟩, rfl⟩
  simp [snapshot, currentTask?, currentState?, ht]

/-- A text of a snapshot is taken up as the snapshot is. -/
theorem resumeBlob_blob (m : Machine) (s : Snapshot) : resumeBlob m s.blob = resume m s := by
  rw [resumeBlob, Snapshot.ofBlob_blob]
  rfl

/-! ### Runs -/

/-- The session of a conversation that began on a compiled machine and has since taken requests and
    contacts, and has been taken up from the text of a snapshot, on any machine that takes it. -/
inductive Reached : Session → Prop where
  | start {v : Version} {m : Machine} (hm : compile v = .ok m) (s : Start) : Reached (start m s)
  | request {x : Session} (hx : Reached x) (target : String) (facts : Facts) :
      Reached (x.request target facts).1
  | beginContact {x : Session} (hx : Reached x) (contactId : String) :
      Reached (x.beginContact contactId)
  | endContact {x y : Session} {hooks : Hooks} {c : ContactEnd} {now : Instant} {o : ClosureOutcome}
      (hx : Reached x)
      (he : x.endContact hooks c now = some (y, o)) : Reached y
  | takenUp {x y : Session} {v : Version} {m : Machine} (hx : Reached x) (hm : compile v = .ok m)
      (hy : resumeBlob m x.snapshot.blob = .ok y) : Reached y

theorem Reached.located {x : Session} (h : Reached x) : x.Located := by
  induction h with
  | start hm s => exact located_start (compile_eq_ok.1 hm).closed s
  | request _ target facts ih => exact ih.request target facts
  | beginContact _ contactId ih => exact ih.beginContact contactId
  | endContact _ he ih => exact ih.endContact he
  | takenUp _ hm hy _ =>
    rw [resumeBlob_blob] at hy
    exact located_of_resume (compile_eq_ok.1 hm).closed hy

/-- A snapshot of any timestamps is read back from its text exactly when they are instants,
    and every conversation, whose times are instants, is taken up from the text of its
    snapshot as it was left. -/
theorem taken_up_as_left :
    (∀ s : Snapshot Timestamp, (Snapshot.ofBlob s.blob).map Snapshot.stamp = .ok s ↔ s.OfInstants) ∧
    ∀ x, Reached x →
      ∃ y, resumeBlob x.machine x.snapshot.blob = .ok y ∧ y.state = x.state ∧
        y.machine = x.machine := by
  refine ⟨Snapshot.readBack_iff, ?_⟩
  intro x hx
  refine ⟨x, ?_, rfl, rfl⟩
  rw [resumeBlob_blob]
  exact resume_snapshot hx.located

/-- A conversation with a quotation mark in its id books, goes on with another contact, is taken up
    from its text, and goes on with a third contact. -/
theorem booking_taken_up_as_left :
    let m := machineOf (booking ["name"] "Hi") (welcome "Hi")
    let facts : Facts := fun id => if id = "name" then some (.string "Ada") else none
    let booked := ((start m ⟨"c\"1\"", "k\\1\n", .phone, .epoch⟩).request "book" facts).1
    let x := (booked.beginContact "k2").beginContact "k3"
    x.state.context.currentTask = "book" ∧ x.state.context.previousContactIds = ["k\\1\n", "k2"] ∧
      ∃ y, resumeBlob m x.snapshot.blob = .ok y ∧ y.state = x.state ∧ y.machine = x.machine := by
  intro m facts booked x
  have hm : compile (booking ["name"] "Hi") = .ok m := compile_eq_ok.2 (compiled_booking _ _)
  have hbooked : Reached booked := .request (.start hm _) "book" facts
  have hsecond : Reached (booked.beginContact "k2") := hbooked.beginContact "k2"
  have hagain :
      resumeBlob m (booked.beginContact "k2").snapshot.blob = .ok (booked.beginContact "k2") := by
    rw [resumeBlob_blob]
    exact resume_snapshot hsecond.located
  have hx : Reached x := (Reached.takenUp hsecond hm hagain).beginContact "k3"
  exact ⟨by decide, by decide, taken_up_as_left.2 x hx⟩

/-- A conversation that started in a leap second after 0:00:30 of 1 January 2025. -/
def startedMidMinute : Snapshot Timestamp where
  fingerprint := ""
  flowId := "booking"
  versionId := "v1"
  currentTaskId := "t1"
  context := ⟨"c1", "k1", "welcome", .phone, .midMinute, []⟩

/-- Its text says that it started half a second after 0:00:31. -/
theorem started_mid_minute :
    (Snapshot.ofBlob startedMidMinute.blob).map (·.context.startedAt) =
        .ok ⟨1735689631, 500000000, by decide⟩ ∧
    ¬ ∀ s : Snapshot Timestamp, (Snapshot.ofBlob s.blob).map Snapshot.stamp = .ok s := by
  constructor
  · rw [Snapshot.ofBlob_blob_asRead]
    rfl
  · intro hall
    have hstart := (Snapshot.readBack_iff startedMidMinute).1 (hall startedMidMinute)
    exact absurd hstart.startedAt (by decide)

end Dialogue.Conversation.Session
