import Dialogue.Proofs.Conversation.RoundTrip
import Dialogue.Proofs.StateMachine.WellFormed

/-! # The current task always exists

    However a session on a compiled machine was come by, fresh or from a snapshot that somebody
    wrote, its current task is that of a state of the machine, and no step changes that
    (`Located.step`). So there is always a task to show, a snapshot names it, and the snapshot can
    be taken up (`current_task_exists`). -/

namespace Dialogue.Conversation.Session

open Time Dialogue.Flow StateMachine

/-- What a session can be made to do. -/
inductive Step where
  | request (target : String) (facts : Facts)
  | beginContact (contactId : String)
  | endContact (hooks : Hooks) (c : ContactEnd) (now : Instant)
  | snapshot

/-- The session after the step. A hook that breaks down leaves it as it was. -/
def step (x : Session) : Step → Session
  | .request target facts => (x.request target facts).1
  | .beginContact contactId => x.beginContact contactId
  | .endContact hooks c now => ((x.endContact hooks c now).map (·.1)).getD x
  | .snapshot => x

/-- The session after the steps. -/
def after (x : Session) (steps : List Step) : Session := steps.foldl step x

/-- How a session on the machine is come by. -/
inductive Entered (m : Machine) : Session → Prop where
  | fresh (s : Start) : Entered m (start m s)
  | takenUp {s : Snapshot} {x : Session} (h : resume m s = .ok x) : Entered m x

variable {x : Session} {m : Machine}

/-! ### Every step keeps the session on its machine -/

theorem Entered.located (hm : m.Closed) (h : Entered m x) : x.Located := by
  cases h with
  | fresh s => exact located_start hm s
  | takenUp h => exact located_of_resume hm h

theorem Entered.machine_eq (h : Entered m x) : x.machine = m := by
  cases h with
  | fresh s => rfl
  | takenUp h =>
    obtain ⟨-, -, rfl⟩ := resume_eq_ok.1 h
    rfl

theorem Located.step (h : x.Located) (s : Step) : (x.step s).Located := by
  cases s with
  | request target facts => exact h.request target facts
  | beginContact contactId => exact h.beginContact contactId
  | endContact hooks c now =>
    cases he : x.endContact hooks c now with
    | none => simpa [Session.step, he] using h
    | some y => simpa [Session.step, he] using h.endContact he
  | snapshot => exact h

theorem machine_step (h : x.Located) (s : Step) : (x.step s).machine = x.machine := by
  cases s with
  | request target facts =>
    obtain ⟨_, hmoved, -⟩ | ⟨_, hsame⟩ := request_cases h.closed target facts
    · rw [step, hmoved]
      rfl
    · rw [step, hsame]
  | beginContact contactId => rfl
  | endContact hooks c now =>
    cases he : x.endContact hooks c now with
    | none => simp [step, he]
    | some y => simpa [step, he] using (endContact_cases he).1
  | snapshot => rfl

theorem Located.after (h : x.Located) (steps : List Step) :
    (x.after steps).Located ∧ (x.after steps).machine = x.machine := by
  induction steps generalizing x with
  | nil => exact ⟨h, rfl⟩
  | cons s steps ih =>
    obtain ⟨hlocated, hmachine⟩ := ih (h.step s)
    exact ⟨hlocated, hmachine.trans (machine_step h s)⟩

/-- A located session shows the task of its state, and so does its snapshot. -/
theorem Located.shows (h : x.Located) : ∃ t, x.machine.state? x.state.context.currentTask = some t ∧
    x.currentTask? = some t.task ∧ x.snapshot.currentTaskId = t.task.taskId := by
  obtain ⟨t, ht⟩ := h.current
  have hshown : x.currentTask? = some t.task := by simp [currentTask?, currentState?, ht]
  exact ⟨t, ht, hshown, by simp [snapshot, hshown]⟩

/-- A compiled machine is well formed. Whatever is done with a session on it, the current task is
    that of a state of the machine, the snapshot has its id, and taking the snapshot up on the
    machine, as it is or from its text, gives the session back. -/
theorem current_task_exists {v : Version} (hm : compile v = .ok m) :
    m.WellFormed ∧
    ∀ x, Entered m x → ∀ steps,
      (∃ t ∈ m.states, t.name = (x.after steps).state.context.currentTask ∧
        (x.after steps).currentTask? = some t.task ∧
          (x.after steps).snapshot.currentTaskId = t.task.taskId) ∧
      resume m (x.after steps).snapshot = .ok (x.after steps) ∧
      resumeBlob m (x.after steps).snapshot.blob = .ok (x.after steps) := by
  have hcompiled := compile_eq_ok.1 hm
  have hwell := hcompiled.wellFormed
  refine ⟨hwell, ?_⟩
  intro x hx steps
  obtain ⟨hlocated, hmachine⟩ := (hx.located hcompiled.closed).after steps
  rw [hx.machine_eq] at hmachine
  have hresume : resume m (x.after steps).snapshot = .ok (x.after steps) :=
    hmachine ▸ resume_snapshot hlocated
  obtain ⟨t, ht, htask, hid⟩ := hlocated.shows
  rw [hmachine, hwell.found] at ht
  exact ⟨⟨t, ht.1, ht.2, htask, hid⟩, hresume, by rw [resumeBlob_blob, hresume]⟩

/-- A snapshot that no session took: of another flow, with a contact that was attached
    twice before. -/
def writtenByHand (m : Machine) : Snapshot where
  fingerprint := m.fingerprint
  flowId := "support"
  versionId := ""
  currentTaskId := "t2"
  context := ⟨"c1", "k1", "book", .chat, .epoch, ["k1", "k1"]⟩

theorem current_task_exists_written_by_hand :
    let m := machineOf (booking ["name"] "") (welcome "")
    let x : Session := { machine := m, state := { context := (writtenByHand m).context } }
    let steps : List Step :=
      [.request "book" fun _ => none, .request "welcome" fun _ => none, .beginContact "k2"]
    compile (booking ["name"] "") = .ok m ∧ resume m (writtenByHand m) = .ok x ∧ m.WellFormed ∧
      (x.after steps).currentTask?.map (·.taskId) = some "t1" ∧
      (x.after steps).snapshot.currentTaskId = "t1" ∧
      resume m (x.after steps).snapshot = .ok (x.after steps) := by
  intro m x steps
  have hv := compiled_booking ["name"] ""
  have hm : compile (booking ["name"] "") = .ok m := compile_eq_ok.2 hv
  have hx : resume m (writtenByHand m) = .ok x :=
    resume_eq_ok.2 ⟨rfl, ⟨_, hv.state?_task (List.mem_cons_of_mem _ List.mem_cons_self), rfl⟩, rfl⟩
  obtain ⟨hwell, hall⟩ := current_task_exists hm
  obtain ⟨-, hresume, -⟩ := hall x (.takenUp hx) steps
  exact ⟨hm, hx, hwell, by decide, by decide, hresume⟩

end Dialogue.Conversation.Session
