import Dialogue.Proofs.Conversation.CurrentTask
import Dialogue.Proofs.Conversation.Resumption
import Dialogue.Proofs.StateMachine.Graph

/-! # Edits that keep conversations alive

    An edit that leaves the graph of a version as it is can be made while conversations run. The
    machine keeps its fingerprint, so every snapshot is taken up on the new machine as it was left,
    and requests are then answered as they were before: what is refused, and why, depends on the
    structure of the machine and on the current task alone (`SameTask.request`), whatever contacts
    come and go in between (`edits_keep_conversations`). -/

namespace Dialogue.Conversation.Session

open Time Dialogue.Flow StateMachine

/-! ### Verdicts -/

/-- The reason for which a request is refused, or nothing where it is accepted, with the task that
    is current then. A step that is no request has no verdict. -/
def verdict? (x : Session) : Step → Option (Option Rejection × String)
  | .request target facts =>
    let (y, o) := x.request target facts
    some (o.refusal?, y.state.context.currentTask)
  | .beginContact _ | .endContact .. | .snapshot => none

/-- The verdict of each request among the steps. -/
def verdicts (x : Session) : List Step → List (Option Rejection × String)
  | [] => []
  | s :: steps => (x.verdict? s).toList ++ (x.step s).verdicts steps

/-- Both are in one task of machines of one structure. -/
structure SameTask (x y : Session) : Prop where
  machine : SameStructure x.machine y.machine
  task : x.state.context.currentTask = y.state.context.currentTask

variable {x y : Session} {m : Machine}

/-- In one task of one structure, a request is refused for one reason and leads to one task. -/
theorem SameTask.request (h : SameTask x y) (target : String) (facts : Facts) :
    (x.request target facts).2.refusal? = (y.request target facts).2.refusal? ∧
      SameTask (x.request target facts).1 (y.request target facts).1 := by
  obtain ⟨hsame, htask⟩ := x.request_of_task h.task.symm target facts
  obtain ⟨hrefusal, hafter⟩ :=
    request_agree (x := { x with state := y.state }) h.machine rfl target facts
  refine ⟨by rw [← hsame, hrefusal], ?_, by rw [← htask, hafter]⟩
  rw [machine_request, machine_request]
  exact h.machine

/-- A step that is no request leaves a session in its task. -/
theorem step_of_no_verdict (x : Session) {s : Step} (hs : x.verdict? s = none) :
    (x.step s).machine = x.machine ∧
      (x.step s).state.context.currentTask = x.state.context.currentTask := by
  cases s with
  | request target facts => cases hs
  | beginContact contactId => exact ⟨rfl, currentTask_beginContact x contactId⟩
  | endContact hooks c now =>
    cases he : x.endContact hooks c now with
    | none => simp [step, he]
    | some y =>
      obtain ⟨hmachine, hcontext, -⟩ := endContact_cases he
      simp [step, he, hmachine, hcontext]
  | snapshot => exact ⟨rfl, rfl⟩

theorem SameTask.step (h : SameTask x y) (s : Step) :
    x.verdict? s = y.verdict? s ∧ SameTask (x.step s) (y.step s) := by
  have hkept (hx : x.verdict? s = none) (hy : y.verdict? s = none) :
      x.verdict? s = y.verdict? s ∧ SameTask (x.step s) (y.step s) := by
    obtain ⟨hxmachine, hxtask⟩ := x.step_of_no_verdict hx
    obtain ⟨hymachine, hytask⟩ := y.step_of_no_verdict hy
    exact ⟨hx.trans
      hy.symm, by rw [hxmachine, hymachine]; exact h.machine, by rw [hxtask, hytask]; exact h.task⟩
  cases s with
  | request target facts =>
    obtain ⟨hrefusal, hsame⟩ := h.request target facts
    exact ⟨by simp only [verdict?, hrefusal, hsame.task], hsame⟩
  | beginContact contactId => exact hkept rfl rfl
  | endContact hooks c now => exact hkept rfl rfl
  | snapshot => exact hkept rfl rfl

theorem SameTask.verdicts_eq (h : SameTask x y) (steps : List Step) :
    x.verdicts steps = y.verdicts steps := by
  induction steps generalizing x y with
  | nil => rfl
  | cons s steps ih =>
    obtain ⟨hverdict, hsame⟩ := h.step s
    rw [verdicts, verdicts, hverdict, ih hsame]

/-! ### Edits -/

/-- Two versions of one graph have machines of one fingerprint. Whatever was done with a session on
    one of them, its snapshot and the text of its snapshot are taken up on the other with nothing
    changed, and of the requests that come later, between contacts that begin and end, each is
    accepted on both, or refused on both for the same reason. -/
theorem edits_keep_conversations {v₁ v₂ : Version} {m₁ m₂ : Machine} (h₁ : compile v₁ = .ok m₁)
    (h₂ : compile v₂ = .ok m₂) (hgraph : v₁.graph = v₂.graph) :
    m₁.fingerprint = m₂.fingerprint ∧
      ∀ x, Entered m₁ x → ∀ steps, ∃ y, resume m₂ (x.after steps).snapshot = .ok y ∧
        resumeBlob m₂ (x.after steps).snapshot.blob = .ok y ∧ y.machine = m₂ ∧
          y.state = (x.after steps).state ∧
        ∀ later, y.verdicts later = (x.after steps).verdicts later := by
  have hc₁ := compile_eq_ok.1 h₁
  have hc₂ := compile_eq_ok.1 h₂
  have hsame := sameStructure_of_graph hc₁ hc₂ hgraph
  have hfingerprint : m₁.fingerprint = m₂.fingerprint := by
    rw [fingerprint_eq hc₁, fingerprint_eq hc₂, hsame.outline_eq]
  refine ⟨hfingerprint, ?_⟩
  intro x hx steps
  obtain ⟨hlocated, hmachine⟩ := (hx.located hc₁.closed).after steps
  rw [hx.machine_eq] at hmachine
  -- the state that the snapshot names has one of the same name and task on the other machine
  obtain ⟨t, ht, -, hid⟩ := hlocated.shows
  rw [hmachine] at ht
  obtain ⟨u, hu, hshape⟩ : ∃ u, m₂.state? (x.after steps).state.context.currentTask = some u ∧
      u.shape = t.shape := by
    have hshapes := state?_shape hsame (x.after steps).state.context.currentTask
    rw [ht, Option.map_some] at hshapes
    exact Option.map_eq_some_iff.1 hshapes.symm
  have hresume : resume m₂ (x.after steps).snapshot =
      .ok { machine := m₂, state := (x.after steps).state } := by
    refine resume_eq_ok.2 ⟨?_, ⟨u, hu, ?_⟩, rfl⟩
    · rw [← hfingerprint, ← hmachine]
      rfl
    · rw [hid]
      exact congrArg (·.2.1) hshape
  have htogether : SameTask { machine := m₂, state := (x.after steps).state } (x.after steps) :=
    ⟨hmachine ▸ hsame.symm, rfl⟩
  exact ⟨_, hresume, by rw [resumeBlob_blob, hresume], rfl, rfl, htogether.verdicts_eq⟩

/-- The first task of booking with tools and a closure of its own, and out of sight of
    the operator. -/
def editedWelcome : Task :=
  { welcome "Good day" with
    tools := some [{ server := "crm", tools := ["find"] }], closure := some {}, kind :=
      .automated true }

/-- Booking asks for a note as well, before and after the name, but can do without it. -/
def editedBooking : Version where
  id := "v1"
  flowId := "booking"
  globalPrompt := "Be brief"
  channels := [.chat]
  closure := { multiContact := true, timeLimit := some 60 }
  declarations := [{ id := "note", name := "Note", type := .custom },
    { id := "name", name := "Name", type := .string, prompt := some "Who is calling?" }]
  tasks :=
    [editedWelcome,
      { id := "t2", description := "book", prompt := "Book it", connectedTasks := ["t1"]
        parameters := [⟨"note", false⟩, ⟨"name", true⟩, ⟨"note", false⟩], kind :=
          .automated false }]
  firstTask := some "t1"
  createdBy := some "Ada"
  createdAt := some Time.Instant.epoch.stamp

theorem compiled_editedBooking :
    Compiled editedBooking (machineOf editedBooking editedWelcome) where
  published := rfl
  declarations := by simp [editedBooking, Variable.problems]
  parameters := by decide
  descriptions := by decide
  tasks := by simp [editedBooking, editedWelcome, welcome, Task.problems, TaskKind.routing?]
  connections := by simp [editedBooking, editedWelcome, welcome, edgeTarget?_eq]
  machine :=
    ⟨editedWelcome, by simp [editedBooking, editedWelcome, welcome, Version.taskById?], rfl⟩

/-- A visitor goes on after the edit, which also keeps the conversation open when a contact ends. -/
theorem visitor_goes_on_after_the_edit :
    let m₁ := machineOf (booking ["name"] "") (welcome "")
    let m₂ := machineOf editedBooking editedWelcome
    let facts : Facts := fun id => if id = "name" then some (.string "Ada") else none
    let x := (start m₁ ⟨"c1", "k1", .phone, .epoch⟩).after [.beginContact "k2"]
    compile (booking ["name"] "") = .ok m₁ ∧ compile editedBooking = .ok m₂ ∧
      (booking ["name"] "").graph = editedBooking.graph ∧ m₁.closure ≠ m₂.closure ∧
      m₁.fingerprint = m₂.fingerprint ∧
      ∃ y, resume m₂ x.snapshot = .ok y ∧ y.state = x.state ∧
        y.verdicts
          [.request "book" fun _ => none, .endContact (fun _ => none) { contactId := "k2" } .epoch,
            .request "book" facts, .request "pay" facts] =
          [(some (.missingParameter "name"), "welcome"), (none, "book"),
              (some (.noSuchTransition "book" "pay"), "book")] := by
  intro m₁ m₂ facts x
  have h₁ : compile (booking ["name"] "") = .ok m₁ := compile_eq_ok.2 (compiled_booking ["name"] "")
  have h₂ : compile editedBooking = .ok m₂ := compile_eq_ok.2 compiled_editedBooking
  have hgraph : (booking ["name"] "").graph = editedBooking.graph := by decide
  obtain ⟨hfingerprint, hall⟩ := edits_keep_conversations h₁ h₂ hgraph
  obtain ⟨y, hresume, -, -, hstate, hverdicts⟩ :=
    hall _ (.fresh ⟨"c1", "k1", .phone, .epoch⟩) [.beginContact "k2"]
  exact ⟨h₁, h₂, hgraph, by decide, hfingerprint, y, hresume, hstate,
    (hverdicts _).trans (by decide)⟩

end Dialogue.Conversation.Session
