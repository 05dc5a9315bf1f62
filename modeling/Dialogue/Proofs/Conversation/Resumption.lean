import Dialogue.Proofs.Conversation.Authored
import Dialogue.Proofs.Conversation.Steps
import Dialogue.Proofs.StateMachine.Outline

/-! # Taking a conversation up on another machine

    A snapshot may be taken up on any machine of its fingerprint. Machines of one structure refuse
    the same requests for the same reasons (`Session.refusals_agree`), and machines with plain texts
    have one structure when their fingerprints agree (`fingerprint_determines_structure`). Texts
    that hold the marks of the outline break this: a conversation can be taken up where it is asked
    for other facts (`taken_up_under_other_rules`). -/

namespace Dialogue.Conversation

open Dialogue.Flow StateMachine

/-- The reason of a refusal; an accepted request has none. -/
def TransitionOutcome.refusal? : TransitionOutcome → Option Rejection
  | .accepted _ => none
  | .rejected reason => some reason

namespace Session

/-! ### Machines of one structure -/

theorem state?_shape {m₁ m₂ : Machine} (h : SameStructure m₁ m₂) (name : String) :
    (m₁.state? name).map State.shape = (m₂.state? name).map State.shape := by
  have hat (m : Machine) : (m.state? name).map State.shape =
      (m.index.get? name).bind ((m.states.map State.shape)[·]?) := by
    rw [Machine.state?]
    cases m.index.get? name <;> simp
  rw [hat, hat, h.states, h.index]

theorem edge?_agree {m₁ m₂ : Machine} (h : SameStructure m₁ m₂) (name target : String) :
    (m₁.state? name).bind (·.edge? target) = (m₂.state? name).bind (·.edge? target) := by
  have hbind (m : Machine) : (m.state? name).bind (·.edge? target) =
      ((m.state? name).map State.shape).bind fun sh => sh.2.2.2.find? (·.event = target) := by
    cases m.state? name <;> rfl
  rw [hbind, hbind, state?_shape h]

/-- On machines of one structure a request is refused for the same reason and leads to
    the same state. -/
theorem request_agree {x y : Session} (h : SameStructure x.machine y.machine)
    (hs : x.state = y.state) (target : String) (facts : Facts) :
    (x.request target facts).2.refusal? = (y.request target facts).2.refusal? ∧
      (x.request target facts).1.state = (y.request target facts).1.state := by
  have hedge : x.currentState?.bind (·.edge? target) = y.currentState?.bind (·.edge? target) := by
    rw [currentState?, currentState?, hs, edge?_agree h]
  unfold request
  rw [hedge]
  cases y.currentState?.bind (·.edge? target) with
  | none => exact ⟨by rw [hs], hs⟩
  | some e =>
    cases hfacts : checkFacts facts e.required with
    | error reason =>
      simp only [hfacts, true_and]
      exact hs
    | ok _ =>
      have hmoved : (x.moveTo e.taskName).state = (y.moveTo e.taskName).state := by
        rw [moveTo, moveTo, hs]
      -- both go on to the same task, and both find it or neither does
      have hstate := state?_shape h e.target
      cases hx : x.machine.state? e.target with
      | none =>
        have hy : y.machine.state? e.target = none := by simpa [hx] using hstate.symm
        simp only [hfacts, hx, hy]
        exact ⟨by rw [hs], hmoved⟩
      | some t =>
        obtain ⟨u, hy⟩ : ∃ u, y.machine.state? e.target = some u := by
          rw [hx] at hstate
          cases hy : y.machine.state? e.target <;> simp_all
        simp only [hfacts, hx, hy]
        exact ⟨rfl, hmoved⟩

/-- The reason of each refusal in a run, with the state after the request. -/
def refusals (x : Session) (rs : List (String × Facts)) :
    List (Option Rejection × ConversationState) :=
  (x.trace rs).map fun t => (t.1.refusal?, t.2)

theorem refusals_cons (x : Session) (target : String) (facts : Facts) (rs : List (String × Facts)) :
    x.refusals ((target, facts) :: rs) =
      ((x.request target facts).2.refusal?, (x.request target facts).1.state)
        :: (x.request target facts).1.refusals rs := rfl

theorem refusals_agree (rs : List (String × Facts)) {x y : Session}
    (h : SameStructure x.machine y.machine) (hs : x.state = y.state) :
    x.refusals rs = y.refusals rs := by
  induction rs generalizing x y with
  | nil => rfl
  | cons r rs ih =>
    obtain ⟨target, facts⟩ := r
    obtain ⟨hrefusal, hstate⟩ := request_agree h hs target facts
    have hmachine :
        SameStructure (x.request target facts).1.machine (y.request target facts).1.machine := by
      rw [Session.machine_request, Session.machine_request]
      exact h
    rw [refusals_cons, refusals_cons, hrefusal, hstate, ih hmachine hstate]

end Session

/-! ### Fingerprints -/

theorem fingerprint_eq {v : Version} {m : Machine} (h : Compiled v m) :
    m.fingerprint = Text.sha256 m.outline := by
  obtain ⟨first, -, rfl⟩ := h.machine
  rfl

/-- Two machines of one fingerprint have one structure, if their texts hold no marks of the outline
    and the digest does not collide on their outlines. A conversation that is taken up from one on
    the other is then refused the same requests, for the same reasons. -/
theorem fingerprint_determines_structure {v₁ v₂ : Version} {m₁ m₂ : Machine}
    (h₁ : compile v₁ = .ok m₁) (h₂ : compile v₂ = .ok m₂) (hp₁ : m₁.Plain) (hp₂ : m₂.Plain)
    (hdigest : Text.sha256 m₁.outline = Text.sha256 m₂.outline → m₁.outline = m₂.outline) :
    (m₁.fingerprint = m₂.fingerprint → SameStructure m₁ m₂) ∧
      ∀ x y : Session, x.machine = m₁ → Session.resume m₂ x.snapshot = .ok y →
        ∀ rs, y.state = x.state ∧ y.refusals rs = x.refusals rs := by
  have hc₁ := compile_eq_ok.1 h₁
  have hc₂ := compile_eq_ok.1 h₂
  have hsame (hf : m₁.fingerprint = m₂.fingerprint) : SameStructure m₁ m₂ := by
    rw [fingerprint_eq hc₁, fingerprint_eq hc₂] at hf
    exact sameStructure_of_outline hp₁ hp₂ hc₁.closed hc₂.closed (hdigest hf)
  refine ⟨hsame, ?_⟩
  rintro x y rfl hy rs
  obtain ⟨hf, -, hy⟩ := Session.resume_eq_ok.1 hy
  have hmachine : y.machine = m₂ := by rw [hy]
  have hstate : y.state = x.state := by rw [hy]; rfl
  exact ⟨hstate, Session.refusals_agree rs (hmachine ▸ (hsame hf).symm) hstate⟩

theorem plain_booking (prompt : String) :
    (machineOf (booking ["name", "date"] prompt) (welcome prompt)).Plain := by
  constructor
  · have h : '\n' ∉ (machineId "booking" "v1").toList := by decide
    exact h
  · simp [machineOf, booking, welcome, stateWith, State.name, TaskView.ofTask]
  · simp [machineOf, booking, welcome, stateWith, TaskView.ofTask]
  · simp [machineOf, booking, welcome, stateWith, edgesTo, successors, edgeTarget?_eq, addEdge,
      Task.required, requiredIds]

/-- Another wording keeps the structure. -/
theorem reworded_booking_determines_structure :
    let m (prompt : String) := machineOf (booking ["name", "date"] prompt) (welcome prompt)
    compile (booking ["name", "date"] "Hello") = .ok (m "Hello") ∧
      compile (booking ["name", "date"] "Good day") = .ok (m "Good day") ∧ (m "Hello").Plain ∧
      (m "Good day").Plain ∧
      (m "Hello").outline = (m "Good day").outline ∧
      ((m "Hello").fingerprint = (m "Good day").fingerprint →
        SameStructure (m "Hello") (m "Good day")) ∧
      ∀ x y : Session, x.machine = m "Hello" → Session.resume (m "Good day") x.snapshot = .ok y →
        ∀ rs, y.state = x.state ∧ y.refusals rs = x.refusals rs := by
  intro m
  have h (prompt : String) := compile_eq_ok.2 (compiled_booking ["name", "date"] prompt)
  have houtline : (m "Hello").outline = (m "Good day").outline := by rfl
  exact ⟨h _, h _, plain_booking _, plain_booking _, houtline,
    fingerprint_determines_structure (h _) (h _) (plain_booking _) (plain_booking _) fun _ =>
    houtline⟩

/-! ### Texts with marks -/

/-- A task on its own. -/
def entry : Task := { id := "t1", description := "welcome", kind := .automated false }

/-- A version that lists tasks of these descriptions and ids after the first. -/
def listing (tasks : List (String × String)) : Version where
  id := "v1"
  flowId := "listing"
  tasks := entry :: tasks.map fun t => { id := t.2, description := t.1, kind := .automated false }
  firstTask := some "t1"

theorem compiled_listing {tasks : List (String × String)}
    (h : ("welcome" :: tasks.map (·.1)).Nodup) :
    Compiled (listing tasks) (machineOf (listing tasks) entry) where
  published := rfl
  declarations := by simp [listing]
  parameters := by simp [listing, entry, Version.undeclaredParameters, List.flatMap_map]
  descriptions := by simpa [listing, entry, Function.comp_def] using h
  tasks := by
    intro t ht
    obtain rfl | ⟨_, _, -, rfl⟩ := by simpa [listing] using ht
    all_goals rfl
  connections := by
    intro t ht id hid
    obtain rfl | ⟨_, _, -, rfl⟩ := by simpa [listing] using ht
    all_goals cases hid
  machine := ⟨entry, by simp [listing, entry, Version.taskById?], rfl⟩

/-- Both versions compile, to machines of one fingerprint and two structures. -/
def Confused (v₁ v₂ : Version) : Prop :=
  ∃ m₁ m₂, compile v₁ = .ok m₁ ∧ compile v₂ = .ok m₂ ∧ m₁.fingerprint = m₂.fingerprint ∧
    ¬ SameStructure m₁ m₂

theorem Confused.of_outline {v₁ v₂ : Version} {m₁ m₂ : Machine} (h₁ : Compiled v₁ m₁)
    (h₂ : Compiled v₂ m₂) (ho : m₁.outline = m₂.outline)
    (hs : m₁.states.map State.shape ≠ m₂.states.map State.shape) : Confused v₁ v₂ :=
  ⟨m₁, m₂, compile_eq_ok.2 h₁, compile_eq_ok.2 h₂, by rw [fingerprint_eq h₁, fingerprint_eq h₂, ho],
    fun h => hs h.states⟩

/-- Each condition on plain texts is needed: an id with a comma reads like two, an empty one like
    none, a bar shifts what is name and what is id, and a line break makes a state of its own. -/
theorem marks_confuse :
    Confused (booking ["name", "date"] "") (booking ["name,date"] "") ∧
      Confused (booking [] "") (booking [""] "") ∧
      Confused (listing [("a|b", "c")]) (listing [("a", "b|c")]) ∧
      Confused (listing [("a", "b|AIO\nstate:c|d")]) (listing [("a", "b"), ("c", "d")]) :=
  ⟨.of_outline (compiled_booking _ _) (compiled_booking _ _) (by rfl) (by decide),
    .of_outline (compiled_booking _ _) (compiled_booking _ _) (by rfl) (by decide),
    .of_outline (compiled_listing (by decide)) (compiled_listing (by decide)) (by decide)
      (by decide),
    .of_outline (compiled_listing (by decide)) (compiled_listing (by decide)) (by decide)
      (by decide)⟩

/-- A conversation that may book with a name and a date is taken up where booking needs a fact that
    is called `name,date`. -/
theorem taken_up_under_other_rules :
    let m₁ := machineOf (booking ["name", "date"] "") (welcome "")
    let m₂ := machineOf (booking ["name,date"] "") (welcome "")
    let facts : Facts := fun id => if id = "name" ∨ id = "date" then some (.string "x") else none
    let x := Session.start m₁ ⟨"c1", "k1", .phone, .epoch⟩
    compile (booking ["name", "date"] "") = .ok m₁ ∧ compile (booking ["name,date"] "") = .ok m₂ ∧
      m₁.fingerprint = m₂.fingerprint ∧ ¬ SameStructure m₁ m₂ ∧
      ∃ y, Session.resume m₂ x.snapshot = .ok y ∧ (x.request "book" facts).2.refusal? = none ∧
        (y.request "book" facts).2.refusal? = some (.missingParameter "name,date") := by
  intro m₁ m₂ facts x
  have h₁ : Compiled _ m₁ := compiled_booking ["name", "date"] ""
  have h₂ : Compiled _ m₂ := compiled_booking ["name,date"] ""
  have houtline : m₁.outline = m₂.outline := by rfl
  have hf : m₁.fingerprint = m₂.fingerprint := by
    rw [fingerprint_eq h₁, fingerprint_eq h₂, houtline]
  have hshape : m₁.states.map State.shape ≠ m₂.states.map State.shape := by decide
  refine ⟨compile_eq_ok.2 h₁, compile_eq_ok.2 h₂, hf, fun h => hshape h.states,
    { machine := m₂, state := x.state },
    Session.resume_eq_ok.2 ⟨hf, ⟨_, h₂.state?_task List.mem_cons_self, rfl⟩,
      rfl⟩, by decide, by decide⟩

end Dialogue.Conversation
