import Dialogue.Conversation.Session
import Dialogue.Proofs.StateMachine.Compiled

/-! # Sessions follow the authored graph

    A version can be read without its machine: from the task that is current, a connection leads to
    the last task declared with its id, and a request for a name goes to a connected task of that
    name, if the facts which that task requires are known (`Version.Answers`). A session on the
    machine of the version gives exactly these answers, request after request, and is in the state
    that they say (`requests_follow_version`). -/

namespace Dialogue.Flow.Version

open StateMachine Conversation

/-! ### Reading a version -/

/-- The last task declared with the id. -/
def lastById? (v : Version) (id : String) : Option Task := (v.tasks.filter (·.id = id)).getLast?

/-- A connection of the task `a` leads to the task `b`. -/
def Leads (v : Version) (a b : Task) : Prop := ∃ id ∈ a.connectedTasks, v.lastById? id = some b

/-- From the task named `current` there is a connection to the task `b`. -/
def CanFollow (v : Version) (current : String) (b : Task) : Prop :=
  ∃ a ∈ v.tasks, a.description = current ∧ v.Leads a b

/-- The version answers a request for the task named `target` while the one named `current` is the
    current one. -/
inductive Answers (v : Version) (current target : String) (facts : Facts) : TransitionOutcome → Prop
  /-- Every required parameter has a value that is not empty. -/
  | accepted {b : Task} : v.CanFollow current b → b.description = target →
      (∀ p ∈ b.parameters, p.required → ∃ x, facts p.variableId = some x ∧ x.isPresent) →
      v.Answers current target facts (.accepted
        { taskId := b.id, name := target, prompt := b.prompt, tools := b.tools,
          closure := b.closure, kind := b.kind })
  /-- The parameter is the first required one that has none. -/
  | missing {b : Task} {before after : List TransitionParameter} {p : TransitionParameter} :
      v.CanFollow current b → b.description = target → b.parameters = before ++ p :: after →
      p.required →
      (∀ x, facts p.variableId = some x → ¬ x.isPresent) →
      (∀ q ∈ before, q.required → ∃ x, facts q.variableId = some x ∧ x.isPresent) →
      v.Answers current target facts (.rejected (.missingParameter p.variableId))
  /-- No connection leads to a task of the name. -/
  | noTransition : (∀ b, v.CanFollow current b → b.description ≠ target) →
      v.Answers current target facts (.rejected (.noSuchTransition current target))

/-- The state after an answer: only an accepted request changes it, and only the current task. -/
def stateAfter (s : ConversationState) (target : String) : TransitionOutcome → ConversationState
  | .accepted _ => { s with context := { s.context with currentTask := target } }
  | .rejected _ => s

/-- From the state `s` on, the requests get these outcomes, each with the state after it. -/
inductive Unfolds (v : Version) : ConversationState → List (String × Facts) →
    List (TransitionOutcome × ConversationState) → Prop
  | nil {s : ConversationState} : v.Unfolds s [] []
  | cons {s : ConversationState} {target : String} {facts : Facts} {o : TransitionOutcome}
      {rs : List (String × Facts)} {ts : List (TransitionOutcome × ConversationState)} :
      (∀ o', v.Answers s.context.currentTask target facts o' ↔ o' = o) →
      v.Unfolds (stateAfter s target o) rs ts →
      v.Unfolds s ((target, facts) :: rs) ((o, stateAfter s target o) :: ts)

/-- The reading of the edges: the last task with an id is the one that edges lead to. -/
theorem lastById?_eq (v : Version) (id : String) : v.lastById? id = edgeTarget? v.tasks id := by
  rw [lastById?, edgeTarget?_eq, ← List.head?_filter, List.filter_reverse, List.head?_reverse]

theorem leads_iff {v : Version} {a b : Task} : v.Leads a b ↔ b ∈ successors v.tasks a := by
  simp [Leads, successors, lastById?_eq]

end Dialogue.Flow.Version

namespace Dialogue.Conversation

open Dialogue.Flow StateMachine

/-! ### Facts -/

theorem isKnown_iff {facts : Facts} {id : String} :
    isKnown facts id ↔ ∃ x, facts id = some x ∧ x.isPresent := by
  simp [isKnown, Option.any_eq_true]

/-- A required parameter without a known fact. -/
def isMissing (facts : Facts) (p : TransitionParameter) : Bool :=
  p.required && !isKnown facts p.variableId

theorem not_isMissing_iff {facts : Facts} {p : TransitionParameter} :
    isMissing facts p = false ↔ (p.required → ∃ x, facts p.variableId = some x ∧ x.isPresent) := by
  rw [← isKnown_iff]
  simp [isMissing]

/-- What is missing first among the required ids belongs to the first missing parameter. -/
theorem firstMissing?_required (facts : Facts) (t : Task) :
    firstMissing? facts t.required = (t.parameters.find? (isMissing facts)).map (·.variableId) := by
  have hfun :
      (fun p : TransitionParameter =>
        decide (p.required = true ∧ (!isKnown facts p.variableId) = true))
      = isMissing facts := by
    funext p
    simp [isMissing]
  rw [firstMissing?, Task.required, requiredIds, List.find?_map, List.find?_filter, ← hfun]
  rfl

/-! ### One request -/

namespace Session

/-- The answer to a request, read off the tasks that can follow the task `a`. -/
theorem request_eq {v : Version} {x : Session} (h : Compiled v x.machine) {a : Task}
    (ha : a ∈ v.tasks)
    (hcur : a.description = x.state.context.currentTask) (target : String) (facts : Facts) :
    x.request target facts =
      match (successors v.tasks a).find? (·.description = target) with
      | none => (x, .rejected (.noSuchTransition x.state.context.currentTask target))
      | some b =>
        match b.parameters.find? (isMissing facts) with
        | some p => (x, .rejected (.missingParameter p.variableId))
        | none => (x.moveTo target, .accepted (.ofTask b)) := by
  have hstate : x.currentState? = some (stateWith v.tasks a) := by
    rw [currentState?, ← hcur, h.state?_task ha]
  unfold request
  rw [hstate, Option.bind_some, edge?_stateWith]
  cases hb : (successors v.tasks a).find? (·.description = target) with
  -- no task of that name can follow
  | none => rfl
  | some b =>
    -- one can: its parameters decide
    have hname : b.description = target := by simpa using List.find?_some hb
    have hmem : b ∈ v.tasks := mem_of_mem_successors (List.mem_of_find?_eq_some hb)
    subst hname
    simp only [Option.map_some, checkFacts, Edge.required_to, Edge.target_to, Edge.taskName_to,
      firstMissing?_required]
    cases hp : b.parameters.find? (isMissing facts) with
    | some p => rfl
    | none =>
      simp only [Option.map_none, h.state?_task hmem]
      rfl

end Session

/-- A connected task is found by its name. -/
theorem find?_successors {v : Version} {m : Machine} (h : Compiled v m) {a b : Task}
    (ha : a ∈ v.tasks) {target : String} :
    (successors v.tasks a).find? (·.description = target) = some b ↔
      v.CanFollow a.description b ∧ b.description = target := by
  constructor
  · intro hb
    exact ⟨⟨a, ha, rfl,
      Version.leads_iff.2 (List.mem_of_find?_eq_some hb)⟩, by simpa using List.find?_some hb⟩
  · rintro ⟨⟨a', ha', hname, hleads⟩, rfl⟩
    -- the descriptions of the tasks differ, so the name fixes both tasks
    obtain rfl := h.task_eq ha' ha hname
    have hmem := Version.leads_iff.1 hleads
    have hsome : ((successors v.tasks a').find? (·.description = b.description)).isSome := by
      rw [List.find?_isSome]
      exact ⟨b, hmem, by simp⟩
    obtain ⟨c, hc⟩ := Option.isSome_iff_exists.1 hsome
    have hcb : c.description = b.description := by simpa using List.find?_some hc
    rw [hc, h.task_eq (mem_of_mem_successors (List.mem_of_find?_eq_some hc))
      (mem_of_mem_successors hmem) hcb]

section

variable {v : Version} {x : Session} {a : Task} {target : String} {facts : Facts}

/-- Any answer that the version gives is that of the session. -/
theorem eq_request_of_answers (h : Compiled v x.machine) (ha : a ∈ v.tasks)
    (hcur : a.description = x.state.context.currentTask) {o : TransitionOutcome}
    (ho : v.Answers x.state.context.currentTask target facts o) :
    o = (x.request target facts).2 := by
  rw [x.request_eq h ha hcur]
  rw [← hcur] at ho ⊢
  cases ho with
  | @accepted b hfollow hname hknown =>
    have hb := (find?_successors h ha).2 ⟨hfollow, hname⟩
    have hp : b.parameters.find? (isMissing facts) = none := by
      rw [List.find?_eq_none]
      intro p hp
      simpa using not_isMissing_iff.2 (hknown p hp)
    simp [hb, hp, TaskView.ofTask, hname]
  | @missing b before after p hfollow hname hsplit hreq hno hknown =>
    have hb := (find?_successors h ha).2 ⟨hfollow, hname⟩
    have hp : b.parameters.find? (isMissing facts) = some p := by
      rw [List.find?_eq_some_iff_append]
      refine ⟨?_, before, after, hsplit, ?_⟩
      · have hunknown : isKnown facts p.variableId = false := by
          rw [Bool.eq_false_iff, ne_eq, isKnown_iff]
          rintro ⟨y, hy, hpresent⟩
          exact hno y hy hpresent
        simp [isMissing, hreq, hunknown]
      · intro q hq
        simpa using not_isMissing_iff.2 (hknown q hq)
    simp [hb, hp]
  | noTransition hnone =>
    have hb : (successors v.tasks a).find? (·.description = target) = none := by
      rw [Option.eq_none_iff_forall_ne_some]
      intro b hb
      obtain ⟨hfollow, hname⟩ := (find?_successors h ha).1 hb
      exact hnone b hfollow hname
    simp [hb]

/-- The version gives the answer of the session. -/
theorem answers_request (h : Compiled v x.machine) (ha : a ∈ v.tasks)
    (hcur : a.description = x.state.context.currentTask) :
    v.Answers x.state.context.currentTask target facts (x.request target facts).2 := by
  rw [x.request_eq h ha hcur, ← hcur]
  cases hb : (successors v.tasks a).find? (·.description = target) with
  | none =>
    apply Version.Answers.noTransition
    intro b hfollow hname
    rw [(find?_successors h ha).2 ⟨hfollow, hname⟩] at hb
    cases hb
  | some b =>
    obtain ⟨hfollow, hname⟩ := (find?_successors h ha).1 hb
    cases hp : b.parameters.find? (isMissing facts) with
    | none =>
      simp only [hp, TaskView.ofTask]
      rw [hname]
      refine .accepted hfollow hname ?_
      intro p hmem
      rw [← not_isMissing_iff]
      simpa using List.find?_eq_none.1 hp p hmem
    | some p =>
      simp only [hp]
      -- the parameters before the one that is found are not missing
      obtain ⟨hmiss, before, after, hsplit, hbefore⟩ := List.find?_eq_some_iff_append.1 hp
      simp only [isMissing, Bool.and_eq_true, Bool.not_eq_true'] at hmiss
      refine .missing hfollow hname hsplit hmiss.1 ?_ ?_
      · intro y hy hpresent
        rw [isKnown_iff.2 ⟨y, hy, hpresent⟩] at hmiss
        exact absurd hmiss.2 (by simp)
      · intro q hq
        rw [← not_isMissing_iff]
        simpa using hbefore q hq

/-- The session answers a request as the version does. -/
theorem answers_iff (h : Compiled v x.machine) (ha : a ∈ v.tasks)
    (hcur : a.description = x.state.context.currentTask) {o : TransitionOutcome} :
    v.Answers x.state.context.currentTask target facts o ↔ o = (x.request target facts).2 := by
  constructor
  · exact eq_request_of_answers h ha hcur
  · rintro rfl
    exact answers_request h ha hcur

end

/-! ### Runs of requests -/

namespace Session

/-- The outcome of each request, with the state after it. -/
def trace (x : Session) : List (String × Facts) → List (TransitionOutcome × ConversationState)
  | [] => []
  | (target, facts) :: rs =>
    let (y, o) := x.request target facts
    (o, y.state) :: y.trace rs

/-- A request keeps the machine, changes the state as its outcome says and stays among the tasks. -/
theorem request_step {v : Version} {x : Session} (h : Compiled v x.machine) {a : Task}
    (ha : a ∈ v.tasks) (hcur : a.description = x.state.context.currentTask) (target : String)
    (facts : Facts) :
    (x.request target facts).1.machine = x.machine ∧
      (x.request target facts).1.state = Version.stateAfter x.state target
          (x.request target facts).2 ∧
      ∃ b ∈ v.tasks, b.description = (x.request target facts).1.state.context.currentTask := by
  rw [x.request_eq h ha hcur]
  cases hb : (successors v.tasks a).find? (·.description = target) with
  | none => exact ⟨rfl, rfl, a, ha, hcur⟩
  | some b =>
    have hname : b.description = target := by simpa using List.find?_some hb
    have hmem : b ∈ v.tasks := mem_of_mem_successors (List.mem_of_find?_eq_some hb)
    simp only
    cases hp : b.parameters.find? (isMissing facts) with
    | some p => exact ⟨rfl, rfl, a, ha, hcur⟩
    | none => exact ⟨rfl, rfl, b, hmem, hname⟩

theorem trace_cons (x : Session) (target : String) (facts : Facts) (rs : List (String × Facts)) :
    x.trace ((target, facts) :: rs) =
      ((x.request target facts).2, (x.request target facts).1.state) ::
          (x.request target facts).1.trace rs := rfl

theorem unfolds_trace {v : Version} {m : Machine} (h : Compiled v m) (rs : List (String × Facts))
    {x : Session} (hm : x.machine = m)
    (htask : ∃ a ∈ v.tasks, a.description = x.state.context.currentTask) :
    v.Unfolds x.state rs (x.trace rs) := by
  -- after each request the session still stands at a task of the version
  induction rs generalizing x with
  | nil => exact .nil
  | cons r rs ih =>
    obtain ⟨target, facts⟩ := r
    obtain ⟨a, ha, hcur⟩ := htask
    subst hm
    obtain ⟨hmachine, hstate, htask⟩ := x.request_step h ha hcur target facts
    have hrest := ih hmachine htask
    rw [hstate] at hrest
    rw [trace_cons, hstate]
    exact .cons (fun o => answers_iff h ha hcur) hrest

end Session

/-- A session on the machine of a version starts in its first task, and every request
    after that gets the one answer that the version gives, in the state that follows
    from the answers before. -/
theorem requests_follow_version {v : Version} {m : Machine} (h : compile v = .ok m) (s : Start)
    (rs : List (String × Facts)) :
    (∃ first, v.firstTask.bind v.taskById? = some first ∧
        (Session.start m s).state.context.currentTask = first.description) ∧
      v.Unfolds (Session.start m s).state rs ((Session.start m s).trace rs) := by
  have hc := compile_eq_ok.1 h
  obtain ⟨first, hfirst, rfl⟩ := hc.machine
  have hmem : first ∈ v.tasks := by
    obtain ⟨id, -, hid⟩ := Option.bind_eq_some_iff.1 hfirst
    exact List.mem_of_find?_eq_some hid
  constructor
  · exact ⟨first, hfirst, rfl⟩
  · exact Session.unfolds_trace hc rs rfl ⟨first, hmem, rfl⟩

/-- A start, and requests for an open task, for one that is closed and for one that is not there. -/
theorem booking_requests_follow_version :
    let v := booking ["name", "date"] ""
    let m := machineOf v (welcome "")
    let s : Start := ⟨"c1", "k1", .phone, .epoch⟩
    let facts : Facts := fun id => if id = "name" then some (.string "Ada") else none
    let rs := [("welcome", facts), ("book", facts), ("pay", facts)]
    compile v = .ok m ∧ (Session.start m s).trace rs =
        [(.accepted (.ofTask (welcome "")), (Session.start m s).state),
          (.rejected (.missingParameter "date"), (Session.start m s).state),
          (.rejected (.noSuchTransition "welcome" "pay"), (Session.start m s).state)] ∧
      (∃ first, v.firstTask.bind v.taskById? = some first ∧
        (Session.start m s).state.context.currentTask = first.description) ∧
      v.Unfolds (Session.start m s).state rs ((Session.start m s).trace rs) := by
  intro v m s facts rs
  have h : compile v = .ok m := compile_eq_ok.2 (compiled_booking ["name", "date"] "")
  exact ⟨h, by rfl, requests_follow_version h s rs⟩

end Dialogue.Conversation
