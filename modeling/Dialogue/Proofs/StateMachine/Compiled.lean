import Mathlib.Data.List.Basic
import Dialogue.Proofs.StateMachine.Positions

/-! # What compilation accepts

    A version compiles exactly when it passes every check (`compile_eq_ok`), and its machine is
    then written down without the checks (`machineOf`): a state for each task, with an edge for
    each description that its connections lead to. The index has a name at a position exactly
    when the state there is of that name (`Compiled.indexed`). From that follow the look-ups
    that running the machine needs: a state is the one task of its name, and an edge leads to
    the first connected task of its name (`Compiled.state?_eq`, `edge?_stateWith`), so it never
    leads out of the machine. -/

namespace Dialogue.StateMachine

open Dialogue.Flow

/-! ### The machine of a version that passes -/

/-- The task that edges with the id lead to: the last one declared with it. -/
def edgeTarget? (tasks : List Task) (id : String) : Option Task := (tasksById tasks).get? id

/-- The edges to the tasks, one for each description. -/
def edgesTo (ts : List Task) : List Edge := ts.foldl addEdge []

/-- The tasks that the connections of a task lead to. -/
def successors (tasks : List Task) (t : Task) : List Task :=
  t.connectedTasks.filterMap (edgeTarget? tasks)

/-- The state of a task that is connected to the other tasks as it says. -/
def stateWith (tasks : List Task) (t : Task) : State := ⟨.ofTask t, edgesTo (successors tasks t)⟩

/-- The machine of the version, started in the task `first`. -/
def machineOf (v : Version) (first : Task) : Machine :=
  let id := machineId v.flowId v.id
  let states := v.tasks.map (stateWith v.tasks)
  { id, flowId := v.flowId, versionId := v.id, initial := first.description,
    globalPrompt := v.globalPrompt
    closure := v.closure, fingerprint := fingerprint id first.description states
    declared := v.declarations.map (·.id), states, index := positions v.tasks }

/-- The version passes every check, and `m` is its machine. -/
structure Compiled (v : Version) (m : Machine) : Prop where
  published : v.draft = false
  declarations : ∀ x ∈ v.declarations, x.problems = []
  parameters : v.undeclaredParameters = []
  descriptions : (v.tasks.map (·.description)).Nodup
  tasks : ∀ t ∈ v.tasks, t.problems = []
  connections : ∀ t ∈ v.tasks, ∀ id ∈ t.connectedTasks, (edgeTarget? v.tasks id).isSome
  machine : ∃ first, v.firstTask.bind v.taskById? = some first ∧ m = machineOf v first

/-! ### The checks -/

theorem checkVariables_eq_ok {xs : List Variable} :
    checkVariables xs = .ok () ↔ ∀ x ∈ xs, x.problems = [] := by
  induction xs with
  | nil => simp [checkVariables]
  | cons x xs ih =>
    rw [List.forall_mem_cons, ← ih]
    cases hx : x.problems with
    | nil => simp [checkVariables, hx]
    | cons p ps => simp [checkVariables, hx]

theorem checkParameters_eq_ok {v : Version} :
    checkParameters v = .ok () ↔ v.undeclaredParameters = [] := by
  unfold checkParameters
  split <;> simp_all

/-! ### The states -/

theorem edgeTarget?_eq (tasks : List Task) (id : String) :
    edgeTarget? tasks id = tasks.reverse.find? (·.id = id) := by
  rw [edgeTarget?, tasksById, Dict.get?_ofList, ← List.map_reverse, List.find?_map, Option.map_map]
  exact Option.map_id_apply

/-- Edges are found exactly when every id is that of a task. -/
theorem followEdges_eq_ok {tasks : List Task} {source : String} {ids : List String}
    {es out : List Edge} :
    followEdges (tasksById tasks) source es ids = .ok out ↔
      (∀ id ∈ ids, (edgeTarget? tasks id).isSome) ∧
        out = (ids.filterMap (edgeTarget? tasks)).foldl addEdge es := by
  -- the edges found so far come first
  induction ids generalizing es with
  | nil => simpa [followEdges] using eq_comm
  | cons id ids ih =>
    unfold followEdges
    rw [← edgeTarget?]
    split
    · rename_i hnone
      simp [hnone]
    · rename_i t ht
      rw [ih]
      simp [ht]

theorem stateOf_eq_ok {tasks : List Task} {t : Task} {s : State} :
    stateOf (tasksById tasks) t = .ok s ↔
    (∀ id ∈ t.connectedTasks, (edgeTarget? tasks id).isSome) ∧ s = stateWith tasks t := by
  have hes (out : List Edge) : followEdges (tasksById tasks) t.id [] t.connectedTasks = .ok out ↔
      (∀ id ∈ t.connectedTasks, (edgeTarget? tasks id).isSome) ∧
        out = edgesTo (successors tasks t) :=
    followEdges_eq_ok
  simp only [stateOf, bind, Except.bind, pure, Except.pure]
  split
  · rename_i e he
    simp only [reduceCtorEq, false_iff, not_and]
    intro hall
    have := (hes _).2 ⟨hall, rfl⟩
    simp [this] at he
  · rename_i es he
    obtain ⟨hall, rfl⟩ := (hes es).1 he
    simp only [Except.ok.injEq]
    constructor
    · intro h
      exact ⟨hall, h.symm⟩
    · rintro ⟨-, h⟩
      exact h.symm

theorem bind_eq_ok {α β ε : Type} {x : Except ε α} {f : α → Except ε β} {b : β} :
    x >>= f = .ok b ↔ ∃ a, x = .ok a ∧ f a = .ok b := by
  cases x <;> simp [bind, Except.bind]

theorem bind_eq_error {α β ε : Type} {x : Except ε α} {f : α → Except ε β} {e : ε} :
    x >>= f = .error e ↔ x = .error e ∨ ∃ a, x = .ok a ∧ f a = .error e := by
  cases x <;> simp [bind, Except.bind]

/-- A pass over a list succeeds when it does so on every item. -/
theorem mapM_eq_ok {α β ε : Type} {f : α → Except ε β} {xs : List α} {ys : List β} :
    xs.mapM f = .ok ys ↔ xs.map f = ys.map .ok := by
  induction xs generalizing ys with
  | nil => cases ys <;> simp [pure, Except.pure]
  | cons x xs ih =>
    rw [List.mapM_cons]
    cases hx : f x with
    | error e => cases ys <;> simp [bind, Except.bind, hx]
    | ok y =>
      cases hxs :
        xs.mapM f <;> cases ys <;> simp [bind, Except.bind, pure, Except.pure, ← ih, hx, hxs]

/-- A pass over a list fails on one of the items. -/
theorem mapM_eq_error {α β ε : Type} {f : α → Except ε β} {xs : List α} {e : ε}
    (h : xs.mapM f = .error e) :
    ∃ x ∈ xs, f x = .error e := by
  induction xs with
  | nil => cases h
  | cons x xs ih =>
    rw [List.mapM_cons] at h
    rcases bind_eq_error.1 h with h | ⟨y, -, h⟩
    · exact ⟨x, by simp, h⟩
    rcases bind_eq_error.1 h with h | ⟨ys, -, h⟩
    · obtain ⟨z, hz, h⟩ := ih h
      exact ⟨z, by simp [hz], h⟩
    · cases h

theorem states_eq_ok {tasks ts : List Task} {states : List State} :
    ts.mapM (stateOf (tasksById tasks)) = .ok states ↔
    (∀ t ∈ ts, ∀ id ∈ t.connectedTasks, (edgeTarget? tasks id).isSome) ∧
      states = ts.map (stateWith tasks) := by
  rw [mapM_eq_ok]
  induction ts generalizing states with
  | nil => cases states <;> simp
  | cons t ts ih =>
    cases states with
    | nil => simp
    | cons s states =>
      rw [List.map_cons, List.map_cons, List.cons.injEq, stateOf_eq_ok, ih, List.forall_mem_cons,
        List.map_cons, List.cons.injEq]
      exact and_and_and_comm

/-! ### Compilation -/

theorem firstTask_eq_ok {v : Version} {t : Task} :
    firstTask v = .ok t ↔ v.firstTask.bind v.taskById? = some t := by
  unfold firstTask
  cases h : v.firstTask.bind v.taskById? <;> simp

theorem mapError_eq_ok {α ε ε' : Type} {x : Except ε α} {f : ε → ε'} {a : α} :
    x.mapError f = .ok a ↔ x = .ok a := by
  cases x <;> simp [Except.mapError]

theorem mapError_eq_error {α ε ε' : Type} {x : Except ε α} {f : ε → ε'} {e : ε'} :
    x.mapError f = .error e ↔ ∃ e', x = .error e' ∧ f e' = e := by
  cases x <;> simp [Except.mapError]

/-- The version compiles when it passes every check. -/
theorem compile_eq_ok {v : Version} {m : Machine} : compile v = .ok m ↔ Compiled v m := by
  unfold compile
  cases hd : v.draft with
  -- a draft is refused at once
  | true =>
    have hno : ¬ Compiled v m := by
      intro h
      rw [h.published] at hd
      cases hd
    simp [hno, throw, throwThe, MonadExceptOf.throw, bind, Except.bind]
  | false =>
    simp only [Bool.false_eq_true, if_false, bind_eq_ok, firstTask_eq_ok, states_eq_ok, pure,
      Except.pure, Except.ok.injEq]
    constructor
    · rintro ⟨first, hfirst, ⟨⟩, hvars, ⟨⟩, hpars, index, htasks, states, ⟨hconn, rfl⟩, rfl⟩
      obtain ⟨hok, hnodup, rfl⟩ := index_eq_ok.1 htasks
      exact ⟨hd, checkVariables_eq_ok.1 hvars, checkParameters_eq_ok.1 hpars, hnodup, hok,
        hconn, first, hfirst, rfl⟩
    · rintro ⟨-, hvars, hpars, hnodup, hok, hconn, first, hfirst, rfl⟩
      exact ⟨first, hfirst, (), checkVariables_eq_ok.2 hvars, (), checkParameters_eq_ok.2 hpars, _,
        index_eq_ok.2 ⟨hok, hnodup, rfl⟩, _, ⟨hconn, rfl⟩, rfl⟩

/-! ### The index -/

/-- The index has a name at a position exactly when the state there is of that name. -/
structure Machine.Indexed (m : Machine) : Prop where
  position : ∀ name i, m.index.get? name = some i ↔ ∃ s, m.states[i]? = some s ∧ s.name = name

namespace Machine.Indexed

variable {m : Machine} {name : String} {s : State}

/-- No look-up goes beyond the states. -/
theorem lt_length (h : m.Indexed) {i : Nat} (hi : m.index.get? name = some i) :
    i < m.states.length := by
  obtain ⟨s, hs, -⟩ := (h.position name i).1 hi
  exact (List.getElem?_eq_some_iff.1 hs).1

/-- The state of a name is the one that has it. -/
theorem state?_eq_some (h : m.Indexed) : m.state? name = some s ↔ s ∈ m.states ∧ s.name = name := by
  simp only [Machine.state?, Option.bind_eq_some_iff, h.position]
  constructor
  · rintro ⟨i, ⟨t, ht, hname⟩, hs⟩
    rw [hs] at ht
    cases ht
    exact ⟨List.mem_of_getElem? hs, hname⟩
  · rintro ⟨hs, hname⟩
    obtain ⟨i, hi⟩ := List.mem_iff_getElem?.1 hs
    exact ⟨i, ⟨s, hi, hname⟩, hi⟩

theorem exists_state? (h : m.Indexed) (hname : ∃ s ∈ m.states, s.name = name) :
    ∃ t, m.state? name = some t := by
  obtain ⟨s, hs⟩ := hname
  exact ⟨s, h.state?_eq_some.2 hs⟩

end Machine.Indexed

/-! ### Look-ups in a compiled machine -/

/-- The first edge to a name comes from the first task of that name. -/
theorem find?_foldl_addEdge (x : String) (ts : List Task) (es : List Edge) :
    (ts.foldl addEdge es).find? (·.event = x) =
      (es.find? (·.event = x)).or
        ((ts.find? (·.description = x)).map fun t => .to t.description t.required) := by
  induction ts generalizing es with
  | nil => simp
  | cons t ts ih =>
    rw [List.foldl_cons, ih, List.find?_cons]
    unfold addEdge
    split
    · rename_i hseen
      by_cases hx : t.description = x
      · -- the edge that is there already is the one that is found
        subst hx
        have hfound : (es.find? (·.event = t.description)).isSome := by simpa using hseen
        obtain ⟨e, he⟩ := Option.isSome_iff_exists.1 hfound
        simp [he]
      · simp [hx]
    · rw [List.find?_append]
      by_cases hx : t.description = x <;> simp [hx]

theorem mem_foldl_addEdge {e : Edge} {ts : List Task} {es : List Edge}
    (h : e ∈ ts.foldl addEdge es) :
    e ∈ es ∨ ∃ t ∈ ts, e = .to t.description t.required := by
  induction ts generalizing es with
  | nil => exact .inl h
  | cons t ts ih =>
    rw [List.foldl_cons] at h
    rcases ih h with h | ⟨u, hu, rfl⟩
    · unfold addEdge at h
      split at h
      · exact .inl h
      · rw [List.mem_append, List.mem_singleton] at h
        exact h.imp_right fun h => ⟨t, by simp, h⟩
    · exact .inr ⟨u, by simp [hu], rfl⟩

theorem event_of_mem_edgesTo {e : Edge} {ts : List Task} (h : e ∈ edgesTo ts) :
    e.event = e.target := by
  rcases mem_foldl_addEdge h with hnone | ⟨t, -, rfl⟩
  · cases hnone
  · rfl

theorem edge?_stateWith (tasks : List Task) (t : Task) (x : String) : (stateWith tasks t).edge? x =
    ((successors tasks t).find? (·.description = x)).map fun b => .to b.description b.required := by
  simp [State.edge?, stateWith, edgesTo, find?_foldl_addEdge]

theorem mem_of_edgeTarget? {tasks : List Task} {id : String} {t : Task}
    (h : edgeTarget? tasks id = some t) :
    t ∈ tasks := by
  rw [edgeTarget?_eq] at h
  exact List.mem_reverse.1 (List.mem_of_find?_eq_some h)

theorem mem_of_mem_successors {tasks : List Task} {a b : Task} (h : b ∈ successors tasks a) :
    b ∈ tasks := by
  obtain ⟨id, -, hid⟩ := List.mem_filterMap.1 h
  exact mem_of_edgeTarget? hid

namespace Compiled

variable {v : Version} {m : Machine}

theorem states_eq (h : Compiled v m) : m.states = v.tasks.map (stateWith v.tasks) := by
  obtain ⟨first, -, rfl⟩ := h.machine
  rfl

/-- Two tasks of one name are the same task. -/
theorem task_eq (h : Compiled v m) {a b : Task} (ha : a ∈ v.tasks) (hb : b ∈ v.tasks)
    (hd : a.description = b.description) : a = b :=
  List.inj_on_of_nodup_map h.descriptions ha hb hd

theorem taskByName?_eq_some (h : Compiled v m) {a : Task} {name : String} :
    v.taskByName? name = some a ↔ a ∈ v.tasks ∧ a.description = name := by
  unfold Version.taskByName?
  constructor
  · intro ha
    exact ⟨List.mem_of_find?_eq_some ha, by simpa using List.find?_some ha⟩
  · rintro ⟨ha, rfl⟩
    have hsome : (v.tasks.find? (·.description = a.description)).isSome := by
      rw [List.find?_isSome]
      exact ⟨a, ha, by simp⟩
    obtain ⟨b, hb⟩ := Option.isSome_iff_exists.1 hsome
    rw [hb, h.task_eq (List.mem_of_find?_eq_some hb) ha (by simpa using List.find?_some hb)]

theorem indexed (h : Compiled v m) : m.Indexed := by
  refine ⟨fun name i => ?_⟩
  have hindex : m.index = positions v.tasks := by
    obtain ⟨first, -, rfl⟩ := h.machine
    rfl
  rw [hindex, get?_positions_eq_some h.descriptions, h.states_eq]
  simp only [List.getElem?_map, Option.map_eq_some_iff]
  constructor
  · rintro ⟨t, ht, hname⟩
    exact ⟨stateWith v.tasks t, ⟨t, ht, rfl⟩, hname⟩
  · rintro ⟨-, ⟨t, ht, rfl⟩, hname⟩
    exact ⟨t, ht, hname⟩

/-- The state of a name is that of the task of the name. -/
theorem state?_eq (h : Compiled v m) (name : String) :
    m.state? name = (v.taskByName? name).map (stateWith v.tasks) := by
  ext s
  rw [h.indexed.state?_eq_some, h.states_eq, List.mem_map, Option.map_eq_some_iff]
  constructor
  · rintro ⟨⟨t, ht, rfl⟩, hname⟩
    exact ⟨t, h.taskByName?_eq_some.2 ⟨ht, hname⟩, rfl⟩
  · rintro ⟨t, ht, rfl⟩
    obtain ⟨hmem, hname⟩ := h.taskByName?_eq_some.1 ht
    exact ⟨⟨t, hmem, rfl⟩, hname⟩

theorem state?_task (h : Compiled v m) {t : Task} (ht : t ∈ v.tasks) :
    m.state? t.description = some (stateWith v.tasks t) := by
  rw [h.state?_eq, h.taskByName?_eq_some.2 ⟨ht, rfl⟩]
  rfl

/-- An edge is the one that its target's name asks for. It leads to a task, and requires
    what that task requires. -/
theorem edge_eq (h : Compiled v m) {name : String} {s : State} (hs : m.state? name = some s)
    {e : Edge} (he : e ∈ s.edges) :
    s.edge? e.target = some e ∧
      ∃ t, v.taskByName? e.target = some t ∧ e = .to t.description t.required := by
  rw [h.state?_eq] at hs
  obtain ⟨a, -, rfl⟩ := Option.map_eq_some_iff.1 hs
  have hmade : e ∈ edgesTo (successors v.tasks a) := he
  rcases mem_foldl_addEdge hmade with hnone | ⟨b, hb, rfl⟩
  · cases hnone
  have htask := mem_of_mem_successors hb
  refine ⟨?_, b, h.taskByName?_eq_some.2 ⟨htask, rfl⟩, rfl⟩
  have hfound : ((successors v.tasks a).find? (·.description = b.description)).isSome := by
    rw [List.find?_isSome]
    exact ⟨b, hb, by simp⟩
  obtain ⟨b', hb'⟩ := Option.isSome_iff_exists.1 hfound
  have hname : b'.description = b.description := by simpa using List.find?_some hb'
  obtain rfl := h.task_eq (mem_of_mem_successors (List.mem_of_find?_eq_some hb')) htask hname
  rw [edge?_stateWith, Edge.target_to, hb']
  rfl

/-- What a task requires is declared. -/
theorem declares_required (h : Compiled v m) {t : Task} (ht : t ∈ v.tasks) {id : String}
    (hid : id ∈ t.required) :
    m.declares id := by
  obtain ⟨q, hq, rfl⟩ := List.mem_map.1 hid
  obtain ⟨first, -, rfl⟩ := h.machine
  have hparameters := h.parameters
  simp only [Version.undeclaredParameters, List.flatMap_eq_nil_iff, List.map_eq_nil_iff,
    List.filter_eq_nil_iff] at hparameters
  have hdeclared := hparameters t ht q (List.mem_of_mem_filter hq)
  simp only [Version.variableById?, Option.isNone_iff_eq_none, List.find?_eq_none] at hdeclared
  simp only [Machine.declares, machineOf, List.contains_eq_mem, List.mem_map, decide_eq_true_iff]
  simpa using hdeclared

end Compiled

/-- With declared variables only there is none to report. -/
theorem Machine.undeclared_eq_nil {m : Machine} {ids : List String}
    (h : ∀ id ∈ ids, m.declares id) :
    m.undeclared ids = [] := by
  unfold Machine.undeclared
  induction ids with
  | nil => rfl
  | cons id ids ih =>
    rw [List.forall_mem_cons] at h
    rw [List.foldl_cons, h.1, Bool.true_or, if_pos rfl]
    exact ih h.2

/-! ### Closed machines -/

/-- The machine finds its states by their names, starts in one of them, and every edge leads to one:
    to the one that it is asked for by and makes the current task. -/
structure Machine.Closed (m : Machine) : Prop where
  indexed : m.Indexed
  initial : ∃ s ∈ m.states, s.name = m.initial
  labels : ∀ s ∈ m.states, ∀ e ∈ s.edges, e = .to e.target e.required
  edges : ∀ s ∈ m.states, ∀ e ∈ s.edges, ∃ s' ∈ m.states, s'.name = e.target

/-- An edge comes from a task that is connected, and requires what that task does. -/
theorem Compiled.exists_successor {v : Version} {m : Machine} (h : Compiled v m) {s : State}
    (hs : s ∈ m.states) {e : Edge} (he : e ∈ s.edges) :
    ∃ b ∈ v.tasks, e = .to b.description b.required := by
  rw [h.states_eq, List.mem_map] at hs
  obtain ⟨t, -, rfl⟩ := hs
  rcases mem_foldl_addEdge he with hnone | ⟨b, hb, rfl⟩
  · cases hnone
  · exact ⟨b, mem_of_mem_successors hb, rfl⟩

theorem Compiled.closed {v : Version} {m : Machine} (h : Compiled v m) : m.Closed := by
  have hnamed {t : Task} (ht : t ∈ v.tasks) : ∃ s ∈ m.states, s.name = t.description :=
    ⟨stateWith v.tasks t, by rw [h.states_eq]; exact List.mem_map_of_mem ht, rfl⟩
  refine ⟨h.indexed, ?_, ?_, ?_⟩
  · obtain ⟨first, hfirst, rfl⟩ := h.machine
    obtain ⟨id, -, hid⟩ := Option.bind_eq_some_iff.1 hfirst
    exact hnamed (List.mem_of_find?_eq_some hid)
  · intro s hs e he
    obtain ⟨b, -, rfl⟩ := h.exists_successor hs he
    rfl
  · intro s hs e he
    obtain ⟨b, hb, rfl⟩ := h.exists_successor hs he
    exact hnamed hb

/-! ### A version that compiles -/

/-- A task that leads to the task of booking, twice, and to itself. -/
def welcome (prompt : String) : Task :=
  { id := "t1", description := "welcome", prompt, connectedTasks := ["t2", "t1", "t2"],
    kind := .automated false }

/-- Booking is open when the facts are known. -/
def booking (required : List String) (prompt : String) : Version where
  id := "v1"
  flowId := "booking"
  declarations := required.map fun id => { id, name := id, type := .custom }
  tasks := [welcome prompt, { id := "t2", description := "book", connectedTasks := ["t1"]
                              parameters := required.map (⟨·, true⟩), kind := .automated true }]
  firstTask := some "t1"

theorem compiled_booking (required : List String) (prompt : String) :
    Compiled (booking required prompt) (machineOf (booking required prompt) (welcome prompt)) where
  published := rfl
  declarations := by simp [booking, Variable.problems]
  parameters := by simp [booking, Version.undeclaredParameters, Version.variableById?, welcome]
  descriptions := by simp [booking, welcome]
  tasks := by simp [booking, welcome, Task.problems, TaskKind.routing?]
  connections := by simp [booking, welcome, edgeTarget?_eq]
  machine := ⟨welcome prompt, by simp [booking, welcome, Version.taskById?], rfl⟩

end Dialogue.StateMachine
