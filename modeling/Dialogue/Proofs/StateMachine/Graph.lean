import Dialogue.Proofs.StateMachine.Outline

/-! # The graph of a version

    Much of a version can be edited without touching its graph: what the agent is told and shown,
    how conversations close, how a task is routed, which parameters are asked for but not required,
    and the catalogue of variables. `Version.graph` clears all of it. The structure of a machine is
    that of the graph (`Compiled.shapes_eq`), so versions of one graph compile to machines of one
    structure (`sameStructure_of_graph`), and machines of one structure have one outline
    (`SameStructure.outline_eq`). -/

namespace Dialogue.Flow

/-- The kind by its tag alone. -/
def TaskKind.bare : TaskKind → TaskKind
  | .automated _ => .automated false
  | .assisted _ => .assisted { timeout := 0 }
  | .human _ => .human { timeout := 0 }

/-- The task as a node of the graph: its names, where it leads, and what it requires. -/
def Task.bare (t : Task) : Task :=
  { t with prompt := "", parameters := t.parameters.filter (·.required), tools := none,
           closure := none, kind := t.kind.bare }

/-- The version with everything cleared that is no part of its graph. -/
def Version.graph (v : Version) : Version :=
  { v with globalPrompt := "", channels := [], closure := {}, declarations := [],
           tasks := v.tasks.map Task.bare
           createdBy := none, createdAt := none }

@[simp] theorem TaskKind.tag_bare (k : TaskKind) : k.bare.tag = k.tag := by cases k <;> rfl

@[simp] theorem Task.required_bare (t : Task) : t.bare.required = t.required := by
  simp [Task.required, Task.bare, requiredIds]

end Dialogue.Flow

namespace Dialogue.StateMachine

open Dialogue.Flow

/-! ### Edges -/

theorem edgeTarget?_bare (ts : List Task) (id : String) :
    edgeTarget? (ts.map Task.bare) id = (edgeTarget? ts id).map Task.bare := by
  rw [edgeTarget?_eq, edgeTarget?_eq, ← List.map_reverse, List.find?_map]
  rfl

theorem successors_bare (ts : List Task) (t : Task) :
    successors (ts.map Task.bare) t.bare = (successors ts t).map Task.bare := by
  rw [successors, successors, List.map_filterMap]
  exact congrArg (t.connectedTasks.filterMap ·) (funext (edgeTarget?_bare ts))

theorem addEdge_bare (es : List Edge) (t : Task) : addEdge es t.bare = addEdge es t := by
  simp [addEdge, show t.bare.description = t.description from rfl]

theorem edgesTo_bare (ts : List Task) : edgesTo (ts.map Task.bare) = edgesTo ts := by
  rw [edgesTo, List.foldl_map]
  simp only [addEdge_bare]
  rfl

/-! ### Structure -/

/-- What counts of a state is that of its node in the graph. -/
theorem shape_stateWith (ts : List Task) (t : Task) :
    (stateWith ts t).shape = (stateWith (ts.map Task.bare) t.bare).shape := by
  rw [State.shape, State.shape]
  simp only [stateWith, successors_bare, edgesTo_bare]
  simp [State.name, TaskView.ofTask, Task.bare]

variable {v v₁ v₂ : Version} {m m₁ m₂ : Machine}

/-- The structure of a machine is read off the graph. -/
theorem Compiled.shapes_eq (h : Compiled v m) :
    m.states.map State.shape = v.graph.tasks.map fun t => (stateWith v.graph.tasks t).shape := by
  rw [h.states_eq, List.map_map, Version.graph, List.map_map]
  exact List.map_congr_left fun t _ => shape_stateWith v.tasks t

/-- The first task of the graph has the name that the machine starts in. -/
theorem Compiled.initial_eq (h : Compiled v m) :
    (v.graph.firstTask.bind v.graph.taskById?).map (·.description) = some m.initial := by
  obtain ⟨first, hfirst, rfl⟩ := h.machine
  have hbare (id : String) : v.graph.taskById? id = (v.taskById? id).map Task.bare := by
    rw [Version.taskById?, Version.graph, List.find?_map]
    rfl
  obtain ⟨id, hid, hfound⟩ := Option.bind_eq_some_iff.1 hfirst
  have hfirstId : v.graph.firstTask = some id := hid
  rw [hfirstId, Option.bind_some, hbare, hfound]
  rfl

theorem Compiled.id_eq (h : Compiled v m) : m.id = machineId v.graph.flowId v.graph.id := by
  obtain ⟨first, -, rfl⟩ := h.machine
  rfl

/-- Versions of one graph have machines of one structure. -/
theorem sameStructure_of_graph (h₁ : Compiled v₁ m₁) (h₂ : Compiled v₂ m₂)
    (hgraph : v₁.graph = v₂.graph) :
    SameStructure m₁ m₂ where
  id := by rw [h₁.id_eq, h₂.id_eq, hgraph]
  initial := by
    have hinitial := h₁.initial_eq
    rw [hgraph, h₂.initial_eq] at hinitial
    exact (Option.some.inj hinitial).symm
  states := by rw [h₁.shapes_eq, h₂.shapes_eq, hgraph]
  index := h₁.indexed.index_eq h₂.indexed (by rw [h₁.shapes_eq, h₂.shapes_eq, hgraph])

/-- The lines of a state, from what counts of it. -/
def shapeLines (s : String × String × String × List Edge) : List String :=
  s!"state:{s.1}|{s.2.1}|{s.2.2.1}" :: s.2.2.2.map edgeLine

/-- Machines of one structure have one outline. -/
theorem SameStructure.outline_eq (h : SameStructure m₁ m₂) : m₁.outline = m₂.outline := by
  have hlines (m : Machine) :
      m.states.flatMap State.lines = (m.states.map State.shape).flatMap shapeLines := by
    rw [List.flatMap_map]
    rfl
  rw [Machine.outline, Machine.outline, outline, outline, outlineLines, outlineLines, hlines,
    hlines, h.id, h.initial, h.states]

end Dialogue.StateMachine
