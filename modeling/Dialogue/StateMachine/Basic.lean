import Dialogue.Flow.Version
import Dialogue.StateMachine.Guard

/-! # Machines

    The executable form of a flow version: one state for each task, in the order of declaration,
    with an edge for each task that can follow. A state is named by the description of its task, and
    found by its name through an index of positions; an edge is asked for by its event and carries
    the facts that it requires. -/

namespace Dialogue.StateMachine

open Json Dialogue.Flow

/-- What the agent sees of a task while it is current. -/
structure TaskView where
  taskId : String
  name : String
  prompt : String
  tools : Option (List ToolSelection) := none
  closure : Option ClosureConfig := none
  kind : TaskKind
  deriving DecidableEq, Repr

/-- What is shown of a task. -/
def TaskView.ofTask (t : Task) : TaskView :=
  { taskId := t.id, name := t.description, prompt := t.prompt, tools := t.tools
    closure := t.closure, kind := t.kind }

/-- A way out of a state, with its guard and its effect. -/
structure Edge where
  /-- What the edge is asked for by. -/
  event : String
  /-- The name of the state that it leads to. -/
  target : String
  /-- The variables that have to be known. -/
  required : List String
  /-- The name that becomes that of the current task. -/
  taskName : String
  deriving DecidableEq, Repr

/-- The edge to the state `name`: it is asked for by the name, and makes it the current task. -/
def Edge.to (name : String) (required : List String) : Edge :=
  { event := name, target := name, required, taskName := name }

section

variable (name : String) (required : List String)

@[simp] theorem Edge.event_to : (Edge.to name required).event = name := rfl

@[simp] theorem Edge.target_to : (Edge.to name required).target = name := rfl

@[simp] theorem Edge.required_to : (Edge.to name required).required = required := rfl

@[simp] theorem Edge.taskName_to : (Edge.to name required).taskName = name := rfl

end

/-- One task as a state, with the edges to the tasks that can follow. -/
structure State where
  task : TaskView
  edges : List Edge
  deriving DecidableEq, Repr

/-- The name of its task. -/
def State.name (s : State) : String := s.task.name

/-- The edge that the event asks for. -/
def State.edge? (s : State) (event : String) : Option Edge := s.edges.find? (·.event = event)

/-- A compiled flow version. -/
structure Machine where
  id : String
  flowId : String
  versionId : String
  /-- The name of the state that conversations start in. -/
  initial : String
  globalPrompt : String
  closure : ClosureConfig
  /-- The digest of the structure; a snapshot is only good for machines with the same one. -/
  fingerprint : String
  /-- The ids of the declared variables. -/
  declared : List String
  /-- In the order of declaration. -/
  states : List State
  /-- The position of each state by its name. -/
  index : Dict Nat
  deriving DecidableEq, Repr

namespace Machine

/-- The state at the position that the index has for the name. -/
def state? (m : Machine) (name : String) : Option State := (m.index.get? name).bind (m.states[·]?)

/-- The version has declared the variable. -/
def declares (m : Machine) (variableId : String) : Bool := m.declared.contains variableId

/-- The ids that are not declared, in the order of their first occurrence, each once. -/
def undeclared (m : Machine) (ids : List String) : List String :=
  ids.foldl (fun found id => if m.declares id || found.contains id then found else found ++ [id]) []

/-- The closure in force while the state `name` is current: that of its task, else that
    of the version. -/
def closureIn (m : Machine) (name : String) : ClosureConfig :=
  ((m.state? name).bind (·.task.closure)).getD m.closure

/-- The declared variables in ascending order, each once. -/
def variableIds (m : Machine) : List String :=
  (Dict.ofList (m.declared.map fun id => (id, ()))).keys

end Machine

/-! ### Documents -/

instance : ToJson TaskView :=
  ⟨fun t => .object
    ([("taskId", toJson t.taskId), ("taskName", toJson t.name), ("prompt", toJson t.prompt)]
    ++ memberIfSome "mcpToolSelection" t.tools ++ memberIfSome "closureConfig" t.closure ++
      t.kind.members)⟩

/-- The members of the document besides those of the kind. -/
def TaskView.keys : List String :=
  ["taskId", "taskName", "prompt", "mcpToolSelection", "closureConfig"]

/-- A view that stands inside `outer` arrays and objects. -/
def TaskView.ofWritten? (outer : Nat) (w : Written) : Option TaskView := do
  let (fs, kind) ← withKind? keys outer w
  return {
    taskId := ← fs.required "taskId" Written.string?
    name := ← fs.required "taskName" Written.string?
    prompt := ← fs.required "prompt" Written.string?
    tools := ← fs.optional "mcpToolSelection" (Written.list? ToolSelection.ofWritten?)
    closure := ← fs.optional "closureConfig" ClosureConfig.ofWritten?
    kind }

end Dialogue.StateMachine
