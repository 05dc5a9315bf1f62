import Dialogue.StateMachine.Fingerprint
import Dialogue.Text.Quoted

/-! # From versions to machines

    A version that is no draft is compiled after its first task, its variables and its parameters
    have been checked; then the tasks are entered in the index one after the other, where no
    description may be repeated and every task must be in order; and then the states are made, where
    every edge must lead to a task. The first fault found is the error. -/

namespace Dialogue.StateMachine

open Dialogue.Flow

/-- Why a version has no machine. -/
inductive CompileError where
  | draft (versionId : String)
  | firstTaskNotFound (firstTask : Option String)
  | danglingEdge (sourceId targetId : String)
  | duplicateDescription (description firstId secondId : String)
  | invalidTask (taskId : String) (problem : Problem)
  | invalidVariable (variableId : String) (problem : Problem)
  | undeclaredVariable (taskId variableId : String)
  deriving DecidableEq, Repr

/-- The error in words. -/
def CompileError.message : CompileError → String
  | .draft id => s!"Cannot compile FSM from draft ConversationalFlowVersion '{id}'"
  | .firstTaskNotFound first =>
    "First task not found in tasks list (firstTask: " ++ Text.quotedOption first ++ ")"
  | .danglingEdge source target =>
    s!"Target task with ID {target} not found (connected from task {source})"
  | .duplicateDescription description first second =>
    s!"Task description '{description}' is shared by tasks {first} and {second}"
  | .invalidTask id problem => s!"Invalid task {id}: {problem.message}"
  | .invalidVariable id problem => s!"Invalid variable {id}: {problem.message}"
  | .undeclaredVariable task variableId =>
    s!"Task {task} references undeclared variable {variableId}"

namespace CompileError

/-- The name of the kind of error. -/
def name : CompileError → String
  | .draft _ => "Draft"
  | .firstTaskNotFound _ => "FirstTaskNotFound"
  | .danglingEdge .. => "DanglingEdge"
  | .duplicateDescription .. => "DuplicateDescription"
  | .invalidTask .. => "InvalidTask"
  | .invalidVariable .. => "InvalidVariable"
  | .undeclaredVariable .. => "UndeclaredVariable"

/-- What the error is about, by field. -/
def details : CompileError → List (String × String)
  | .draft id => [("version_id", Text.quoted id)]
  | .firstTaskNotFound first => [("first_task", Text.quotedOption first)]
  | .danglingEdge source target =>
    [("source_id", Text.quoted source), ("target_id", Text.quoted target)]
  | .duplicateDescription description first second =>
    [("description", Text.quoted description), ("first_id", Text.quoted first),
      ("second_id", Text.quoted second)]
  | .invalidTask id problem =>
    [("task_id", Text.quoted id), ("message", Text.quoted problem.message)]
  | .invalidVariable id problem =>
    [("variable_id", Text.quoted id), ("message", Text.quoted problem.message)]
  | .undeclaredVariable task variableId =>
    [("task_id", Text.quoted task), ("variable_id", Text.quoted variableId)]

/-- The error as a record. -/
def record (e : CompileError) : String := Text.record e.name e.details

end CompileError

/-! ### Checks -/

/-- The first task of a version. -/
def firstTask (v : Version) : Except CompileError Task :=
  match v.firstTask.bind v.taskById? with
  | some t => .ok t
  | none => .error (.firstTaskNotFound v.firstTask)

/-- The first problem of the first variable that has one. -/
def checkVariables : List Variable → Except CompileError Unit
  | [] => .ok ()
  | x :: xs =>
    match x.problems with
    | p :: _ => .error (.invalidVariable x.id p)
    | [] => checkVariables xs

/-- The first parameter of an undeclared variable. -/
def checkParameters (v : Version) : Except CompileError Unit :=
  match v.undeclaredParameters with
  | (task, variableId) :: _ => .error (.undeclaredVariable task variableId)
  | [] => .ok ()

/-! ### The index -/

/-- Enters the rest of the tasks in the index of those before it, each at its position: the first of
    the rest stands at the position `next` of all the tasks. -/
def indexTasks (tasks : List Task) (index : Dict Nat) (next : Nat) :
    List Task → Except CompileError (Dict Nat)
  | [] => .ok index
  | t :: ts =>
    match (index.get? t.description).bind (tasks[·]?) with
    | some first => .error (.duplicateDescription t.description first.id t.id)
    | none =>
      match t.problems with
      | p :: _ => .error (.invalidTask t.id p)
      | [] => indexTasks tasks (index.insert t.description next) (next + 1) ts

/-! ### States -/

/-- The tasks by their ids; of those that share an id, the last one declared. -/
def tasksById (tasks : List Task) : Dict Task := .ofList (tasks.map fun t => (t.id, t))

/-- Adds an edge to the task, unless there is one for an event of its name. -/
def addEdge (edges : List Edge) (t : Task) : List Edge :=
  if edges.any (·.event = t.description) then edges else edges ++ [.to t.description t.required]

/-- Follows the connections of the task `source` with the ids, after the edges found so far. -/
def followEdges (byId : Dict Task) (source : String) (edges : List Edge) :
    List String → Except CompileError (List Edge)
  | [] => .ok edges
  | id :: ids =>
    match byId.get? id with
    | none => .error (.danglingEdge source id)
    | some t => followEdges byId source (addEdge edges t) ids

/-- The state of a task, with an edge for each of its connections. -/
def stateOf (byId : Dict Task) (t : Task) : Except CompileError State := do
  return ⟨.ofTask t, ← followEdges byId t.id [] t.connectedTasks⟩

/-- The key under which a machine is known. -/
def machineId (flowId versionId : String) : String := s!"flow_{flowId}_v_{versionId}"

/-- The machine of a version. -/
def compile (v : Version) : Except CompileError Machine := do
  if v.draft then throw (.draft v.id)
  let first ← firstTask v
  checkVariables v.declarations
  checkParameters v
  let index ← indexTasks v.tasks .empty 0 v.tasks
  let states ← v.tasks.mapM (stateOf (tasksById v.tasks))
  let id := machineId v.flowId v.id
  return {
    id, flowId := v.flowId, versionId := v.id, initial := first.description, globalPrompt :=
      v.globalPrompt,
    closure := v.closure, fingerprint := fingerprint id first.description states,
    declared := v.declarations.map (·.id), states, index }

end Dialogue.StateMachine
