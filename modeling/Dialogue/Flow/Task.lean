import Dialogue.Flow.Problem
import Dialogue.Flow.Closing

/-! # Tasks

    A task is a node of the authored graph: it names the tasks that can follow it and the variables
    that must be known before it is entered. Its kind says who handles it; the members of the kind
    stand among the members of the task itself. -/

namespace Dialogue.Flow

open Json

/-- A variable that entering the task depends on, if it is required. -/
structure TransitionParameter where
  variableId : String
  required : Bool := false
  deriving DecidableEq, Repr

/-- How a task reaches the queue of its human operators. -/
structure RoutingParameters where
  /-- Seconds to wait for an operator. -/
  timeout : UInt32
  agentSkills : List String := []
  deriving DecidableEq, Repr

/-- Tools of one server that the agent may use while the task is current. -/
structure ToolSelection where
  server : String
  tools : List String := []
  deriving DecidableEq, Repr

/-- Who handles a task. -/
inductive TaskKind where
  /-- Handled by the machine alone. -/
  | automated (hideTranscription : Bool)
  /-- Assisted by the machine and routed to an operator. -/
  | assisted (routing : RoutingParameters)
  /-- Routed to an operator. -/
  | human (routing : RoutingParameters)
  deriving DecidableEq, Repr

/-- A task as its author writes it. -/
structure Task where
  id : String
  /-- The name of the task to the outside, and of its state. -/
  description : String
  prompt : String := ""
  connectedTasks : List String := []
  parameters : List TransitionParameter := []
  tools : Option (List ToolSelection) := none
  closure : Option ClosureConfig := none
  kind : TaskKind
  deriving DecidableEq, Repr

/-! ### Kinds -/

namespace TaskKind

/-- The tag in documents. -/
def tag : TaskKind → String
  | .automated _ => "AIO"
  | .assisted _ => "AIS"
  | .human _ => "HUM"

/-- How the task is routed, if it is. -/
def routing? : TaskKind → Option RoutingParameters
  | .automated _ => none
  | .assisted r | .human r => some r

/-- Whether the transcription is hidden, where the machine is alone. -/
def hideTranscription? : TaskKind → Option Bool
  | .automated hide => some hide
  | .assisted _ | .human _ => none

end TaskKind

/-! ### Requirements -/

/-- The ids of the required parameters, as declared. -/
def requiredIds (ps : List TransitionParameter) : List String :=
  (ps.filter (·.required)).map (·.variableId)

/-- The required ids that are not available, as declared. -/
def missingIds (ps : List TransitionParameter) (available : List String) : List String :=
  (ps.filter fun p => p.required && !available.contains p.variableId).map (·.variableId)

/-- Passes, or names all the required ids that are not available. -/
def checkAvailable (ps : List TransitionParameter) (available : List String) :
    Except (List String) Unit :=
  if missingIds ps available = [] then .ok () else .error (missingIds ps available)

/-- The variables that must be known before the task is entered. -/
def Task.required (t : Task) : List String := requiredIds t.parameters

/-- What is wrong with the task by itself: a queue needs a time to wait. -/
def Task.problems (t : Task) : List Problem :=
  match t.kind.routing? with
  | some r => if r.timeout = 0 then [.noTimeout t.id] else []
  | none => []

/-! ### Documents -/

instance : ToJson TransitionParameter :=
  ⟨fun p => .object [("variableId", toJson p.variableId), ("required", toJson p.required)]⟩

instance : ToJson RoutingParameters :=
  ⟨fun r => .object [("timeout", toJson r.timeout), ("agentSkills", toJson r.agentSkills)]⟩

instance : ToJson ToolSelection :=
  ⟨fun s => .object [("mcpServerName", toJson s.server), ("selectedTools", toJson s.tools)]⟩

/-- The members of the kind, its tag first. -/
def TaskKind.members (k : TaskKind) : List (String × Value) :=
  ("type", toJson k.tag) :: match k with
    | .automated hide => [("hideTranscriptionToHuman", toJson hide)]
    | .assisted r | .human r => [("routingParameters", toJson r)]

instance : ToJson TaskKind := ⟨fun k => .object k.members⟩

instance : ToJson Task :=
  ⟨fun t => .object
    ([("_id", toJson t.id), ("description", toJson t.description), ("prompt", toJson t.prompt),
      ("connectedTasks", toJson t.connectedTasks), ("transitionParameters", toJson t.parameters)]
    ++ memberIfSome "mcpToolSelection" t.tools ++ memberIfSome "closureConfig" t.closure ++
      t.kind.members)⟩

/-- The parameter that a document tells. -/
def TransitionParameter.ofWritten? (w : Written) : Option TransitionParameter := do
  let fs ← w.fields? ["variableId", "required"]
  return {
    variableId := ← fs.required "variableId" Written.string?
    required := ← fs.withDefault "required" false Written.bool? }

/-- The routing that a document tells. -/
def RoutingParameters.ofWritten? (w : Written) : Option RoutingParameters := do
  let fs ← w.fields? ["timeout", "agentSkills"]
  return {
    timeout := ← fs.required "timeout" Written.uint32?
    agentSkills := ← fs.withDefault "agentSkills" [] (Written.list? Written.string?) }

/-- The selection that a document tells. -/
def ToolSelection.ofWritten? (w : Written) : Option ToolSelection := do
  let fs ← w.fields? ["mcpServerName", "selectedTools"]
  return {
    server := ← fs.required "mcpServerName" Written.string?
    tools := ← fs.withDefault "selectedTools" [] (Written.list? Written.string?) }

namespace TaskKind

/-- The tags of the kinds, in order. -/
def tags : List String := ["AIO", "AIS", "HUM"]

/-- The kind of a tag, from the record of its members. -/
def ofTag? (tag : String) (w : Written) : Option TaskKind :=
  if tag = "AIO" then do
    let fs ← w.fields? ["hideTranscriptionToHuman"]
    return .automated (← fs.withDefault "hideTranscriptionToHuman" false Written.bool?)
  else if tag = "AIS" ∨ tag = "HUM" then do
    let fs ← w.fields? ["routingParameters"]
    let r ← fs.required "routingParameters" RoutingParameters.ofWritten?
    return if tag = "AIS" then .assisted r else .human r
  else none

/-- The kind that a document tells. -/
def ofWritten? (w : Written) : Option TaskKind := do
  let (tag, rest) ← w.tagged? "type" 0
  ofTag? (← tag.string?) rest

/-- A tag that stands among the members of a task may also be the number of its kind. -/
def tagAmong? : Written → Option String
  | .number (some (.int n)) => if 0 ≤ n then tags[n.toNat]? else none
  | w => w.string?

/-- The kind from the members that a record inside `outer` arrays and objects has beside its own. -/
def among? (outer : Nat) (ms : List (String × Written)) : Option TaskKind := do
  let (tag, rest) ← splitTag "type" (outer + 1) ms
  ofTag? (← tagAmong? tag) (.object (rest.map fun m => (some m.1, m.2)))

end TaskKind

/-- The known fields of an object and the kind that its other members make. -/
def withKind? (known : List String) (outer : Nat) (w : Written) : Option (Fields × TaskKind) := do
  let ms ← w.members?
  let fs ← Fields.pick? known ms
  let kind ← TaskKind.among? outer (ms.filter fun m => !known.contains m.1)
  return (fs, kind)

namespace Task

/-- The task's own members, in order. -/
def keys : List String :=
  ["_id", "description", "prompt", "connectedTasks", "transitionParameters", "mcpToolSelection",
    "closureConfig"]

/-- A task that stands inside `outer` arrays and objects. -/
def ofWritten? (outer : Nat) (w : Written) : Option Task := do
  let (fs, kind) ← withKind? keys outer w
  return {
    id := ← fs.required "_id" Written.string?
    description := ← fs.required "description" Written.string?
    prompt := ← fs.withDefault "prompt" "" Written.string?
    connectedTasks := ← fs.withDefault "connectedTasks" [] (Written.list? Written.string?)
    parameters :=
      ← fs.withDefault "transitionParameters" [] (Written.list? TransitionParameter.ofWritten?)
    tools := ← fs.optional "mcpToolSelection" (Written.list? ToolSelection.ofWritten?)
    closure := ← fs.optional "closureConfig" ClosureConfig.ofWritten?
    kind }

end Task
end Dialogue.Flow
