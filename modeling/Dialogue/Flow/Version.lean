import Dialogue.Flow.Task
import Dialogue.Flow.Variable
import Dialogue.Time.Document

/-! # Flow versions

    One authored version of a conversational flow: its tasks, its variables and how its
    conversations close. Drafts exist for authoring only and are not checked. -/

namespace Dialogue.Flow

open Json Time

/-- The channel a contact arrives on. -/
inductive Channel where | phone | whatsapp | sms | mail | chat
  deriving DecidableEq, Repr

namespace Channel

/-- All channels. -/
def all : List Channel := [.phone, .whatsapp, .sms, .mail, .chat]

/-- The name in documents. -/
def name : Channel → String
  | .phone => "phone"
  | .whatsapp => "whatsapp"
  | .sms => "sms"
  | .mail => "mail"
  | .chat => "chat"

instance : ToJson Channel := ⟨fun c => .string c.name⟩

/-- The channel of that name. -/
def ofWritten? : Written → Option Channel := Written.choice? (all.map fun c => (c.name, c))

end Channel

/-- An authored version of a flow. -/
structure Version where
  id : String
  flowId : String
  draft : Bool := false
  globalPrompt : String := ""
  channels : List Channel := []
  closure : ClosureConfig := {}
  declarations : List Variable := []
  tasks : List Task := []
  firstTask : Option String := none
  createdBy : Option String := none
  createdAt : Option Timestamp := none
  deriving DecidableEq, Repr

namespace Version

/-! ### Look-ups -/

/-- The first task with the id. -/
def taskById? (v : Version) (id : String) : Option Task := v.tasks.find? (·.id = id)

/-- The first task with the description. -/
def taskByName? (v : Version) (description : String) : Option Task :=
  v.tasks.find? (·.description = description)

/-- The first variable with the id. -/
def variableById? (v : Version) (id : String) : Option Variable := v.declarations.find? (·.id = id)

/-- The tasks one step from the task `id`, as declared; ids of no task are skipped. -/
def connectedTasks (v : Version) (id : String) : List Task :=
  ((v.taskById? id).map fun t => t.connectedTasks.filterMap v.taskById?).getD []

/-- The parameters that name no declared variable, each with the id of its task. -/
def undeclaredParameters (v : Version) : List (String × String) :=
  v.tasks.flatMap fun t =>
    (t.parameters.filter fun p => (v.variableById? p.variableId).isNone).map fun p =>
      (t.id, p.variableId)

/-! ### Problems -/

/-- A version that is no draft needs a first task, and it has to be there. -/
def firstTaskProblems (v : Version) : List Problem :=
  match v.firstTask with
  | none => [.noFirstTask]
  | some id => if (v.taskById? id).isNone then [.unknownFirstTask id] else []

/-- Problems of the variables that follow those with the ids `seen`. -/
def variableProblems (seen : List String) : List Variable → List Problem
  | [] => []
  | x :: xs =>
    (if seen.contains x.id then [.repeatedVariable x.id] else []) ++ x.problems
      ++ variableProblems (x.id :: seen) xs

/-- Problems of the tasks that follow those with the descriptions `seen`. -/
def taskProblems (ids : List String) (seen : List String) : List Task → List Problem
  | [] => []
  | t :: ts =>
    (if seen.contains t.description then [.repeatedDescription t.id t.description] else [])
      ++ ((t.connectedTasks.filter fun id => !ids.contains id).map fun id =>
        .unknownConnection t.id id)
      ++ t.problems ++ taskProblems ids (t.description :: seen) ts

/-- Everything that is wrong with a version that is no draft. -/
def problems (v : Version) : List Problem :=
  if v.draft then []
  else v.firstTaskProblems ++ variableProblems [] v.declarations
    ++ (v.undeclaredParameters.map fun p => .undeclaredVariable p.1 p.2)
    ++ taskProblems (v.tasks.map (·.id)) [] v.tasks

/-! ### Documents -/

instance : ToJson Version :=
  ⟨fun v => .object [("_id", toJson v.id), ("conversationalFlowId", toJson v.flowId),
    ("draft", toJson v.draft),
    ("globalPrompt", toJson v.globalPrompt), ("channels", toJson v.channels),
    ("closureConfig", toJson v.closure),
    ("variables", toJson v.declarations), ("tasks", toJson v.tasks),
    ("firstTask", toJson v.firstTask),
    ("createdBy", toJson v.createdBy), ("createdAt", toJson v.createdAt)]⟩

/-- The members of the document, in order. -/
def keys : List String :=
  ["_id", "conversationalFlowId", "draft", "globalPrompt", "channels", "closureConfig", "variables",
    "tasks",
   "firstTask", "createdBy", "createdAt"]

/-- The version that a document tells. -/
def ofWritten? (w : Written) : Option Version := do
  let fs ← w.fields? keys
  return {
    id := ← fs.required "_id" Written.string?
    flowId := ← fs.required "conversationalFlowId" Written.string?
    draft := ← fs.withDefault "draft" false Written.bool?
    globalPrompt := ← fs.withDefault "globalPrompt" "" Written.string?
    channels := ← fs.withDefault "channels" [] (Written.list? Channel.ofWritten?)
    closure := ← fs.withDefault "closureConfig" {} ClosureConfig.ofWritten?
    declarations := ← fs.withDefault "variables" [] (Written.list? Variable.ofWritten?)
    tasks := ← fs.withDefault "tasks" [] (Written.list? (Task.ofWritten? 2))
    firstTask := ← fs.optional "firstTask" Written.string?
    createdBy := ← fs.optional "createdBy" Written.string?
    createdAt := ← fs.optional "createdAt" Written.timestamp? }

/-- The version that a text tells. -/
def ofText? (s : String) : Option Version := Written.ofText? s >>= ofWritten?

end Version
end Dialogue.Flow
