import Dialogue.Config
import Dialogue.Files.Basic
import Dialogue.Simulation

/-! # The command line

    `check` looks for problems in a version and shows its machine, `simulate` tries it out on
    events, `import` puts it into the database, and `purge` drops memory that has expired. A command
    prints its text only where it succeeds. -/

namespace Dialogue.CommandLine

open Json Dialogue.Flow StateMachine Files Simulation

/-! ### Failures -/

/-- Why a command fails. -/
inductive Failure where
  /-- The arguments are those of no command. -/
  | usage
  | problems (path : String) (found : List Problem)
  /-- The text of a file is no such document. -/
  | document
  | file (error : FileError)
  | compile (error : CompileError)
  | database (error : DbError)
  deriving DecidableEq, Repr

/-- The commands there are. -/
def usageLines : List String :=
  ["usage:", "  flow-engine check <version.json>",
    "  flow-engine simulate <version.json> <events.json>",
   "  flow-engine import <version.json>", "  flow-engine purge"]

namespace Failure

/-- What is wrong, in one text. -/
def text : Failure → String
  | .usage => Text.quoted "usage"
  | .problems path found => Text.quoted s!"{found.length} problem(s) in {path}"
  | .document => Text.quoted "the file holds no such document"
  | .file e => e.record
  | .compile e => e.record
  | .database e => Text.quoted e.message

/-- The lines that are printed about it. -/
def lines : Failure → List String
  | .usage => usageLines
  | .problems path found =>
    (found.map fun p => "error: " ++ p.message) ++ ["Error: " ++ (Failure.problems path found).text]
  | f => ["Error: " ++ f.text]

/-- What the process ends with. -/
def exitCode : Failure → UInt32
  | .usage => 2
  | _ => 1

end Failure

/-! ### The machine as text -/

/-- An edge with the variables it requires. -/
def edgeLine (e : Edge) : String :=
  if e.required = [] then s!"  -> {e.target}"
  else s!"  -> {e.target} requires " ++ ", ".intercalate e.required

/-- A state after an empty line, with its edges. -/
def stateLines (s : State) : List String :=
  ["", s!"[{s.task.kind.tag}] {s.name} ({s.task.taskId})"] ++ s.edges.map edgeLine

/-- The machine with all its states. -/
def machineLines (m : Machine) : List String :=
  [s!"machine {m.id}", s!"fingerprint {m.fingerprint}", s!"initial {m.initial}"] ++
    m.states.flatMap stateLines

/-- The lines, each ended by a line break. -/
def unlines (ls : List String) : String := "".intercalate (ls.map (· ++ "\n"))

/-! ### What the commands make of their documents -/

/-- The version that the text of a file tells. -/
def readVersion (text : String) : Except Failure Version :=
  match Version.ofText? text with
  | some v => .ok v
  | none => .error .document

/-- The events of a dry run that the text of a file tells. -/
def readEvents (text : String) : Except Failure (List Event) :=
  match eventsOfText? text with
  | some es => .ok es
  | none => .error .document

/-- The text of the machine of a version without problems. -/
def checked (path : String) (v : Version) : Except Failure String :=
  match v.problems with
  | [] => ((compile v).map fun m => unlines (machineLines m)).mapError .compile
  | found => .error (.problems path found)

/-- The text of a dry run. -/
def simulated (v : Version) (es : List Event) (now : Time.Instant) : Except Failure String :=
  ((simulate v es now).map fun r => unlines (reportLines r.1 r.2)).mapError .compile

/-- Drafts may be imported as they are, other versions have to compile. -/
def importable (v : Version) : Except Failure Unit :=
  if v.draft then .ok () else ((compile v).map fun _ => ()).mapError .compile

/-- How many namespaces a purge has dropped. -/
def purgedText (n : Nat) : String := unlines [textOf (Value.object [("purged", toJson n)])]

/-! ### Commands -/

variable {m : Type → Type} [Monad m] [FileAccess m]

open MonadExcept (ofExcept)

/-- What fails with a file fails the command. -/
def orFile {α : Type} (r : m (Except FileError α)) : ExceptT Failure m α :=
  ExceptT.mk ((·.mapError .file) <$> r)

/-- What fails with the database fails the command. -/
def orDatabase {α : Type} (r : m (Except DbError α)) : ExceptT Failure m α :=
  ExceptT.mk ((·.mapError .database) <$> r)

/-- The version in a file. -/
def loadVersion (path : String) : ExceptT Failure m Version := do
  ofExcept (readVersion (← orFile (FileAccess.readText path)))

/-- Tells what is wrong with the version in a file, or else its machine. -/
def check (path : String) : ExceptT Failure m String := do
  ofExcept (checked path (← loadVersion path))

/-- Takes the events in one file to the version in another. -/
def simulateFile (path eventsPath : String) (now : Time.Instant) : ExceptT Failure m String := do
  let v ← loadVersion path
  let es ← ofExcept (readEvents (← orFile (FileAccess.readText eventsPath)))
  ofExcept (simulated v es now)

/-- Where the database of the configuration is. -/
def locate (config : Config) : ExceptT Failure m Location :=
  ofExcept ((Location.ofName config.dbPath).mapError .database)

/-- Puts the version in a file into the database, which gets its folder first. -/
def importFile (config : Config) (path : String) : ExceptT Failure m String := do
  let v ← loadVersion path
  ofExcept (importable v)
  if let some folder := parentFolder? config.dbPath then orFile (FileAccess.makeFolders folder)
  let location ← locate config
  orDatabase (FileAccess.useDatabase location fun db => return ("", .becomes (← db.putVersion v)))

/-- Drops the memory in the database that has expired. Without any, the file stays as it is. -/
def purge (config : Config) (now : Time.Instant) : ExceptT Failure m String := do
  let location ← locate config
  orDatabase (FileAccess.useDatabase location fun db => do
    let (db, n) ← db.purge now
    return (purgedText n, if n = 0 then .keeps else .becomes db))

/-- Runs the command of the arguments; what it prints, or how it fails. -/
def run (config : Config) (now : Time.Instant) : List String → m (Except Failure String)
  | ["check", path] => (check path).run
  | ["simulate", path, eventsPath] => (simulateFile path eventsPath now).run
  | ["import", path] => (importFile config path).run
  | ["purge"] => (purge config now).run
  | _ => pure (.error .usage)

end Dialogue.CommandLine
