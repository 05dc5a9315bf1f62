import Dialogue.StateMachine.Basic
import Dialogue.Text.Digest

/-! # Fingerprints

    The fingerprint of a machine is the SHA-256 digest of its outline: a line for the machine, one
    for its initial state, one for each state and one for each edge. Prompts and other
    presentation are left out. -/

namespace Dialogue.StateMachine

/-- A state with its edges, each on a line of its own. -/
def State.lines (s : State) : List String :=
  s!"state:{s.task.name}|{s.task.taskId}|{s.task.kind.tag}"
    :: s.edges.map fun e => s!"edge:{e.target}|" ++ ",".intercalate e.required

/-- All that makes up the structure of a machine. -/
def outlineLines (id initial : String) (states : List State) : List String :=
  s!"machine:{id}" :: s!"initial:{initial}" :: states.flatMap State.lines

/-- The lines, each ended by a line break. -/
def outline (id initial : String) (states : List State) : String :=
  "".intercalate ((outlineLines id initial states).map (· ++ "\n"))

/-- The digest of the outline. -/
def fingerprint (id initial : String) (states : List State) : String :=
  Text.sha256 (outline id initial states)

end Dialogue.StateMachine
