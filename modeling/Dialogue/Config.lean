import Dialogue.Memory.Error
import Dialogue.Dict
import Dialogue.Text.Blank

/-! # Configuration

    The engine is configured by variables of its environment. A number may have blanks around it and
    a plus in front; one that cannot be read counts as not given. -/

namespace Dialogue

/-- What the engine is told from outside. -/
structure Config where
  /-- The file of the database. -/
  dbPath : String := "flow_engine.db"
  /-- How long the memory of a conversation is kept after a write, in seconds. -/
  memoryTtlSecs : UInt64 := UInt64.ofNat Memory.defaultTtlSeconds
  /-- How many commands may wait for a conversation. -/
  mailboxSize : UInt64 := 32
  deriving DecidableEq, Repr

namespace Config

/-- A whole number that fits 64 bits. -/
def number? (s : String) : Option UInt64 :=
  let cs := Text.trim s.toList
  let ds := match cs with
    | '+' :: ds => ds
    | ds => ds
  let n := Nat.ofDigitChars 10 ds 0
  if ds ≠ [] ∧ ds.all Char.isDigit ∧ n < UInt64.size then some (UInt64.ofNat n) else none

/-- The number of the variable `key`, or the default. -/
def numberOr (env : Dict String) (key : String) (default : UInt64) : UInt64 :=
  ((env.get? key).bind number?).getD default

/-- The variable of the path of the database. -/
def dbPathKey : String := "FLOW_ENGINE_DB_PATH"
/-- The variable of the time to live of memory. -/
def memoryTtlKey : String := "FLOW_ENGINE_MEMORY_TTL_SECS"
/-- The variable of the size of mailboxes. -/
def mailboxSizeKey : String := "FLOW_ENGINE_MAILBOX_SIZE"

/-- The variables that are looked at. -/
def keys : List String := [dbPathKey, memoryTtlKey, mailboxSizeKey]

/-- The configuration that the environment tells. A mailbox has one place at least. -/
def ofEnvironment (env : Dict String) : Config :=
  let d : Config := {}
  { dbPath := (env.get? dbPathKey).getD d.dbPath
    memoryTtlSecs := numberOr env memoryTtlKey d.memoryTtlSecs
    mailboxSize := max 1 (numberOr env mailboxSizeKey d.mailboxSize) }

/-- How long the memory of a conversation is kept, as a span. -/
def memoryTtl (c : Config) : Int := Memory.ttlOfSeconds c.memoryTtlSecs

end Config
end Dialogue
