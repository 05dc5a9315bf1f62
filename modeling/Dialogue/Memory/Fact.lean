import Dialogue.Time.Document
import Dialogue.StateMachine.Guard

/-! # Facts in memory

    A fact is the value of a variable with its provenance: who wrote it, when, and on which contact.
    A fact that nobody has written yet has no time of writing, and guards do not see it. -/

namespace Dialogue.Memory

open Json Time

/-! ### Writers -/

/-- The name that the extraction process writes under. -/
def extractionName : String := "convMiner"

/-- The bucket a fact lives in. -/
inductive Source where
  /-- Written by tools, which win where both buckets have a fact. -/
  | tools
  /-- Written by the extraction process. -/
  | extraction
  deriving DecidableEq, Repr

namespace Source

/-- The name of the bucket. -/
def bucketKey : Source → String
  | .tools => "tools"
  | .extraction => extractionName

/-- The name in documents. -/
def name : Source → String
  | .tools => "tools"
  | .extraction => "extraction"

instance : ToJson Source := ⟨fun s => .string s.name⟩

/-- The source of that name. -/
def ofWritten? : Written → Option Source :=
  Written.choice? [(Source.tools.name, .tools), (Source.extraction.name, .extraction)]

end Source

/-- Who writes facts. -/
inductive Writer where
  | tool (name : String)
  | extraction
  deriving DecidableEq, Repr

namespace Writer

/-- The writer that signs as `name`. -/
def ofName (name : String) : Writer := if name = extractionName then .extraction else .tool name

/-- The name in documents. -/
def name : Writer → String
  | .tool name => name
  | .extraction => extractionName

/-- The bucket that a writer writes to. -/
def source : Writer → Source
  | .tool _ => .tools
  | .extraction => .extraction

end Writer

/-! ### Facts -/

/-- A property of a value with its text, for a language model. -/
structure Description where
  name : String
  value : String
  deriving DecidableEq, Repr

/-- What is known of a variable, and who said so when. -/
structure Fact where
  value : Value := .null
  updatedBy : Option String := none
  updatedAt : Option Instant := none
  contactId : String
  descriptions : Option (List Description) := none
  deriving Repr

/-- A value to be written to a variable. -/
structure Update where
  variableId : String
  value : Value
  descriptions : Option (List Description) := none
  deriving Repr

namespace Fact

/-- A fact nobody has written yet. -/
def empty (contactId : String) : Fact := { contactId }

instance : Inhabited Fact := ⟨empty ""⟩

/-- A fact that is written for the first time. -/
def new (value : Value) (updatedBy contactId : String) (instant : Instant) : Fact :=
  { value, updatedBy := some updatedBy, updatedAt := some instant, contactId }

/-- The value is there and not empty. -/
def hasValue (f : Fact) : Bool := f.value.isPresent

/-- The fact was written last by the one of that name. -/
def isUpdatedBy (f : Fact) (name : String) : Bool := f.updatedBy = some name

/-- Older than so many seconds; a fact nobody has written is not stale. -/
def isStale (f : Fact) (maxAge : UInt64) (now : Instant) : Bool :=
  match f.updatedAt with
  | none => false
  | some t => secondsAtMost maxAge < now.since t

/-- Takes a new value; descriptions stay when none are given. -/
def update (f : Fact) (value : Value) (updatedBy : String)
    (descriptions : Option (List Description)) (now : Instant) : Fact :=
  { f with value, updatedBy := some updatedBy, updatedAt := some now,
           descriptions := descriptions <|> f.descriptions }

end Fact

/-- A value as people read it: a string without quotes, nothing for `null`. -/
def displayValue : Value → String
  | .string s => s
  | .null => ""
  | v => v.text

/-- The text of a fact for a language model: its descriptions, or its value where there are none. -/
def Fact.summary (f : Fact) : String :=
  match f.descriptions with
  | some (d :: ds) => "; ".intercalate ((d :: ds).map fun d => s!"{d.name}: {d.value}")
  | _ => displayValue f.value

/-! ### Documents -/

instance : ToJson Description :=
  ⟨fun d => .object [("name", toJson d.name), ("value", toJson d.value)]⟩

instance : ToJson Fact :=
  ⟨fun f => .object [("value", f.value), ("updatedBy", toJson f.updatedBy),
    ("updatedAt", toJson f.updatedAt),
    ("contactId", toJson f.contactId), ("descriptionForLLM", toJson f.descriptions)]⟩

instance : ToJson Update :=
  ⟨fun u => .object [("varId", toJson u.variableId), ("value", u.value),
    ("descriptionForLLM", toJson u.descriptions)]⟩

/-- The description that a document tells. -/
def Description.ofWritten? (w : Written) : Option Description := do
  let fs ← w.fields? ["name", "value"]
  return ⟨← fs.required "name" Written.string?, ← fs.required "value" Written.string?⟩

/-- A fact that stands inside `outer` arrays and objects. -/
def Fact.ofWritten? (outer : Nat) (w : Written) : Option Fact := do
  let fs ← w.fields? ["value", "updatedBy", "updatedAt", "contactId", "descriptionForLLM"]
  return {
    value := ← fs.withDefault "value" .null (Written.valueWithin? (outer + 1))
    updatedBy := ← fs.optional "updatedBy" Written.string?
    updatedAt := ← fs.optional "updatedAt" Written.instant?
    contactId := ← fs.required "contactId" Written.string?
    descriptions := ← fs.optional "descriptionForLLM" (Written.list? Description.ofWritten?) }

/-- The fact that the text of a row tells. -/
def Fact.ofText? (s : String) : Option Fact := Written.ofText? s >>= Fact.ofWritten? 0

/-- An update that stands inside `outer` arrays and objects. -/
def Update.ofWritten? (outer : Nat) (w : Written) : Option Update := do
  let fs ← w.fields? ["varId", "value", "descriptionForLLM"]
  return {
    variableId := ← fs.required "varId" Written.string?
    value := ← fs.required "value" (Written.valueWithin? (outer + 1))
    descriptions := ← fs.optional "descriptionForLLM" (Written.list? Description.ofWritten?) }

end Dialogue.Memory
