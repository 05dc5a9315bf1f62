import Dialogue.Memory.Fact

/-! # Buckets and their merged view

    A bucket holds the facts of one source by variable id. Readers see both buckets as one: where
    both have a fact, that of the tools counts, even when its value is empty. -/

namespace Dialogue.Memory

open Json Time

/-- Facts by variable. -/
abbrev Bucket := Dict Fact

/-- Both buckets as one. -/
def merge (tools extraction : Bucket) : Bucket := extraction.overlay tools

/-- Writes one update, with its provenance. -/
def Bucket.write (b : Bucket) (contactId : String) (writer : Writer) (now : Instant) (u : Update) :
    Bucket :=
  let old := (b.get? u.variableId).getD (.empty contactId)
  b.insert u.variableId ({ old with contactId }.update u.value writer.name u.descriptions now)

/-- Writes the updates one after the other; facts they do not mention are kept. -/
def Bucket.writeAll (b : Bucket) (contactId : String) (writer : Writer) (now : Instant)
    (us : List Update) : Bucket :=
  us.foldl (fun b u => b.write contactId writer now u) b

/-! ### What guards see -/

/-- Facts that nobody has written are absent. -/
def Bucket.facts (b : Bucket) : StateMachine.Facts := fun id =>
  (b.get? id).bind fun f => if f.updatedAt.isSome then some f.value else none

/-- Plain values by variable id. -/
def valueFacts (d : Dict Value) : StateMachine.Facts := d.get?

/-! ### The table for prompts -/

/-- A row of the table of facts. -/
def tableRow (variableId property value : String) : String :=
  s!"|{variableId}|{property}|{value}|\n"

/-- A row for each description of the fact, or one for its value where there are none. -/
def Fact.rows (variableId : String) (f : Fact) : List String :=
  match f.descriptions with
  | some (d :: ds) => (d :: ds).map fun d => tableRow variableId d.name d.value
  | _ => [tableRow variableId "" (displayValue f.value)]

/-- The head of the table of facts. -/
def tableHead : String := "|var|property|value|\n|-|-|-|\n"

/-- The facts with a value, in ascending order of their variables. -/
def table (b : Bucket) : String :=
  tableHead ++ "".intercalate ((b.entries.filter fun e => e.2.hasValue).flatMap fun e =>
    e.2.rows e.1)

end Dialogue.Memory
