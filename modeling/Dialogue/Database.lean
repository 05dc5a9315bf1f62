import Dialogue.Memory.Bucket
import Dialogue.Memory.Error
import Dialogue.Conversation.Snapshot

/-! # The database

    Four tables: flow versions, snapshots, the expiries of memory namespaces in milliseconds, and
    the facts in memory, one row each. Documents are kept as text. Every operation is one
    transaction: it either succeeds or leaves all tables as they were. -/

namespace Dialogue

open Json Time Memory Conversation Dialogue.Flow

/-- The tables. -/
inductive Table where | versions | snapshots | namespaces | facts
  deriving DecidableEq, Repr

namespace Table

/-- All tables. -/
def all : List Table := [.versions, .snapshots, .namespaces, .facts]

/-- The name in statements. -/
def name : Table → String
  | .versions => "flow_versions"
  | .snapshots => "conversation_snapshots"
  | .namespaces => "memory_namespaces"
  | .facts => "memory_variables"

end Table

/-- Why an operation fails: a statement does, or what is stored is no such document. -/
inductive DbError where
  | statement (reason : String)
  | document (reason : String)
  | corruptSnapshot (error : ResumeError)
  deriving DecidableEq, Repr

/-- The error in words. -/
def DbError.message : DbError → String
  | .statement reason => s!"Database error: {reason}"
  | .document reason => s!"Stored document is not valid JSON: {reason}"
  | .corruptSnapshot e => e.message

/-- The tables, and what has been done to them from outside. -/
structure Database where
  /-- The text of each version, by flow and version. -/
  versions : Dict (Dict String) := .empty
  snapshots : Dict String := .empty
  /-- The expiry of each conversation's memory, in milliseconds. -/
  expiries : Dict Int := .empty
  /-- The text of each fact written by tools, by conversation and variable. -/
  tools : Dict (Dict String) := .empty
  /-- The text of each extracted fact. -/
  extraction : Dict (Dict String) := .empty
  /-- Tables that are gone. -/
  missing : List Table := []
  /-- Tables that refuse new rows, all or those of one variable. -/
  blocked : List (Table × Option String) := []
  deriving DecidableEq

namespace Database

/-! ### Statements -/

/-- Every statement on a table needs the table. -/
def needTable (db : Database) (t : Table) : Except DbError Unit :=
  if db.missing.contains t then .error (.statement s!"no such table: {t.name}") else .ok ()

/-- A row can be put into a table that is there and does not refuse it. -/
def needInsert (db : Database) (t : Table) (variableId : Option String) : Except DbError Unit := do
  db.needTable t
  if db.blocked.any fun b => b.1 = t && (b.2.isNone || b.2 = variableId) then
    throw (.statement s!"insert into {t.name} refused")

/-- The rows of one conversation and one bucket. -/
def rows (db : Database) (source : Source) (conversationId : String) : Dict String :=
  let all := match source with
    | .tools => db.tools
    | .extraction => db.extraction
  (all.get? conversationId).getD .empty

/-- Replaces the rows of one conversation and one bucket. -/
def setRows (db : Database) (source : Source) (conversationId : String) (rows : Dict String) :
    Database :=
  match source with
  | .tools => { db with tools := db.tools.insert conversationId rows }
  | .extraction => { db with extraction := db.extraction.insert conversationId rows }

/-! ### Flow versions -/

/-- Puts a version under its own ids, in place of the one that was there. -/
def putVersion (db : Database) (v : Version) : Except DbError Database := do
  db.needInsert .versions none
  let ofFlow := (db.versions.get? v.flowId).getD .empty
  return { db with versions := db.versions.insert v.flowId (ofFlow.insert v.id (textOf v)) }

/-- The stored text of a version. -/
def versionText? (db : Database) (flowId versionId : String) : Option String :=
  (db.versions.get? flowId).bind (·.get? versionId)

/-- The version with the ids, read from its text. -/
def getVersion (db : Database) (flowId versionId : String) : Except DbError (Option Version) := do
  db.needTable .versions
  match db.versionText? flowId versionId with
  | none => return none
  | some text =>
    match Version.ofText? text with
    | some v => return some v
    | none => throw (.document "the text is no flow version")

/-! ### Snapshots -/

/-- The snapshot of a conversation, read from its text. -/
def getSnapshot (db : Database) (conversationId : String) : Except DbError (Option Snapshot) := do
  db.needTable .snapshots
  match db.snapshots.get? conversationId with
  | none => return none
  | some blob =>
    match Snapshot.ofBlob blob with
    | .ok s => return some s
    | .error e => throw (.corruptSnapshot e)

/-- Stores a snapshot in place of the one that was there. -/
def putSnapshot (db : Database) (conversationId : String) (s : Snapshot) :
    Except DbError Database := do
  db.needInsert .snapshots none
  return { db with snapshots := db.snapshots.insert conversationId s.blob }

/-- Removes the snapshot of a conversation. -/
def deleteSnapshot (db : Database) (conversationId : String) : Except DbError Database := do
  db.needTable .snapshots
  return { db with snapshots := db.snapshots.erase conversationId }

/-! ### Memory -/

/-- Without the facts and the namespace of a conversation. -/
def dropNamespace (db : Database) (conversationId : String) : Except DbError Database := do
  db.needTable .facts
  db.needTable .namespaces
  return { db with
    expiries := db.expiries.erase conversationId
    tools := db.tools.erase conversationId
    extraction := db.extraction.erase conversationId }

/-- Whether a conversation has a namespace that has not expired; an expired one is dropped. -/
def checkLive (db : Database) (conversationId : String) (now : Instant) :
    Except DbError (Database × Bool) := do
  db.needTable .namespaces
  match db.expiries.get? conversationId with
  | none => return (db, false)
  | some expiry =>
    if now.millis < expiry then return (db, true)
    else return (← db.dropNamespace conversationId, false)

/-- The fact that the text of a row tells. -/
def readRow (row : String × String) : Except DbError (String × Fact) :=
  match Fact.ofText? row.2 with
  | some f => .ok (row.1, f)
  | none => .error (.document "the text is no fact")

/-- One bucket of a conversation, read from its rows. -/
def loadBucket (db : Database) (conversationId : String) (source : Source) :
    Except DbError Bucket := do
  db.needTable .facts
  return Dict.ofList (← (db.rows source conversationId).entries.mapM readRow)

/-- Both buckets as one, empty without a live namespace. -/
def getMemory (db : Database) (conversationId : String) (now : Instant) :
    Except DbError (Database × Bucket) := do
  let (db, live) ← db.checkLive conversationId now
  if live then
    let tools ← db.loadBucket conversationId .tools
    let extraction ← db.loadBucket conversationId .extraction
    return (db, merge tools extraction)
  else return (db, .empty)

/-- One bucket, empty without a live namespace. -/
def getBucket (db : Database) (conversationId : String) (source : Source) (now : Instant) :
    Except DbError (Database × Bucket) := do
  let (db, live) ← db.checkLive conversationId now
  if live then return (db, ← db.loadBucket conversationId source) else return (db, .empty)

/-- Puts the row of a fact, if the bucket has the fact. -/
def putRow (source : Source) (conversationId : String) (b : Bucket) (db : Database)
    (variableId : String) :
    Except DbError Database :=
  match b.get? variableId with
  | none => .ok db
  | some f => do
    db.needInsert .facts (some variableId)
    return db.setRows source conversationId
      ((db.rows source conversationId).insert variableId (textOf f))

/-- Writes the updates and moves the expiry. There is no answer where the calendar ends before the
    new expiry, and nothing has been written then. -/
def setMemory (db : Database) (conversationId contactId : String) (us : List Update)
    (writer : Writer) (now : Instant) (ttl : Int) : Except DbError (Option (Database × Nat)) := do
  let (db, _) ← db.checkLive conversationId now
  let b ← db.loadBucket conversationId writer.source
  let b := b.writeAll contactId writer now us
  let db ← (us.map (·.variableId)).foldlM (putRow writer.source conversationId b) db
  match now.add? ttl with
  | none => return none
  | some expiresAt =>
    db.needInsert .namespaces none
    return some ({ db with expiries := db.expiries.insert conversationId expiresAt.millis },
      us.length)

/-- Drops the memory of a conversation, be it live or not. -/
def deleteMemory (db : Database) (conversationId : String) : Except DbError Database :=
  db.dropNamespace conversationId

/-- Drops every namespace that has expired, with its facts. -/
def purge (db : Database) (now : Instant) : Except DbError (Database × Nat) := do
  db.needTable .facts
  db.needTable .namespaces
  let gone := db.expiries.filter fun _ expiry => expiry ≤ now.millis
  return ({ db with
    expiries := db.expiries.filter fun id _ => !gone.contains id
    tools := db.tools.filter fun id _ => !gone.contains id
    extraction := db.extraction.filter fun id _ => !gone.contains id }, gone.size)

/-! ### Beside the library -/

/-- The database opened once more: tables that are gone are there again, empty. -/
def reopen (db : Database) : Database := { db with missing := [] }

/-- Takes a table away with its rows and everything that guards it. -/
def dropTable (db : Database) (t : Table) : Except DbError Database := do
  db.needTable t
  let db := { db with missing := t :: db.missing, blocked := db.blocked.filter fun b => b.1 ≠ t }
  return match t with
    | .versions => { db with versions := .empty }
    | .snapshots => { db with snapshots := .empty }
    | .namespaces => { db with expiries := .empty }
    | .facts => { db with tools := .empty, extraction := .empty }

/-- From now on the table refuses new rows, all or those of one variable. -/
def block (db : Database) (t : Table) (variableId : Option String) : Except DbError Database := do
  db.needTable t
  return { db with blocked := (t, variableId) :: db.blocked }

/-- The table takes rows again. -/
def unblock (db : Database) (t : Table) : Database :=
  { db with blocked := db.blocked.filter fun b => b.1 ≠ t }

/-- Overwrites the text of a version that is there; how many rows that were. -/
def plantVersion (db : Database) (flowId versionId blob : String) :
    Except DbError (Database × Nat) := do
  db.needTable .versions
  match db.versions.get? flowId with
  | some ofFlow =>
    if ofFlow.contains versionId then
      return ({ db with versions := db.versions.insert flowId (ofFlow.insert versionId blob) }, 1)
    else return (db, 0)
  | none => return (db, 0)

/-- Overwrites the text of a snapshot that is there. -/
def plantSnapshot (db : Database) (conversationId blob : String) :
    Except DbError (Database × Nat) := do
  db.needTable .snapshots
  if db.snapshots.contains conversationId then
    return ({ db with snapshots := db.snapshots.insert conversationId blob }, 1)
  else return (db, 0)

/-- Overwrites the text of a fact that is there, in both buckets. -/
def plantFact (db : Database) (conversationId variableId blob : String) :
    Except DbError (Database × Nat) := do
  db.needTable .facts
  let plant (n : Database × Nat) (source : Source) : Database × Nat :=
    let rows := n.1.rows source conversationId
    if rows.contains variableId
      then (n.1.setRows source conversationId (rows.insert variableId blob), n.2 + 1)
    else n
  return [Source.tools, Source.extraction].foldl plant (db, 0)

end Database
end Dialogue
