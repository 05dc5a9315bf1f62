import Dialogue.Database
import Dialogue.Memory.Store
import Dialogue.Live.Error

/-! # What the manager works with

    The manager reads flow versions, keeps snapshots and uses the memory of conversations. All three
    are either kept in the process or in one database. Each of the operations may be made to fail,
    and is logged when it is tried. -/

namespace Dialogue.Live

open Time Dialogue.Flow Conversation Memory

/-- What the stores can be asked. -/
inductive Operation where
  | getSnapshot | putSnapshot | deleteSnapshot | getMemory | setMemory | deleteMemory | getVersion
  deriving DecidableEq, Repr

namespace Operation

/-- All operations. -/
def all : List Operation :=
  [.getSnapshot, .putSnapshot, .deleteSnapshot, .getMemory, .setMemory, .deleteMemory, .getVersion]

/-- The name under which an operation is made to fail. -/
def name : Operation → String
  | .getSnapshot => "get_snapshot"
  | .putSnapshot => "put_snapshot"
  | .deleteSnapshot => "delete_snapshot"
  | .getMemory => "get_memory"
  | .setMemory => "set_memory"
  | .deleteMemory => "delete_memory"
  | .getVersion => "get_version"

end Operation

/-- Where versions, snapshots and memory are kept. -/
inductive Backend where
  /-- Versions by the flow and version they are asked for, snapshots, and the store in
      the process. -/
  | process (versions : Dict (Dict Version)) (snapshots : Dict Snapshot) (memory : Store)
  /-- A database, and how long it keeps the memory of a conversation. -/
  | database (db : Database) (ttl : Int)

/-- How an operation fails: for a reason, or, in memory, because of another writer. -/
inductive Fault where
  | reason (text : String)
  | conflict
  deriving DecidableEq, Repr

/-- A backend with a clock, and with operations that are made to fail. -/
structure Stores where
  backend : Backend
  clock : Instant
  faults : Operation → Option Fault := fun _ => none
  /-- The operations tried so far, the latest first. -/
  log : List Operation := []

/-! ### Reading and writing the backend -/

namespace Backend

/-- The version that is kept under the ids. -/
def getVersion (flowId versionId : String) : Backend → Except RuntimeError (Option Version)
  | .process versions _ _ => .ok ((versions.get? flowId).bind (·.get? versionId))
  | .database db _ => (db.getVersion flowId versionId).mapError fun e => .flowSource e.message

/-- The snapshot of a conversation. -/
def getSnapshot (conversationId : String) : Backend → Except RuntimeError (Option Snapshot)
  | .process _ snapshots _ => .ok (snapshots.get? conversationId)
  | .database db _ => (db.getSnapshot conversationId).mapError fun
    | .corruptSnapshot e => .resume e
    | e => .snapshot e.message

/-- Stores the snapshot of a conversation. -/
def putSnapshot (conversationId : String) (s : Snapshot) : Backend → Except RuntimeError Backend
  | .process versions snapshots memory =>
    .ok (.process versions (snapshots.insert conversationId s) memory)
  | .database db ttl =>
    match db.putSnapshot conversationId s with
    | .ok db => .ok (.database db ttl)
    | .error e => .error (.snapshot e.message)

/-- The reason stands alone where a snapshot could not be deleted. -/
def deleteSnapshot (conversationId : String) : Backend → Except String Backend
  | .process versions snapshots memory =>
    .ok (.process versions (snapshots.erase conversationId) memory)
  | .database db ttl =>
    match db.deleteSnapshot conversationId with
    | .ok db => .ok (.database db ttl)
    | .error e => .error e.message

/-- The error of memory that lies in the database. -/
def memoryError (e : DbError) : StoreError := .unavailable e.message

/-- Both buckets of a conversation as one. What has expired goes on the way. -/
def getMemory (conversationId : String) (now : Instant) :
    Backend → Except StoreError (Backend × Bucket)
  | .process versions snapshots memory =>
    .ok (.process versions snapshots (memory.evict now conversationId),
      memory.get now conversationId)
  | .database db ttl =>
    match db.getMemory conversationId now with
    | .ok (db, facts) => .ok (.database db ttl, facts)
    | .error e => .error (memoryError e)

/-- One bucket of a conversation. What has expired goes on the way. -/
def getBucket (conversationId : String) (source : Source) (now : Instant) :
    Backend → Except StoreError (Backend × Bucket)
  | .process versions snapshots memory =>
    .ok (.process versions snapshots (memory.evict now conversationId),
      memory.getBucket now conversationId source)
  | .database db ttl =>
    match db.getBucket conversationId source now with
    | .ok (db, facts) => .ok (.database db ttl, facts)
    | .error e => .error (memoryError e)

/-- Writes to memory. The count is missing where the calendar ends before the new expiry. -/
def setMemory (conversationId contactId : String) (us : List Update) (writer : Writer)
    (now : Instant) :
    Backend → Except StoreError (Backend × Option Nat)
  | .process versions snapshots memory =>
    let (memory, n) := memory.set now conversationId contactId us writer
    .ok (.process versions snapshots memory, n)
  | .database db ttl =>
    match db.setMemory conversationId contactId us writer now ttl with
    | .ok (some (db, n)) => .ok (.database db ttl, some n)
    | .ok none => .ok (.database db ttl, none)
    | .error e => .error (memoryError e)

/-- Drops the memory of a conversation. -/
def deleteMemory (conversationId : String) : Backend → Except StoreError Backend
  | .process versions snapshots memory =>
    .ok (.process versions snapshots (memory.delete conversationId))
  | .database db ttl =>
    match db.deleteMemory conversationId with
    | .ok db => .ok (.database db ttl)
    | .error e => .error (memoryError e)

end Backend

/-! ### Operations of the manager -/

namespace Fault

/-- The reason in words. -/
def text : Fault → String
  | .reason text => text
  | .conflict => "conflict"

/-- The failure of an operation on the bucket of a memory. -/
def storeError (conversationId : String) (source : Source) : Fault → StoreError
  | .reason text => .unavailable text
  | .conflict => .writeConflict conversationId source

end Fault

namespace Stores

/-- Logs an operation, and says how it fails if it is made to. -/
def attempt (s : Stores) (op : Operation) : Stores × Option Fault :=
  ({ s with log := op :: s.log }, s.faults op)

/-- The version that is kept under the ids. -/
def getVersion (s : Stores) (flowId versionId : String) :
    Stores × Except RuntimeError (Option Version) :=
  match s.attempt .getVersion with
  | (s, some fault) => (s, .error (.flowSource fault.text))
  | (s, none) => (s, s.backend.getVersion flowId versionId)

/-- The snapshot of a conversation. -/
def getSnapshot (s : Stores) (conversationId : String) :
    Stores × Except RuntimeError (Option Snapshot) :=
  match s.attempt .getSnapshot with
  | (s, some fault) => (s, .error (.snapshot fault.text))
  | (s, none) => (s, s.backend.getSnapshot conversationId)

/-- Stores the snapshot of a conversation. -/
def putSnapshot (s : Stores) (conversationId : String) (x : Snapshot) :
    Stores × Except RuntimeError Unit :=
  match s.attempt .putSnapshot with
  | (s, some fault) => (s, .error (.snapshot fault.text))
  | (s, none) =>
    match s.backend.putSnapshot conversationId x with
    | .ok backend => ({ s with backend }, .ok ())
    | .error e => (s, .error e)

/-- Removes the snapshot of a conversation. -/
def deleteSnapshot (s : Stores) (conversationId : String) : Stores × Except String Unit :=
  match s.attempt .deleteSnapshot with
  | (s, some fault) => (s, .error fault.text)
  | (s, none) =>
    match s.backend.deleteSnapshot conversationId with
    | .ok backend => ({ s with backend }, .ok ())
    | .error e => (s, .error e)

/-- Both buckets of a conversation as one. What has expired goes on the way. -/
def getMemory (s : Stores) (conversationId : String) : Stores × Except StoreError Bucket :=
  match s.attempt .getMemory with
  | (s, some fault) => (s, .error (fault.storeError conversationId .tools))
  | (s, none) =>
    match s.backend.getMemory conversationId s.clock with
    | .ok (backend, facts) => ({ s with backend }, .ok facts)
    | .error e => (s, .error e)

/-- Writes to the memory of a conversation. -/
def setMemory (s : Stores) (conversationId contactId : String) (us : List Update)
    (writer : Writer) :
    Stores × Except StoreError (Option Nat) :=
  match s.attempt .setMemory with
  | (s, some fault) => (s, .error (fault.storeError conversationId writer.source))
  | (s, none) =>
    match s.backend.setMemory conversationId contactId us writer s.clock with
    | .ok (backend, n) => ({ s with backend }, .ok n)
    | .error e => (s, .error e)

/-- Drops the memory of a conversation. -/
def deleteMemory (s : Stores) (conversationId : String) : Stores × Except StoreError Unit :=
  match s.attempt .deleteMemory with
  | (s, some fault) => (s, .error (fault.storeError conversationId .tools))
  | (s, none) =>
    match s.backend.deleteMemory conversationId with
    | .ok backend => ({ s with backend }, .ok ())
    | .error e => (s, .error e)

end Stores
end Dialogue.Live
