import Dialogue.Files.Disk

/-! # Databases on a disk in memory

    A database is a file, and there may be others beside it. The journal is there while the file
    changes, the log has what is to be put into the file later, and the index is for those who use a
    log together. A command leaves none of them behind, so what is found there is no part of the
    database: it is thrown away, where the location lets that be done. The path of a database is
    tidied before it is looked at, so it may go back from a folder that is not there. -/

namespace Dialogue.Files

/-- What the journal is called after its database. -/
def journalEnding : String := "-journal"
/-- What the log is called after its database. -/
def logEnding : String := "-wal"
/-- What the index of the log is called. -/
def indexEnding : String := "-shm"
/-- What the folder of a lock is called. -/
def lockEnding : String := ".lock"

/-- No file beside a database has a place with more bytes. -/
def longestPlace : Nat := 512

/-- A log begins with so many bytes that tell what it is. -/
def logHeaderSize : Nat := 32

/-- A journal with a zero in front is done with. -/
def Node.isHot : Node → Bool
  | .text s => !s.startsWith "\x00"
  | _ => true

/-- The file is a text of fewer than `n` bytes. -/
def Node.isShorterThan (n : Nat) : Node → Bool
  | .text s => s.utf8ByteSize < n
  | _ => false

namespace Disk

/-! ### Places of databases -/

/-- Goes from a place to a name, be the place there or not. What is in a file is not gone to, and
    neither is a name that is too long. -/
def tidy (d : Disk) (place : Place) (name : String) : Option Place :=
  if name = "" ∨ name = "." ∨ name = ".." then some (go place name)
  else if longestPlace ≤ width place + 1 + nameSize name then none
  else
    match d.enter place name with
    | .ok place => some place
    | .error .notFound => some (go place name)
    | .error _ => none

/-- The place of a path that is tidied step by step. There is room for the journal
    behind its name. -/
def tidied? (d : Disk) (path : String) : Option Place := do
  let place ← (path.splitOn "/").foldlM d.tidy (d.origin path)
  if width place + nameSize journalEnding ≤ longestPlace then some place else none

/-- The place of a file with a longer name. -/
def beside (place : Place) (ending : String) : Place :=
  place.dropLast ++ [(place.getLast?.getD "") ++ ending]

/-- There is a file without a database; a single byte counts as nothing. -/
def isBlank (d : Disk) (place : Place) : Bool :=
  match d.node? place with
  | some n => n.isShorterThan 2
  | none => false

/-- What was left at a place; an empty file is as good as none. -/
def leftAt (d : Disk) (place : Place) : Option Node :=
  (d.node? place).filter fun n => !n.isShorterThan 1

end Disk

open Disk

/-- Something that is done with a database on a disk. It may change the disk and fail
    all the same. -/
abbrev Keeping := ExceptT DbError (StateM Disk)

namespace Keeping

/-! ### Files beside a database -/

/-- Makes the lock folder, if there is to be one. Whether there is one now. -/
def lock (l : Location) (place : Place) : Keeping Bool := do
  let held := ((← get).node? (beside place lockEnding)).isSome
  if l.system ≠ .lockFolders then return false
  if l.hasFlag "nolock" then return held
  if held then throw locked
  return true

/-- Does away with a journal that was left. It stands in the way where it is a folder, and where it
    would have to be looked at but nothing may be written. -/
def dropJournal (l : Location) (place : Place) : Keeping Unit := do
  let journal := beside place journalEnding
  let blank := (← get).isBlank place
  match (← get).leftAt journal with
  | none => return
  | some .folder => if !blank then throw cannotRead
  | some n =>
    if blank then
      if l.mode ≠ .readOnly || !l.isShared then modify (·.remove journal)
    else if n.isHot then
      if l.mode = .readOnly then throw cannotWrite
      modify (·.remove journal)

/-- The log that was left to a file with something in it. -/
def findLog (l : Location) (place : Place) : Keeping (Option Node) := do
  match (← get).leftAt (beside place logEnding) with
  | none => return none
  | some .folder => throw cannotOpen
  | some log =>
    if (← get).isBlank place then
      modify (·.remove (beside place logEnding))
      return none
    if !l.isShared then throw cannotOpen
    return some log

/-- A log is used by oneself alone, so that it needs no index. -/
def isAlone (l : Location) : Bool := l.system = .exclusive && l.mode ≠ .readOnly

/-- Opens the index of a log; whether it can be written. -/
def openIndex (l : Location) (place : Place) : Keeping Bool := do
  if isAlone l then return true
  match (← get).node? (beside place indexEnding) with
  | some .folder => return false
  | index? =>
    if l.hasFlag "readonly_shm" then
      if index?.isNone then throw cannotOpen
      return false
    modify (·.put (beside place indexEnding) .bytes)
    return true

/-- Does away with a log, for there is nothing in it. Who may not write to the file leaves it; who
    may not write to its index cannot even write to the database, and reads it only if it sees at
    once that the log is none. Whether the database can be written now. -/
def dropLog (l : Location) (place : Place) (log : Node) : Keeping Bool := do
  if ← openIndex l place then
    if l.mode = .readOnly then return false
    modify (·.remove (beside place logEnding))
    if !isAlone l then modify (·.remove (beside place indexEnding))
    return true
  else
    if !log.isShorterThan logHeaderSize then throw locked
    return false

/-! ### The file of a database -/

/-- The place of the file, which is made if need be. It is to be like a file that is there. -/
def openFile (l : Location) : Keeping Place := do
  let d ← get
  let some place := d.tidied? l.path | throw cannotOpen
  if let some path := l.option? "modeof" then
    if !d.contains path then throw cannotRead
  match d.node? place, d.node? place.dropLast with
  | some .folder, _ => throw cannotOpen
  | some _, _ => return place
  | none, some .folder =>
    if l.mode ≠ .create then throw cannotOpen
    set (d.put place (.text ""))
    return place
  | none, _ => throw cannotOpen

/-- Puts a fresh database into a file without one. -/
def startDatabase (l : Location) (place : Place) : Keeping Unit := do
  let d ← get
  let journal := beside place journalEnding
  if l.mode = .readOnly then throw cannotWrite
  if d.isFolder journal || longestName < nameSize (journal.getLast?.getD "") then throw cannotOpen
  set ((d.put place (.database {})).remove journal)

/-- Uses the database in a file. A change goes through the journal, or else through the log. -/
def useFile {α : Type} (place : Place) (writable journaled : Bool)
    (use : Database → Except DbError (α × Change)) : Keeping α := do
  let some (.database db) := (← get).node? place | throw notDatabase
  let (a, change) ← use db.reopen
  match change with
  | .reads => return a
  | .keeps => if writable then return a else throw cannotWrite
  | .becomes db =>
    if !writable then throw cannotWrite
    if journaled then
      if (← get).isFolder (beside place journalEnding) then throw cannotOpen
      modify (·.remove (beside place journalEnding))
    modify (·.put place (.database db))
    return a

/-- Uses a fresh database that is gone afterwards. -/
def useTemporary {α : Type} (l : Location) (use : Database → Except DbError (α × Change)) :
    Keeping α := do
  if l.isReadOnly then throw cannotWrite
  return (← use {}).1

/-- As long as there is a lock folder, be it one's own, a journal counts as one that is in use. -/
def useDatabase {α : Type} (l : Location) (use : Database → Except DbError (α × Change)) :
    Keeping α := do
  if l.isTemporary then return (← useTemporary l use)
  let place ← openFile l
  if l.isFrozen then return (← useFile place false true use)
  if !(← lock l place) then dropJournal l place
  match ← findLog l place with
  | some log => useFile place (← dropLog l place log) false use
  | none =>
    if (← get).isBlank place then startDatabase l place
    useFile place (l.mode ≠ .readOnly) true use

end Keeping

instance : FileAccess (StateM Disk) where
  readText path := return (← get).readText path
  makeFolders path := do
    let (d, r) := (← get).makeFolders path
    set d
    return r
  useDatabase l use := (Keeping.useDatabase l use).run

end Dialogue.Files
