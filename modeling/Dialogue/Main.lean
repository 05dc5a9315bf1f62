import Dialogue.CommandLine
import Dialogue.Database.Document
import Std.Time.DateTime.Timestamp

/-! # The program

    Runs a command on the files of the system. A database is kept in a file as one document. -/

namespace Dialogue

open Files

/-- What an error of the system means to a command. -/
def fileError : IO.Error → FileError
  | .noFileOrDirectory .. => .notFound
  | .alreadyExists .. => .taken
  | .inappropriateType _ 21 _ => .isFolder
  | .invalidArgument _ 36 _ => .nameTooLong
  | .inappropriateType .. => .notFolder
  | e => .other 0 (toString e)

/-- The bytes of a file. -/
def readBytes (path : String) : IO (Except FileError ByteArray) := do
  try return .ok (← IO.FS.readBinFile path)
  catch e => return .error (fileError e)

/-- The text of a file. -/
def readTextFile (path : String) : IO (Except FileError String) := do
  match ← readBytes path with
  | .error e => return .error e
  | .ok bytes =>
    match String.fromUTF8? bytes with
    | some s => return .ok s
    | none => return .error .notText

/-- An error of a file that a statement meets. -/
def statementError (e : FileError) : DbError := .statement e.record

/-- Writes the database to its file. -/
def writeDatabase (l : Location) (db : Database) : IO (Except DbError Unit) := do
  if l.isReadOnly then return .error cannotWrite
  if l.isTemporary then return .ok ()
  try
    IO.FS.writeFile l.path (Json.textOf db)
    return .ok ()
  catch e => return .error (statementError (fileError e))

/-- Puts a fresh database where there is none. -/
def startDatabaseFile (l : Location) : IO (Except DbError Database) := do
  return (← writeDatabase l {}).map fun _ => {}

/-- The database in a file, which is made if it may be. -/
def openDatabaseFile (l : Location) : IO (Except DbError Database) := do
  if l.isTemporary then return (← startDatabaseFile l)
  match ← readBytes l.path with
  | .error .notFound => if l.mode = .create then startDatabaseFile l else return .error cannotOpen
  | .error e => return .error (statementError e)
  | .ok bytes =>
    if bytes.size ≤ 1 then startDatabaseFile l
    else
      match (String.fromUTF8? bytes).bind Database.ofText? with
      | some db => return .ok db
      | none => return .error notDatabase

/-- Puts into the file what a database becomes. -/
def keepChange (l : Location) : Change → IO (Except DbError Unit)
  | .reads => return .ok ()
  | .keeps => return if l.isReadOnly then .error cannotWrite else .ok ()
  | .becomes db => writeDatabase l db

instance : FileAccess IO where
  readText := readTextFile
  makeFolders path := do
    try
      IO.FS.createDirAll path
      return .ok ()
    catch e => return .error (fileError e)
  useDatabase l use := do
    match (← openDatabaseFile l).bind use with
    | .error e => return .error e
    | .ok (a, change) => return (← keepChange l change).map fun _ => a

/-- The variables of the environment that configure the engine. -/
def environment : IO (Dict String) := do
  let entries ← Config.keys.filterMapM fun key => return (← IO.getEnv key).map fun value =>
    (key, value)
  return Dict.ofList entries

/-- What the clock of the system reads. -/
def currentTime : IO Time.Instant := do
  let now ← Std.Time.Timestamp.now
  return (Time.Instant.ofNanos? now.toNanosecondsSinceUnixEpoch.val).getD .epoch

end Dialogue

open Dialogue

/-- Runs one command, and prints what it has to say. -/
def main (args : List String) : IO UInt32 := do
  let config := Config.ofEnvironment (← environment)
  match ← CommandLine.run config (← currentTime) args with
  | .ok text =>
    IO.print text
    return 0
  | .error failure =>
    failure.lines.forM fun line => IO.eprintln line
    return failure.exitCode
