import Dialogue.Files.Location
import Dialogue.Text.Quoted

/-! # Files

    The commands read documents and keep a database. What they need of the files around them is the
    class `FileAccess`; `Dialogue.Files.Disk` has it for a disk in memory. Paths are made of names
    between slashes. -/

namespace Dialogue.Files

/-- Why a file cannot be read or a folder not be made. -/
inductive FileError where
  | notFound
  /-- There is a file where a folder should be made. -/
  | taken
  | notFolder
  | isFolder
  | nameTooLong
  /-- The bytes of the file are no UTF-8. -/
  | notText
  | other (code : Nat) (message : String)
  deriving DecidableEq, Repr

/-- An error of the system with its number. -/
def systemRecord (code : Nat) (kind message : String) : String :=
  Text.record "Os" [("code", toString code), ("kind", kind), ("message", Text.quoted message)]

/-- The error as it is printed. -/
def FileError.record : FileError → String
  | .notFound => systemRecord 2 "NotFound" "No such file or directory"
  | .taken => systemRecord 17 "AlreadyExists" "File exists"
  | .notFolder => systemRecord 20 "NotADirectory" "Not a directory"
  | .isFolder => systemRecord 21 "IsADirectory" "Is a directory"
  | .nameTooLong => systemRecord 36 "InvalidFilename" "File name too long"
  | .notText =>
    Text.record "Error"
      [("kind", "InvalidData"), ("message", Text.quoted "stream did not contain valid UTF-8")]
  | .other code message => systemRecord code "Other" message

/-- The file of a database, or one that is needed beside it, cannot be opened or made. -/
def cannotOpen : DbError := .statement "unable to open database file"

/-- The file of the database cannot be read. -/
def cannotRead : DbError := .statement "disk I/O error"

/-- Somebody else uses the database. -/
def locked : DbError := .statement "database is locked"

/-- The file holds something else. -/
def notDatabase : DbError := .statement "file is not a database"

/-- The file of the database may only be read. -/
def cannotWrite : DbError := .statement "attempt to write a readonly database"

/-- What the use of a database comes to. -/
inductive Change where
  /-- It was only read. -/
  | reads
  /-- It was to be written, but there was nothing to write. -/
  | keeps
  | becomes (db : Database)

class FileAccess (m : Type → Type) where
  readText (path : String) : m (Except FileError String)
  /-- Makes a folder and the folders it lies in, as far as they are missing. -/
  makeFolders (path : String) : m (Except FileError Unit)
  /-- Uses the database at a location; where it may be made and the file is missing or empty, a
      fresh one. What it becomes is kept, and nothing else is where this fails. -/
  useDatabase {α : Type} (location : Location) (use : Database → Except DbError (α × Change)) :
    m (Except DbError α)

/-! ### Paths -/

/-- The names of a path. -/
def names (path : String) : List String :=
  (path.splitOn "/").filter fun name => name ≠ "" && name ≠ "."

/-- The folder that a path lies in; none is named where it lies in the current one. -/
def parentFolder? (path : String) : Option String :=
  match (names path).dropLast with
  | [] => none
  | ns => some ((if path.startsWith "/" then "/" else "") ++ "/".intercalate ns)

end Dialogue.Files
