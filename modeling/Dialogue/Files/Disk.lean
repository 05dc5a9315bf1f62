import Dialogue.Files.Basic

/-! # A disk in memory

    Folders and files by the names on the way from the root. A path goes on from the home folder
    unless it begins with a slash. It goes through folders only; `.` and an empty name stay, `..`
    goes back. `Dialogue.Files.Keeping` is about the databases on a disk. -/

namespace Dialogue.Files

/-- What can be at a place. -/
inductive Node where
  | folder
  | text (s : String)
  | database (db : Database)
  /-- A file of bytes that are no UTF-8 and no database. -/
  | bytes

/-- The names on the way from the root. -/
abbrev Place := List String

/-- What is at each place, written as a path from the root. -/
structure Disk where
  nodes : Dict Node := .empty
  /-- The folder that a path goes on from. -/
  home : Place := ["tmp", "dialogue-0"]

/-- No name has more bytes. -/
def longestName : Nat := 255

/-- No path has more bytes. -/
def longestPath : Nat := 4095

namespace Disk

/-- What is at a place. The folders on the way home are always there. -/
def node? (d : Disk) (place : Place) : Option Node :=
  if place.isPrefixOf d.home then some .folder else d.nodes.get? ("/".intercalate place)

/-- Puts something at a place. -/
def put (d : Disk) (place : Place) (n : Node) : Disk :=
  { d with nodes := d.nodes.insert ("/".intercalate place) n }

/-- Takes away what is at a place. -/
def remove (d : Disk) (place : Place) : Disk :=
  { d with nodes := d.nodes.erase ("/".intercalate place) }

/-- There is a folder at the place. -/
def isFolder (d : Disk) (place : Place) : Bool :=
  match d.node? place with
  | some .folder => true
  | _ => false

/-- Where a path begins. -/
def origin (d : Disk) (path : String) : Place := if path.startsWith "/" then [] else d.home

/-- Goes from a place to a name. -/
def go (place : Place) (name : String) : Place :=
  if name = "" ∨ name = "." then place
  else if name = ".." then place.dropLast
  else place ++ [name]

/-- Goes from a folder to a name. -/
def enter (d : Disk) (place : Place) (name : String) : Except FileError Place :=
  match d.node? place with
  | some .folder => if nameSize name ≤ longestName then .ok (go place name) else .error .nameTooLong
  | some _ => .error .notFolder
  | none => .error .notFound

/-- The place of a path. -/
def find (d : Disk) (path : String) : Except FileError Place :=
  if path = "" then .error .notFound
  else if longestPath < path.utf8ByteSize then .error .nameTooLong
  else (path.splitOn "/").foldlM d.enter (d.origin path)

/-- Whether there is something at the path. -/
def contains (d : Disk) (path : String) : Bool :=
  match d.find path with
  | .ok place => (d.node? place).isSome
  | .error _ => false

/-- The text in the file at a path. -/
def readText (d : Disk) (path : String) : Except FileError String := do
  match d.node? (← d.find path) with
  | some (.text s) => return s
  | some .folder => throw .isFolder
  | some (.database _) | some .bytes => throw .notText
  | none => throw .notFound

/-! ### Folders -/

/-- Makes the folder that the names lead to. -/
def makeFolder (d : Disk) (origin : Place) (names : List String) : Except FileError Disk := do
  let place ← names.foldlM d.enter origin
  if (d.node? place).isSome then throw .taken
  return d.put place .folder

/-- Makes the folder that the names lead to, of which the last comes first, and before it those that
    it lies in if they are missing. A folder that is there already is as good. -/
def makeFoldersTo (d : Disk) (origin : Place) : List String → Disk × Except FileError Unit
  | [] => (d, .ok ())
  | name :: above =>
    let names := (name :: above).reverse
    let done (d : Disk) : Except FileError Disk → Disk × Except FileError Unit
      | .ok d => (d, .ok ())
      | .error e =>
        (d, if (names.foldlM d.enter origin).toOption.any d.isFolder then .ok () else .error e)
    match d.makeFolder origin names with
    | .error .notFound =>
      match d.makeFoldersTo origin above with
      | (d, .ok ()) => done d (d.makeFolder origin names)
      | (d, .error e) => (d, .error e)
    | r => done d r

/-- Makes the folder at a path, and those on the way to it. -/
def makeFolders (d : Disk) (path : String) : Disk × Except FileError Unit :=
  if longestPath < path.utf8ByteSize then (d, .error .nameTooLong)
  else d.makeFoldersTo (d.origin path) (names path).reverse

/-- A disk with one more text, and the folders it lies in. -/
def addText (d : Disk) (path text : String) : Disk :=
  let d := match parentFolder? path with
    | some folder => (d.makeFolders folder).1
    | none => d
  match d.find path with
  | .ok place => d.put place (.text text)
  | .error _ => d

end Disk

end Dialogue.Files
