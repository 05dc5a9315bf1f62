import Dialogue.Database
import Dialogue.Json.Reader

/-! # Where a database is kept

    A database is named by a path or by an address. An address is the word `file:`, a path that
    may be absolute behind `//` or `//localhost`, and options between a question mark and a `#`,
    which ends it; a byte of it may be written as a percent sign and two hexadecimal digits. The
    options that count are `mode`, `cache`, `vfs`, `immutable`, `nolock`, `readonly_shm` and
    `modeof`; the others are free. -/

namespace Dialogue.Files

/-- What may be done with the file of a database. -/
inductive Mode where
  | readOnly
  | readWrite
  /-- A file that is missing is made. -/
  | create
  /-- The database is in no file. -/
  | memory
  deriving DecidableEq, Repr

/-- Where a file is kept, and how those who use it keep out of each other's way. -/
inductive FileSystem where
  | shared
  /-- Nobody else uses the file. -/
  | exclusive
  /-- Who uses the file makes a folder beside it. -/
  | lockFolders
  | unlocked
  | memory
  deriving DecidableEq, Repr

/-- Where a database is, and how it is opened. -/
structure Location where
  path : String
  mode : Mode := .create
  system : FileSystem := .shared
  /-- What the address says besides; of two options of one name the first counts. -/
  options : List (String × String) := []
  deriving DecidableEq, Repr

namespace Mode

/-- The mode of that name. -/
def ofName? : String → Option Mode
  | "ro" => some .readOnly
  | "rw" => some .readWrite
  | "rwc" => some .create
  | "memory" => some .memory
  | _ => none

/-- Whether an option may go on from one mode to another: a file is not opened to more, but memory
    may come before and after everything. -/
def allows : Mode → Mode → Bool
  | _, .memory | .memory, _ | .create, _ => true
  | .readWrite, m => m != .create
  | .readOnly, m => m == .readOnly

end Mode

/-- The file system of that name. -/
def FileSystem.ofName? : String → Option FileSystem
  | "unix" => some .shared
  | "unix-excl" => some .exclusive
  | "unix-dotfile" => some .lockFolders
  | "unix-none" => some .unlocked
  | "memdb" => some .memory
  | _ => none

/-! ### Bytes in an address -/

/-- The bytes that are written. A zero byte ends them. -/
def writtenBytes : List Char → List UInt8
  | '%' :: a :: b :: cs =>
    match Json.hexDigit? a, Json.hexDigit? b with
    | some x, some y => if x = 0 ∧ y = 0 then [] else UInt8.ofNat (16 * x + y) :: writtenBytes cs
    | _, _ => String.utf8EncodeChar '%' ++ writtenBytes (a :: b :: cs)
  | c :: cs => String.utf8EncodeChar c ++ writtenBytes cs
  | [] => []

/-- The bytes before, between and behind the slashes. -/
def betweenSlashes : List UInt8 → List (List UInt8)
  | [] => [[]]
  | b :: bs =>
    match betweenSlashes bs with
    | name :: names => if b = 47 then [] :: name :: names else (b :: name) :: names
    | [] => [[b]]

/-- The name of some bytes. Where they are no UTF-8 they stand one by one behind a zero,
    which is in no other name. -/
def nameOf (bs : List UInt8) : String :=
  (String.fromUTF8? ⟨bs.toArray⟩).getD
    (String.ofList ('\x00' :: bs.map fun b => Char.ofNat b.toNat))

/-- How many bytes a name has. -/
def nameSize (name : String) : Nat :=
  if name.startsWith "\x00" then name.length - 1 else name.utf8ByteSize

/-- How many bytes names take, each behind a slash. -/
def width (names : List String) : Nat := names.foldl (fun n name => n + 1 + nameSize name) 0

/-- The text that is written. -/
def plainText (cs : List Char) : String :=
  "/".intercalate ((betweenSlashes (writtenBytes cs)).map nameOf)

namespace Location

/-! ### Options -/

/-- The number that a text begins with, in decimal digits or in hexadecimal ones behind `0x`. One
    that does not fit into 31 bits counts as zero. -/
def leadingNumber (cs : List Char) : Nat :=
  let hexadecimal (cs : List Char) : Nat :=
    ((cs.map Json.hexDigit?).takeWhile (·.isSome)).foldl (fun n x => 16 * n + x.getD 0) 0
  let n := match cs with
    | '0' :: 'x' :: cs | '0' :: 'X' :: cs => hexadecimal cs
    | cs => Nat.ofDigitChars 10 (cs.takeWhile Char.isDigit) 0
  if n < 2147483648 then n else 0

/-- A number that is not zero in its lowest byte, or a word that agrees. -/
def isTrue (s : String) : Bool :=
  if (s.toList.head?.map Char.isDigit).getD false then leadingNumber s.toList % 256 ≠ 0
  else ["on", "yes", "true"].contains s.toLower

/-- What the address says under a name. -/
def option? (l : Location) (name : String) : Option String := l.options.lookup name

/-- The address agrees to the option. -/
def hasFlag (l : Location) (name : String) : Bool := (l.option? name).any isTrue

/-- There is a name to keep the database under. -/
def isNamed (l : Location) : Bool := l.mode ≠ .memory && l.path ≠ "" && l.path ≠ ":memory:"

/-- The database is in no file, and gone when it is closed. -/
def isTemporary (l : Location) : Bool := !l.isNamed || l.system = .memory

/-- The file counts as one that never changes. -/
def isFrozen (l : Location) : Bool := l.isNamed && l.hasFlag "immutable"

/-- Nothing can be written to the database. -/
def isReadOnly (l : Location) : Bool := l.mode = .readOnly || l.isFrozen

/-- Others may use the file at the same time, and those who use it know of each other. -/
def isShared (l : Location) : Bool :=
  (l.system = .shared || l.system = .exclusive) && !l.hasFlag "nolock"

/-! ### Reading addresses -/

/-- The characters before the first `c`, and those behind it. -/
def cut (c : Char) (cs : List Char) : List Char × List Char :=
  (cs.takeWhile (· ≠ c), (cs.dropWhile (· ≠ c)).drop 1)

/-- The path of an address, where nothing but this computer stands before it. -/
def afterHost? (cs : List Char) : Option (List Char) :=
  match cs with
  | '/' :: '/' :: cs =>
    let host := String.ofList (cs.takeWhile (· ≠ '/'))
    if host = "" ∨ host = "localhost" then some (cs.dropWhile (· ≠ '/')) else none
  | cs => some cs

/-- The options with their values; one without a name is none. -/
def readOptions (cs : List Char) : List (String × String) :=
  let options := ((String.ofList cs).splitOn "&").map fun s =>
    (cut '=' s.toList).map plainText plainText
  options.filter (·.1 ≠ "")

/-- The location with one more option taken into account, unless the option is refused. -/
def applyOption (l : Location) : String × String → Option Location
  | ("mode", value) => do
    let mode ← Mode.ofName? value
    if l.mode.allows mode then some { l with mode } else none
  | ("cache", value) => if value = "shared" ∨ value = "private" then some l else none
  | _ => some l

/-- No path of a file in memory has more bytes behind a slash. -/
def longestInMemory : Nat := 1017

/-- The location on the file system that the last such option names. -/
def onFileSystem (l : Location) : Option Location := do
  let system ← FileSystem.ofName? ((l.options.reverse.lookup "vfs").getD "unix")
  if system = .memory ∧ l.isNamed ∧ longestInMemory < width (l.path.splitOn "/") then none
  else some { l with system }

/-- The location that the rest of an address tells, behind its scheme. -/
def ofAddress? (cs : List Char) : Option Location := do
  let (path, options) := cut '?' (cut '#' (← afterHost? cs)).1
  let l : Location := { path := plainText path, options := readOptions options }
  (← l.options.foldlM applyOption l).onFileSystem

/-- The location that a name stands for. -/
def ofName (name : String) : Except DbError Location :=
  match name.toList with
  | 'f' :: 'i' :: 'l' :: 'e' :: ':' :: cs =>
    match ofAddress? cs with
    | some l => .ok l
    | none => .error (.statement "the address of the database is refused")
  | _ => .ok { path := name }

end Location
end Dialogue.Files
