import Dialogue.Json.Reader

/-! # Reading records

    A record is written as an object, or as an array of its fields in the order of their
    declaration. Members with other keys are passed over whatever they hold; a known key may stand
    only once. A reader of type `α` is a function `Written → Option α`. -/

namespace Dialogue.Json

namespace Written

/-! ### Plain data -/

/-- A boolean, and nothing else. -/
def bool? : Written → Option Bool
  | .bool b => some b
  | _ => none

/-- A string, and nothing else. -/
def string? : Written → Option String
  | .string s => s
  | _ => none

/-- An integer written as one. -/
def int? : Written → Option Int
  | .number (some (.int n)) => some n
  | _ => none

/-- An integer written as one, from 0 up to below `bound`. -/
def natBelow? (bound : Nat) : Written → Option Nat
  | .number (some (.int n)) => if 0 ≤ n ∧ n.toNat < bound then some n.toNat else none
  | _ => none

/-- A whole number of 32 bits. -/
def uint32? (w : Written) : Option UInt32 := (w.natBelow? UInt32.size).map UInt32.ofNat

/-- A whole number of 64 bits. -/
def uint64? (w : Written) : Option UInt64 := (w.natBelow? UInt64.size).map UInt64.ofNat

/-- An array of what `read` reads. -/
def list? {α : Type} (read : Written → Option α) : Written → Option (List α)
  | .array ws => ws.mapM read
  | _ => none

/-- One of a few names, alone or as the key of an object with the one member `null`. -/
def choice? {α : Type} (choices : List (String × α)) : Written → Option α
  | .string (some s) => choices.lookup s
  | .object [(some s, .null)] => choices.lookup s
  | _ => none

/-- The members of an object, provided that every key can be read. -/
def members? : Written → Option (List (String × Written))
  | .object ms => ms.mapM fun m => m.1.map fun k => (k, m.2)
  | _ => none

/-- An object of any keys, the last of several members with one key counting. -/
def dict? {α : Type} (read : Written → Option α) (w : Written) : Option (Dict α) := do
  let ms ← w.members?
  let es ← ms.mapM fun m => (read m.2).map fun a => (m.1, a)
  return Dict.ofList es

end Written

/-! ### Fields -/

/-- The known fields found in a record. -/
abbrev Fields := List (String × Written)

/-- The members whose keys are known, none of which may stand twice. -/
def Fields.pick? (known : List String) (ms : List (String × Written)) : Option Fields :=
  let mine := ms.filter fun m => known.contains m.1
  if (mine.map (·.1)).Nodup then some mine else none

/-- The fields of a record written as an object or as an array of no more items than
    there are fields. -/
def Written.fields? (known : List String) : Written → Option Fields
  | .array ws => if ws.length ≤ known.length then some (known.zip ws) else none
  | w => w.members? >>= Fields.pick? known

namespace Fields

variable {α : Type} (fs : Fields) (key : String)

/-- A field that has to be there. -/
def required (read : Written → Option α) : Option α := (fs.lookup key).bind read

/-- A field that may be missing, but may not be `null` instead. -/
def withDefault (default : α) (read : Written → Option α) : Option α :=
  match fs.lookup key with
  | none => some default
  | some w => read w

/-- A field that may be missing or `null`. -/
def optional (read : Written → Option α) : Option (Option α) :=
  match fs.lookup key with
  | none | some .null => some none
  | some w => (read w).map some

end Fields

/-! ### Tagged records

    The variants of a union are records that carry the name of the variant in a member of its own,
    or, written as an array, in the first item. Everything beside the tag has to be a value. -/

/-- The tag and the rest of an object that has exactly one member with the key of the tag. -/
def splitTag (key : String) (outer : Nat) (ms : List (String × Written)) :
    Option (Written × List (String × Written)) := do
  let (tags, rest) := ms.partition fun m => m.1 = key
  let _ ← rest.mapM fun m => m.2.valueWithin? outer
  match tags with
  | [(_, tag)] => some (tag, rest)
  | _ => none

/-- The tag of a union and the record it belongs to. -/
def Written.tagged? (key : String) (outer : Nat) : Written → Option (Written × Written)
  | .array (tag :: ws) => do
    let _ ← ws.mapM fun w => w.valueWithin? (outer + 1)
    return (tag, .array ws)
  | w => do
    let (tag, rest) ← splitTag key (outer + 1) (← w.members?)
    return (tag, .object (rest.map fun m => (some m.1, m.2)))

end Dialogue.Json
