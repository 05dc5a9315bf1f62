import Dialogue.Dict
import Dialogue.Json.Double

/-! # JSON values and their text

    A value prints compactly: no blanks, members in the order they have, quotes and controls escaped
    and every other character as it is. Values that were read have their members in ascending order
    of keys; documents put together by the library keep the order of their fields. -/

namespace Dialogue.Json

/-- A value of a document. An object keeps its members in the order they are written. -/
inductive Value where
  | null
  | bool (b : Bool)
  | number (n : Number)
  | string (s : String)
  | array (items : List Value)
  | object (members : List (String × Value))
  deriving Repr, Inhabited

/-- Members filed one after the other; of members with one key the last stays. -/
def ordered (ms : List (String × Value)) : List (String × Value) :=
  ms.foldl (fun es m => putEntry m.1 m.2 es) []

/-! ### Text -/

/-- A character below the blank, as four lower-case hexadecimal digits. -/
def unicodeEscape (c : Char) : List Char :=
  let ds := Nat.toDigits 16 c.toNat
  '\\' :: 'u' :: (List.replicate (4 - ds.length) '0' ++ ds)

/-- A character as it is written in a string. -/
def escapeChar (c : Char) : List Char :=
  match c with
  | '"' => ['\\', '"']
  | '\\' => ['\\', '\\']
  | '\x08' => ['\\', 'b']
  | '\x0c' => ['\\', 'f']
  | '\n' => ['\\', 'n']
  | '\r' => ['\\', 'r']
  | '\t' => ['\\', 't']
  | c => if c < ' ' then unicodeEscape c else [c]

/-- A quoted string. -/
def quote (s : String) : List Char := '"' :: (s.toList.flatMap escapeChar ++ ['"'])

mutual

/-- The value as it is written, without blanks. -/
def Value.chars : Value → List Char
  | .null => "null".toList
  | .bool true => "true".toList
  | .bool false => "false".toList
  | .number n => n.text
  | .string s => quote s
  | .array [] => "[]".toList
  | .array (v :: vs) => '[' :: (v.chars ++ itemChars vs)
  | .object [] => ['\x7b', '\x7d']
  | .object ((k, v) :: ms) => '\x7b' :: (quote k ++ ':' :: (v.chars ++ memberChars ms))

/-- The items after the first, with the closing bracket. -/
def itemChars : List Value → List Char
  | [] => [']']
  | v :: vs => ',' :: (v.chars ++ itemChars vs)

/-- The members after the first, with the closing brace. -/
def memberChars : List (String × Value) → List Char
  | [] => ['\x7d']
  | (k, v) :: ms => ',' :: (quote k ++ ':' :: (v.chars ++ memberChars ms))

end

/-- The value as it is written, without blanks. -/
def Value.text (v : Value) : String := String.ofList v.chars

/-! ### Views -/

mutual

/-- The same value with the members of every object in ascending order of keys. -/
def Value.sorted : Value → Value
  | .array vs => .array (sortedItems vs)
  | .object ms => .object (ordered (sortedMembers ms))
  | v => v

/-- The items with the members of all objects in ascending order. -/
def sortedItems : List Value → List Value
  | [] => []
  | v :: vs => v.sorted :: sortedItems vs

/-- The members in ascending order, at every depth. -/
def sortedMembers : List (String × Value) → List (String × Value)
  | [] => []
  | (k, v) :: ms => (k, v.sorted) :: sortedMembers ms

end

/-- `null`, `""`, `[]` and an object without members are empty; `false` and `0` are values. -/
def Value.isPresent : Value → Bool
  | .null => false
  | .string s => s ≠ ""
  | .array vs => !vs.isEmpty
  | .object ms => !ms.isEmpty
  | .bool _ | .number _ => true

/-! ### Building documents -/

/-- Data with a JSON form. -/
class ToJson (α : Type) where
  toJson : α → Value

export ToJson (toJson)

instance : ToJson Value := ⟨id⟩
instance : ToJson Bool := ⟨.bool⟩
instance : ToJson String := ⟨.string⟩
instance : ToJson Int := ⟨fun n => .number (.int n)⟩
instance : ToJson Nat := ⟨fun n => .number (.int n)⟩
instance : ToJson UInt32 := ⟨fun n => .number (.int n.toNat)⟩
instance : ToJson UInt64 := ⟨fun n => .number (.int n.toNat)⟩
instance {α : Type} [ToJson α] : ToJson (Option α) := ⟨fun a => a.elim .null toJson⟩
instance {α : Type} [ToJson α] : ToJson (List α) := ⟨fun as => .array (as.map toJson)⟩
instance {α : Type} [ToJson α] : ToJson (Dict α) :=
  ⟨fun d => .object (d.entries.map fun e => (e.1, toJson e.2))⟩

/-- A member that is left out when there is nothing to say. -/
def memberIfSome {α : Type} [ToJson α] (key : String) (a : Option α) : List (String × Value) :=
  (a.map fun a => (key, toJson a)).toList

/-- The compact text of a document. -/
def textOf {α : Type} [ToJson α] (a : α) : String := (toJson a).text

end Dialogue.Json
