import Dialogue.Text.Unprintable

/-! # Quoted text for people

    Messages show a text between double quotes. A backslash stands before a double quote and a
    backslash, common controls have short escapes, and a character without a look of its own is
    written as its code point. A value that may be missing is shown as `None` or `Some(…)`, and a
    record by its name and its fields between braces. -/

namespace Dialogue.Text

/-- A character as it is shown between quotation marks. -/
def showChar (c : Char) : List Char :=
  match c with
  | '\x00' => ['\\', '0']
  | '\t' => ['\\', 't']
  | '\n' => ['\\', 'n']
  | '\r' => ['\\', 'r']
  | '"' => ['\\', '"']
  | '\\' => ['\\', '\\']
  | c =>
    if isUnprintable c then '\\' :: 'u' :: '\x7b' :: (Nat.toDigits 16 c.toNat ++ ['\x7d']) else [c]

/-- A text as messages show it. -/
def quoted (s : String) : String := String.ofList ('"' :: (s.toList.flatMap showChar ++ ['"']))

/-- An optional text as it is shown. -/
def quotedOption : Option String → String
  | none => "None"
  | some s => "Some(" ++ quoted s ++ ")"

/-- A record whose fields are shown already. -/
def record (name : String) (fields : List (String × String)) : String :=
  name ++ " \x7b " ++ ", ".intercalate (fields.map fun f => f.1 ++ ": " ++ f.2) ++ " \x7d"

end Dialogue.Text
