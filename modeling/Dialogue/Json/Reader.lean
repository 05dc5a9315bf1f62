import Dialogue.Json.Written

/-! # Reading JSON text

    The grammar is RFC 8259's: blanks are four characters, numbers have no leading zero or
    plus, strings no raw controls. `Written.ofText?` reads a whole text. Every step is given
    the text that is left and returns what it leaves; the fuel of `readValue` is computed from
    the length of the text. -/

namespace Dialogue.Json

/-! ### Numbers -/

/-- The parts of a number: digits before the point, after it, and of the exponent with its sign. -/
structure Numeral where
  negative : Bool
  whole : List Char
  fraction : Option (List Char)
  exponent : Option (Bool × List Char)
  deriving DecidableEq, Repr

/-- Digits, at least one. -/
def readDigits (cs : List Char) : Option (List Char × List Char) :=
  match cs.takeWhile Char.isDigit with
  | [] => none
  | ds => some (ds, cs.dropWhile Char.isDigit)

/-- Digits without a leading zero. -/
def readWhole (cs : List Char) : Option (List Char × List Char) :=
  match readDigits cs with
  | some ('0' :: _ :: _, _) => none
  | r => r

/-- The digits behind a point, if there is one. -/
def readFraction : List Char → Option (Option (List Char) × List Char)
  | '.' :: cs => (readDigits cs).map fun (ds, rest) => (some ds, rest)
  | cs => some (none, cs)

/-- The sign and the digits behind an `e`, if there is one. -/
def readExponent : List Char → Option (Option (Bool × List Char) × List Char)
  | [] => some (none, [])
  | c :: cs =>
    if c = 'e' ∨ c = 'E' then
      let (negative, cs) := match cs with
        | '-' :: cs => (true, cs)
        | '+' :: cs => (false, cs)
        | cs => (false, cs)
      (readDigits cs).map fun (ds, rest) => (some (negative, ds), rest)
    else some (none, c :: cs)

/-- A number as it is written: no zero in front, digits behind a point and behind an `e`. -/
def readNumeral (cs : List Char) : Option (Numeral × List Char) := do
  let (negative, cs) := match cs with
    | '-' :: cs => (true, cs)
    | cs => (false, cs)
  let (whole, cs) ← readWhole cs
  let (fraction, cs) ← readFraction cs
  let (exponent, cs) ← readExponent cs
  return (⟨negative, whole, fraction, exponent⟩, cs)

/-- Takes digits on to `n` as long as the number fits 64 bits, and returns the digits left over. -/
def takeDigits (n : Nat) : List Char → Nat × List Char
  | [] => (n, [])
  | c :: cs =>
    let n' := n * 10 + (c.toNat - '0'.toNat)
    if n' < UInt64.size then takeDigits n' cs else (n, c :: cs)

/-- The number that decimal digits make. -/
def digitsNat (ds : List Char) : Nat := Nat.ofDigitChars 10 ds 0

/-- The magnitude as a double: digits beyond 64 bits count with their place only. -/
def Numeral.double? (x : Numeral) : Option Double :=
  let (n, unread) := takeDigits 0 x.whole
  let fraction := x.fraction.getD []
  let (n, unreadFraction) := takeDigits n fraction
  let place : Int := unread.length - (fraction.length - unreadFraction.length : Nat)
  let exponent : Int := match x.exponent with
    | none => 0
    | some (true, ds) => -(digitsNat ds : Int)
    | some (false, ds) => digitsNat ds
  Double.ofDecimal n (place + exponent)

/-- An integer where one is written that fits 64 bits (with sign or without), otherwise a double;
    `-0` is a double. -/
def Numeral.number? (x : Numeral) : Option Number :=
  let n := digitsNat x.whole
  let asDouble := x.double?.map fun d => Number.double (if x.negative then d.neg else d)
  if x.fraction.isSome || x.exponent.isSome then asDouble
  else if x.negative then if 0 < n ∧ n ≤ UInt64.size / 2 then some (.int (-n)) else asDouble
  else if n < UInt64.size then some (.int n) else asDouble

/-! ### Strings -/

/-- A character, or half a surrogate pair from an escape. -/
inductive Piece where
  | char (c : Char)
  | half (n : Nat)
  deriving DecidableEq, Repr

/-- A unit of UTF-16: half of a pair, or a character. -/
def Piece.ofUnit (n : Nat) : Piece :=
  if 0xD800 ≤ n ∧ n ≤ 0xDFFF then .half n else .char (Char.ofNat n)

/-- The value of a hexadecimal digit. -/
def hexDigit? (c : Char) : Option Nat :=
  if '0' ≤ c ∧ c ≤ '9' then some (c.toNat - '0'.toNat)
  else if 'a' ≤ c ∧ c ≤ 'f' then some (c.toNat - 'a'.toNat + 10)
  else if 'A' ≤ c ∧ c ≤ 'F' then some (c.toNat - 'A'.toNat + 10)
  else none

/-- The value of four hexadecimal digits. -/
def hexUnit? (a b c d : Char) : Option Nat := do
  return (((← hexDigit? a) * 16 + (← hexDigit? b)) * 16 + (← hexDigit? c)) * 16 + (← hexDigit? d)

/-- What a one-character escape stands for. -/
def unescape? : Char → Option Char
  | '"' => some '"'
  | '\\' => some '\\'
  | '/' => some '/'
  | 'b' => some '\x08'
  | 'f' => some '\x0c'
  | 'n' => some '\n'
  | 'r' => some '\r'
  | 't' => some '\t'
  | _ => none

/-- The rest of a string, up to and with its closing quote. -/
def readPieces : List Char → Option (List Piece × List Char)
  | [] => none
  | '"' :: rest => some ([], rest)
  | '\\' :: 'u' :: a :: b :: c :: d :: rest => do
    let n ← hexUnit? a b c d
    let (ps, rest) ← readPieces rest
    return (.ofUnit n :: ps, rest)
  | '\\' :: e :: rest => do
    let c ← unescape? e
    let (ps, rest) ← readPieces rest
    return (.char c :: ps, rest)
  | c :: rest =>
    if c < ' ' ∨ c = '\\' then none
    else do
      let (ps, rest) ← readPieces rest
      return (.char c :: ps, rest)

/-- The characters, if every half of a surrogate pair has its other half beside it. -/
def pieceChars? : List Piece → Option (List Char)
  | [] => some []
  | .char c :: ps => (pieceChars? ps).map (c :: ·)
  | .half high :: .half low :: ps =>
    if high < 0xDC00 ∧ 0xDC00 ≤ low then
      (pieceChars? ps).map (Char.ofNat (0x10000 + (high - 0xD800) * 0x400 + (low - 0xDC00)) :: ·)
    else none
  | .half _ :: _ => none

/-- The rest of a string after its opening quote. -/
def readString (cs : List Char) : Option (Option String × List Char) :=
  (readPieces cs).map fun (ps, rest) => ((pieceChars? ps).map String.ofList, rest)

/-! ### Values -/

/-- The characters that may stand between tokens. -/
def isBlank (c : Char) : Bool := c = ' ' || c = '\n' || c = '\t' || c = '\r'

/-- What comes after the blanks. -/
def skipBlanks (cs : List Char) : List Char := cs.dropWhile isBlank

/-- A key with its colon. -/
def readKey (cs : List Char) : Option (Option String × List Char) :=
  match skipBlanks cs with
  | '"' :: cs => do
    let (k, cs) ← readString cs
    match skipBlanks cs with
    | ':' :: cs => some (k, cs)
    | _ => none
  | _ => none

mutual

/-- Reads one value, as deep as the fuel goes. -/
def readValue : Nat → List Char → Option (Written × List Char)
  | 0, _ => none
  | fuel + 1, cs =>
    match skipBlanks cs with
    | 'n' :: 'u' :: 'l' :: 'l' :: cs => some (.null, cs)
    | 't' :: 'r' :: 'u' :: 'e' :: cs => some (.bool true, cs)
    | 'f' :: 'a' :: 'l' :: 's' :: 'e' :: cs => some (.bool false, cs)
    | '"' :: cs => (readString cs).map fun (s, cs) => (.string s, cs)
    | '[' :: cs =>
      match skipBlanks cs with
      | ']' :: cs => some (.array [], cs)
      | cs => (readItems fuel cs).map fun (ws, cs) => (.array ws, cs)
    | '\x7b' :: cs =>
      match skipBlanks cs with
      | '\x7d' :: cs => some (.object [], cs)
      | cs => (readMembers fuel cs).map fun (ms, cs) => (.object ms, cs)
    | cs => (readNumeral cs).map fun (x, cs) => (.number x.number?, cs)

/-- Items, at least one, with the closing bracket. -/
def readItems : Nat → List Char → Option (List Written × List Char)
  | 0, _ => none
  | fuel + 1, cs => do
    let (w, cs) ← readValue fuel cs
    match skipBlanks cs with
    | ']' :: cs => some ([w], cs)
    | ',' :: cs => (readItems fuel cs).map fun (ws, cs) => (w :: ws, cs)
    | _ => none

/-- Members, at least one, with the closing brace. -/
def readMembers : Nat → List Char → Option (List (Option String × Written) × List Char)
  | 0, _ => none
  | fuel + 1, cs => do
    let (k, cs) ← readKey cs
    let (w, cs) ← readValue fuel cs
    match skipBlanks cs with
    | '\x7d' :: cs => some ([(k, w)], cs)
    | ',' :: cs => (readMembers fuel cs).map fun (ms, cs) => ((k, w) :: ms, cs)
    | _ => none

end

/-- A whole text: one value with blanks around it. -/
def Written.ofChars? (cs : List Char) : Option Written := do
  let (w, rest) ← readValue (2 * cs.length + 2) cs
  if skipBlanks rest = [] then some w else none

/-- The document that a text is, if it is one. -/
def Written.ofText? (s : String) : Option Written := Written.ofChars? s.toList

/-- The value of a text. -/
def Value.ofText? (s : String) : Option Value := Written.ofText? s >>= Written.valueWithin? 0

end Dialogue.Json
