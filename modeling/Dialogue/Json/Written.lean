import Dialogue.Json.Value

/-! # Values as they are written

    A text may hold more than a value: an object can repeat a key, a number can lie beyond every
    double, a string can hold half a surrogate pair. `Written` keeps all that, so that a reader of
    records can pass over a member it does not know, whatever it holds, and refuse a known member
    given twice. `Written.value?` is the value, if there is one. -/

namespace Dialogue.Json

/-- A document as it is written. What cannot be read as a value has a place in it too. -/
inductive Written where
  | null
  | bool (b : Bool)
  | number (n : Option Number)
  | string (s : Option String)
  | array (items : List Written)
  | object (members : List (Option String × Written))
  deriving Repr, Inhabited

mutual

/-- The value that stands there, the last of several members with one key counting. -/
def Written.value? : Written → Option Value
  | .null => some .null
  | .bool b => some (.bool b)
  | .number n => n.map .number
  | .string s => s.map .string
  | .array ws => (itemValues? ws).map .array
  | .object ms => (memberValues? ms).map fun es => .object (ordered es)

/-- The values that items are. -/
def itemValues? : List Written → Option (List Value)
  | [] => some []
  | w :: ws => do
    let v ← w.value?
    let vs ← itemValues? ws
    return v :: vs

/-- The values that members are. -/
def memberValues? : List (Option String × Written) → Option (List (String × Value))
  | [] => some []
  | (k, w) :: ms => do
    let k ← k
    let v ← w.value?
    let vs ← memberValues? ms
    return (k, v) :: vs

end

mutual

/-- How many arrays and objects stand one inside the other. -/
def Written.depth : Written → Nat
  | .array ws => itemDepth ws + 1
  | .object ms => memberDepth ms + 1
  | _ => 0

/-- How deep the deepest item is nested. -/
def itemDepth : List Written → Nat
  | [] => 0
  | w :: ws => max w.depth (itemDepth ws)

/-- How deep the deepest member is nested. -/
def memberDepth : List (Option String × Written) → Nat
  | [] => 0
  | (_, w) :: ms => max w.depth (memberDepth ms)

end

/-- Values are read up to this many arrays and objects deep. -/
def deepest : Nat := 127

/-- The value, for one that stands inside `outer` arrays and objects. -/
def Written.valueWithin? (outer : Nat) (w : Written) : Option Value :=
  if outer + w.depth ≤ deepest then w.value? else none

mutual

/-- A value as it would be written. -/
def Value.written : Value → Written
  | .null => .null
  | .bool b => .bool b
  | .number n => .number (some n)
  | .string s => .string (some s)
  | .array vs => .array (itemsWritten vs)
  | .object ms => .object (membersWritten ms)

/-- The items as they are written. -/
def itemsWritten : List Value → List Written
  | [] => []
  | v :: vs => v.written :: itemsWritten vs

/-- The members as they are written. -/
def membersWritten : List (String × Value) → List (Option String × Written)
  | [] => []
  | (k, v) :: ms => (some k, v.written) :: membersWritten ms

end

end Dialogue.Json
