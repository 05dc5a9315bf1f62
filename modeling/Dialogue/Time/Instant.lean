import Dialogue.Time.Calendar
import Dialogue.Text.Blank

/-! # Timestamps and instants

    A timestamp is a second since the start of 1970, within the years -262143 to 262142, and the
    nanoseconds into it; spans of time are plain integers of nanoseconds. After any second a leap
    second may follow, which is not counted: its nanoseconds go on from those of the second before
    it. An instant is a timestamp as clocks show and texts tell it: its leap seconds come at the end
    of a minute. Timestamps are written in UTC with the fewest of 0, 3, 6 or 9 digits of a second
    that are exact; what is read is an instant. It may have any offset below 24 hours, blanks around
    the numbers and no leading zeros. -/

namespace Dialogue.Time

/-- Nanoseconds in a second. -/
def nanosPerSecond : Int := 1000000000
/-- Nanoseconds in a millisecond. -/
def nanosPerMilli : Int := 1000000
/-- Seconds in a day, without leap seconds. -/
def secondsPerDay : Int := 86400

/-- 1 January -262143, 0:00:00. -/
def firstSecond : Int := -8334601228800

/-- 31 December 262142, 23:59:59. -/
def lastSecond : Int := 8210266876799

/-- The second is one of the calendar, and the nanoseconds are within it or the leap
    second after it. -/
def InCalendar (second : Int) (nano : Nat) : Prop :=
  firstSecond ≤ second ∧ second ≤ lastSecond ∧ nano < 2000000000

instance (second : Int) (nano : Nat) : Decidable (InCalendar second nano) := by
  unfold InCalendar
  infer_instance

/-- The second is one of the calendar, and a leap second comes at the end of a minute. -/
def OnClock (second : Int) (nano : Nat) : Prop :=
  InCalendar second nano ∧ (1000000000 ≤ nano → second % 60 = 59)

instance (second : Int) (nano : Nat) : Decidable (OnClock second nano) := by
  unfold OnClock
  infer_instance

/-- A point in time as a record holds it. -/
structure Timestamp where
  second : Int
  /-- Nanoseconds into the second; from a whole second on, into the leap second after it. -/
  nano : Nat
  inCalendar : InCalendar second nano
  deriving DecidableEq, Repr

/-- A point in time as a clock shows it and a text tells it. -/
structure Instant where
  second : Int
  /-- Nanoseconds into the second; from a whole second on, into the leap second after it. -/
  nano : Nat
  onClock : OnClock second nano
  deriving DecidableEq, Repr

namespace Timestamp

/-- Its leap second, if it is within one, comes at the end of a minute. -/
def IsInstant (t : Timestamp) : Prop := OnClock t.second t.nano

instance (t : Timestamp) : Decidable t.IsInstant := inferInstanceAs (Decidable (OnClock _ _))

/-! ### Text -/

/-- `n` in decimal with at least `width` digits. -/
def padded (width n : Nat) : List Char :=
  let ds := Nat.toDigits 10 n
  List.replicate (width - ds.length) '0' ++ ds

/-- Four digits from 0 to 9999, else a sign and at least four digits. -/
def yearChars (y : Int) : List Char :=
  if 0 ≤ y ∧ y ≤ 9999 then padded 4 y.toNat
  else (if y < 0 then '-' else '+') :: padded 4 y.natAbs

/-- The digits of a fraction after a point, of which there are none, 3, 6 or 9. -/
def fractionChars (n : Nat) : List Char :=
  if n = 0 then []
  else if n % 1000000 = 0 then '.' :: padded 3 (n / 1000000)
  else if n % 1000 = 0 then '.' :: padded 6 (n / 1000)
  else '.' :: padded 9 n

/-- A leap second is written as the second after the one that it is counted with, so only at the end
    of a minute does its text tell it from a second of its own. -/
def chars (t : Timestamp) : List Char :=
  let date := Date.ofDays (t.second / secondsPerDay)
  let second := (t.second % secondsPerDay).toNat
  yearChars date.year ++ '-' :: padded 2 date.month ++ '-' :: padded 2 date.day
    ++ 'T' :: padded 2 (second / 3600) ++ ':' :: padded 2 (second / 60 % 60)
    ++ ':' :: padded 2 (second % 60 + t.nano / 1000000000) ++ fractionChars
      (t.nano % 1000000000) ++ ['Z']

/-- The text that is written for it. -/
def text (t : Timestamp) : String := String.ofList t.chars

end Timestamp

namespace Instant

theorem inCalendar (t : Instant) : InCalendar t.second t.nano := t.onClock.1

/-- The instant as a record holds it. -/
def stamp (t : Instant) : Timestamp := ⟨t.second, t.nano, t.inCalendar⟩

/-- The text that is written for it. -/
def text (t : Instant) : String := t.stamp.text

/-- The instant of the second and the nanoseconds, if the calendar has it. -/
def of? (second : Int) (nano : Nat) : Option Instant :=
  if h : OnClock second nano then some ⟨second, nano, h⟩ else none

/-- The instant so many nanoseconds after the start of 1970, if the calendar has it. -/
def ofNanos? (n : Int) : Option Instant := of? (n / nanosPerSecond) (n % nanosPerSecond).toNat

/-- The start of 1970. -/
def epoch : Instant := ⟨0, 0, by decide⟩

instance : Inhabited Instant := ⟨epoch⟩

/-- Within a leap second. -/
def isLeap (t : Instant) : Bool := 1000000000 ≤ t.nano

/-- Nanoseconds since the start of 1970; those of a leap second are counted once more after it. -/
def nanos (t : Instant) : Int := t.second * nanosPerSecond + t.nano

/-- The place of the instant in time, which a leap second has for itself. -/
def rank (t : Instant) : Int := t.second * (2 * nanosPerSecond) + t.nano

/-- The instant `span` later, if the calendar has it. Within a leap second time goes on, but who
    leaves it goes on from the second before it, or, backward, from the second after it. -/
def add? (t : Instant) (span : Int) : Option Instant :=
  let nano := t.nano + span
  if t.isLeap ∧ 2 * nanosPerSecond ≤ nano then ofNanos? (t.nanos - nanosPerSecond + span)
  else if t.isLeap ∧ nanosPerSecond ≤ nano then of? t.second nano.toNat
  else ofNanos? (t.nanos + span)

/-- The second of the day. -/
def secondOfDay (t : Instant) : Int := t.second % secondsPerDay

/-- The span from `s` to `t`. A leap second of the earlier one in the day is counted. -/
def since (t s : Instant) : Int :=
  let counted : Int :=
    if s.secondOfDay < t.secondOfDay ∧ s.isLeap then 1
    else if t.secondOfDay < s.secondOfDay ∧ t.isLeap then -1
    else 0
  t.nanos - s.nanos + counted * nanosPerSecond

/-- Whole milliseconds since the start of 1970, rounded down. -/
def millis (t : Instant) : Int := t.nanos / nanosPerMilli

/-! ### Reading -/

/-- From one to `most` digits. -/
def readNat (most : Nat) (cs : List Char) : Option (Nat × List Char) :=
  match (cs.take most).takeWhile Char.isDigit with
  | [] => none
  | ds => some (Nat.ofDigitChars 10 ds 0, cs.drop ds.length)

/-- A number with a sign has any count of digits, one without has at most four. -/
def readYear (cs : List Char) : Option (Int × List Char) :=
  match Text.dropBlanks cs with
  | '-' :: cs => (readNat cs.length cs).map fun (n, cs) => (-n, cs)
  | '+' :: cs => (readNat cs.length cs).map fun (n, cs) => (n, cs)
  | cs => (readNat 4 cs).map fun (n, cs) => (n, cs)

/-- One or two digits, from `low` to `high`. -/
def readPart (low high : Nat) (cs : List Char) : Option (Nat × List Char) := do
  let (n, cs) ← readNat 2 (Text.dropBlanks cs)
  if low ≤ n ∧ n ≤ high then some (n, cs) else none

/-- The mark `c`, with blanks before it. -/
def readMark (c : Char) (cs : List Char) : Option (List Char) :=
  match Text.dropBlanks cs with
  | c' :: cs => if c' = c then some cs else none
  | [] => none

/-- A fraction of a second in nanoseconds; digits after the ninth are dropped. -/
def readFraction : List Char → Option (Nat × List Char)
  | '.' :: cs => do
    let (n, rest) ← readNat 9 cs
    return (n * Nat.pow 10 (9 - (cs.length - rest.length)), rest.dropWhile Char.isDigit)
  | cs => some (0, cs)

/-- Hours and minutes of an offset after its sign, in seconds. -/
def readOffset (cs : List Char) : Option (Int × List Char) :=
  match cs with
  | h₁ :: h₂ :: cs =>
    match cs.dropWhile fun c => c = ':' || Text.isBlank c with
    | m₁ :: m₂ :: cs =>
      if [h₁, h₂, m₁, m₂].all Char.isDigit ∧ m₁ ≤ '5' then
        some (Nat.ofDigitChars 10 [h₁, h₂] 0 * 3600 + Nat.ofDigitChars 10 [m₁, m₂] 0 * 60, cs)
      else none
    | _ => none
  | _ => none

/-- A zone: `Z`, `UTC` or an offset, in seconds east of UTC. -/
def readZone (cs : List Char) : Option (Int × List Char) :=
  match cs with
  | 'Z' :: cs | 'z' :: cs => some (0, cs)
  | '+' :: cs => readOffset cs
  | '-' :: cs | '\u2212' :: cs => (readOffset cs).map fun (s, cs) => (-s, cs)
  | u :: t :: c :: cs => if [u, t, c].map Char.toUpper = ['U', 'T', 'C'] then some (0, cs) else none
  | _ => none

/-- The instant that is written, with an offset to be taken off. -/
def ofChars? (cs : List Char) : Option Instant := do
  let (year, cs) ← readYear cs
  let cs ← readMark '-' cs
  let (month, cs) ← readPart 1 12 cs
  let cs ← readMark '-' cs
  let (day, cs) ← readPart 1 31 cs
  let cs ← match cs with
    | 'T' :: cs | 't' :: cs | ' ' :: cs => some cs
    | _ => none
  let (hour, cs) ← readPart 0 23 cs
  let cs ← readMark ':' cs
  let (minute, cs) ← readPart 0 59 cs
  let cs ← readMark ':' cs
  let (second, cs) ← readPart 0 60 cs
  let (fraction, cs) ← readFraction cs
  let (offset, cs) ← readZone (Text.dropBlanks cs)
  let date : Date := ⟨year, month, day⟩
  let midnight ← if date.IsValid then of? (date.toDays * secondsPerDay) 0 else none
  let _ ← if Text.dropBlanks cs = [] ∧ offset.natAbs < 86400 then some () else none
  let inDay := hour * 3600 + minute * 60 + min second 59
  of? (midnight.second + inDay - offset) (fraction + if second = 60 then 1000000000 else 0)

/-- The instant that a text tells. -/
def ofText? (s : String) : Option Instant := ofChars? s.toList

end Instant

/-! ### Spans -/

/-- A span of `n` seconds. -/
def seconds (n : Int) : Int := n * nanosPerSecond

/-- A span of `n` milliseconds. -/
def millis (n : Int) : Int := n * nanosPerMilli

/-- Whole seconds of a span, rounded toward zero. -/
def wholeSeconds (span : Int) : Int := span.tdiv nanosPerSecond

/-- The longest span, in milliseconds. -/
def longestMillis : Int := 9223372036854775807

/-- There is a span of so many nanoseconds, forward or backward. -/
def IsSpan (n : Int) : Prop := n.natAbs ≤ (millis longestMillis).natAbs

instance (n : Int) : Decidable (IsSpan n) := by
  unfold IsSpan
  infer_instance

/-- The number as a signed one of 64 bits, if it fits. -/
def signed? (n : UInt64) : Option Int64 :=
  if n.toNat ≤ Int64.maxValue.toInt then some (Int64.ofNat n.toNat) else none

/-- A span of so many seconds, if there is one so long. -/
def spanOfSeconds? (n : Int64) : Option Int :=
  if IsSpan (seconds n.toInt) then some (seconds n.toInt) else none

/-- A span of so many seconds, or the longest one if there is none so long. -/
def secondsAtMost (n : UInt64) : Int :=
  ((signed? n).bind spanOfSeconds?).getD (millis longestMillis)

end Dialogue.Time
