import Mathlib.Algebra.Group.Nat.Defs
import Dialogue.Time.Instant
import Dialogue.Proofs.Text.Digits
import Dialogue.Proofs.Time.Calendar

/-! # What the text of a timestamp tells

    The reader takes every part of the text as it was written (`ofText?_text`): the parts of the day
    have two digits, a year of another width has a sign, and a fraction has as many digits as it
    needs. A leap second at the end of a minute is the only one that is written as 60. One in the
    middle of a minute is written like the second after it, and is read as that
    (`Timestamp.asRead`); so exactly the instants among the timestamps are read back
    (`stamp_asRead_iff`). -/

namespace Dialogue.Time

theorem Timestamp.not_isInstant_iff (t : Timestamp) :
    ¬ t.IsInstant ↔ 1000000000 ≤ t.nano ∧ t.second % 60 ≠ 59 := by
  simp [Timestamp.IsInstant, OnClock, t.inCalendar]

/-- The instant that the text of the timestamp tells. -/
def Timestamp.asRead (t : Timestamp) : Instant :=
  if h : t.IsInstant then ⟨t.second, t.nano, h⟩
  else ⟨t.second + 1, t.nano - 1000000000, by
    obtain ⟨hlow, hhigh, hnano⟩ := t.inCalendar
    obtain ⟨hleap, hmiddle⟩ := t.not_isInstant_iff.1 h
    simp only [OnClock, InCalendar, firstSecond, lastSecond] at *
    omega⟩

theorem Timestamp.stamp_asRead_iff (t : Timestamp) : t.asRead.stamp = t ↔ t.IsInstant := by
  unfold Timestamp.asRead
  split
  · rename_i h
    simp only [h, iff_true]
    rfl
  · rename_i h
    simp only [h, iff_false]
    intro hsame
    have hsecond : t.second + 1 = t.second := congrArg Timestamp.second hsame
    omega

@[simp] theorem Instant.asRead_stamp (t : Instant) : t.stamp.asRead = t := by
  have h : t.stamp.IsInstant := t.onClock
  rw [Timestamp.asRead, dif_pos h]
  rfl

/-- In a leap second after 0:00:30 of 1 January 2025. -/
def Timestamp.midMinute : Timestamp := ⟨1735689630, 1500000000, by decide⟩

example : Timestamp.midMinute.asRead = ⟨1735689631, 500000000, by decide⟩ := by decide

end Dialogue.Time

namespace Dialogue.Time.Instant

open Text Timestamp

/-! ### Padded numbers -/

theorem isDigit_padded (width n : Nat) : ∀ c ∈ padded width n, c.isDigit := by
  intro c hc
  rcases List.mem_append.1 hc with hc | hc
  · rw [(List.mem_replicate.1 hc).2]
    rfl
  · exact isDigit_toDigits n c hc

theorem padded_ne_nil (width n : Nat) : padded width n ≠ [] := by
  simp [padded, Nat.toDigits_ne_nil]

theorem ofDigitChars_padded (width n : Nat) : Nat.ofDigitChars 10 (padded width n) 0 = n := by
  simp [padded, Nat.ofDigitChars_append]

theorem length_padded {width n : Nat} (hw : 0 < width) (h : n < 10 ^ width) :
    (padded width n).length = width := by
  have hle := (Nat.length_toDigits_le_iff (b := 10) (by decide) hw).2 h
  simp only [padded, List.length_append, List.length_replicate]
  omega

theorem not_isBlank_of_isDigit {c : Char} (h : c.isDigit) : isBlank c = false := by
  have hc : 48 ≤ c.toNat ∧ c.toNat ≤ 57 := by simpa [Char.isDigit, UInt32.le_iff_toNat_le] using h
  simp only [isBlank, blankRanges, List.any_cons, List.any_nil, Bool.or_false, Bool.or_eq_false_iff,
    Bool.and_eq_false_iff, decide_eq_false_iff_not]
  omega

theorem dropBlanks_cons {c : Char} (h : isBlank c = false) (cs : List Char) :
    dropBlanks (c :: cs) = c :: cs := by
  simp [dropBlanks, h]

theorem dropBlanks_padded (width n : Nat) (rest : List Char) :
    dropBlanks (padded width n ++ rest) = padded width n ++ rest := by
  obtain ⟨c, cs, hcs⟩ := List.exists_cons_of_ne_nil (padded_ne_nil width n)
  rw [hcs, List.cons_append,
    dropBlanks_cons (not_isBlank_of_isDigit (isDigit_padded width n c (by simp [hcs])))]

/-- A number is read up to its last digit, which the width or the character behind it tells. -/
theorem readNat_append {most : Nat} {ds rest : List Char} (hne : ds ≠ [])
    (hds : ∀ c ∈ ds, c.isDigit) (hlen : ds.length ≤ most)
    (hrest : ds.length = most ∨ ∀ c ∈ rest.head?, c.isDigit = false) :
    readNat most (ds ++ rest) = some (Nat.ofDigitChars 10 ds 0, rest) := by
  have htake : (ds ++ rest).take most = ds ++ rest.take (most - ds.length) := by
    rw [List.take_append, List.take_of_length_le hlen]
  -- the digits end at the most that are taken, or at a character that is none
  have hhead : ∀ c ∈ (rest.take (most - ds.length)).head?, c.isDigit = false := by
    rw [List.head?_take]
    rcases hrest with hrest | hrest
    · simp [hrest]
    · split <;> simp_all
  rw [readNat, htake, takeWhile_digits hds hhead]
  cases ds with
  | nil => exact absurd rfl hne
  | cons d ds => simp

theorem readNat_padded {width : Nat} (n : Nat) (hw : 0 < width) (h : n < 10 ^ width)
    (rest : List Char) :
    readNat width (padded width n ++ rest) = some (n, rest) := by
  have hlen := length_padded hw h
  rw [readNat_append (padded_ne_nil width n) (isDigit_padded width n) (Nat.le_of_eq hlen)
    (.inl hlen), ofDigitChars_padded]

/-! ### The parts of an instant -/

theorem readPart_padded {low high n : Nat} (hlow : low ≤ n) (hhigh : n ≤ high) (h : n < 100)
    (rest : List Char) :
    readPart low high (padded 2 n ++ rest) = some (n, rest) := by
  rw [readPart, dropBlanks_padded, readNat_padded n (by decide) h]
  simp [hlow, hhigh]

theorem readMark_cons {c : Char} (h : isBlank c = false) (cs : List Char) :
    readMark c (c :: cs) = some cs := by
  simp [readMark, dropBlanks_cons h]

/-- A year with a sign has all digits up to the mark behind it. -/
theorem readNat_signed (n : Nat) (rest : List Char) :
    readNat (padded 4 n ++ '-' :: rest).length (padded 4 n ++ '-' :: rest) =
        some (n, '-' :: rest) := by
  rw [readNat_append (padded_ne_nil 4 n) (isDigit_padded 4 n) (by simp) (.inr (by simp)),
    ofDigitChars_padded]

theorem readYear_yearChars (y : Int) (rest : List Char) :
    readYear (yearChars y ++ '-' :: rest) = some (y, '-' :: rest) := by
  rw [yearChars]
  split
  · rename_i hy
    -- four digits and no sign
    obtain ⟨c, cs, hcs⟩ := List.exists_cons_of_ne_nil (padded_ne_nil 4 y.toNat)
    have hdigit := isDigit_padded 4 y.toNat c (by simp [hcs])
    have hread := readNat_padded y.toNat (by decide : 0 < 4) (by omega) ('-' :: rest)
    have hback : (y.toNat : Int) = y := by omega
    rw [readYear, dropBlanks_padded]
    rw [hcs] at hread ⊢
    split
    · simp_all
    · simp_all
    · rw [hread]
      simp [hback]
  · split
    -- a sign first, for years before 0
    · have hback : -(y.natAbs : Int) = y := by omega
      rw [List.cons_append, readYear, dropBlanks_cons (by decide)]
      simp only [readNat_signed, Option.map_some, hback]
    -- and for those with more digits
    · have hback : (y.natAbs : Int) = y := by omega
      rw [List.cons_append, readYear, dropBlanks_cons (by decide)]
      simp only [readNat_signed, Option.map_some, hback]

/-- The digits of a fraction, of which there are as many as its width. -/
theorem readFraction_padded {width n : Nat} (hw : 0 < width) (hw' : width ≤ 9) (h : n < 10 ^ width)
    (rest : List Char) :
    readFraction ('.' :: padded width n ++ 'Z' :: rest) =
        some (n * 10 ^ (9 - width), 'Z' :: rest) := by
  have hlen := length_padded hw h
  have hread : readNat 9 (padded width n ++ 'Z' :: rest) = some (n, 'Z' :: rest) := by
    rw [readNat_append (padded_ne_nil width n) (isDigit_padded width n) (by omega) (.inr (by simp)),
      ofDigitChars_padded]
  simp [readFraction, hread, hlen]

theorem readFraction_fractionChars {n : Nat} (h : n < 1000000000) (rest : List Char) :
    readFraction (fractionChars n ++ 'Z' :: rest) = some (n, 'Z' :: rest) := by
  rw [fractionChars]
  split
  · simp_all [readFraction]
  · split
    · have hback : n / 1000000 * 10 ^ (9 - 3) = n := by omega
      rw [readFraction_padded (by decide) (by decide) (by omega), hback]
    · split
      · have hback : n / 1000 * 10 ^ (9 - 6) = n := by omega
        rw [readFraction_padded (by decide) (by decide) (by omega), hback]
      · rw [readFraction_padded (by decide) (by decide) (by omega)]
        simp

/-! ### Instants -/

theorem of?_self (t : Instant) : of? t.second t.nano = some t := by
  rw [of?, dif_pos t.onClock]

/-- Midnight of a day of the calendar is an instant. -/
theorem midnight_onClock {second : Int} {nano : Nat} (h : InCalendar second nano) :
    OnClock (second / secondsPerDay * secondsPerDay) 0 := by
  obtain ⟨hlow, hhigh, -⟩ := h
  simp only [OnClock, InCalendar, firstSecond, lastSecond, secondsPerDay] at *
  omega

/-- The parts of a second of the day make up the second that is read. -/
theorem asRead_parts (t : Timestamp) {s : Nat} (hs : s = (t.second % secondsPerDay).toNat) :
    t.second / secondsPerDay * secondsPerDay +
        (s / 3600 * 3600 + s / 60 % 60 * 60 + min (s % 60 + t.nano / 1000000000) 59 : Nat) =
            t.asRead.second ∧
      (t.nano % 1000000000 + if s % 60 + t.nano / 1000000000 = 60 then 1000000000 else 0) =
          t.asRead.nano := by
  obtain ⟨-, -, hnano⟩ := t.inCalendar
  unfold Timestamp.asRead
  simp only [secondsPerDay] at *
  split
  · -- a leap second counts as the second before it
    rename_i h
    have hleap := h.2
    dsimp only
    constructor
    · omega
    · split <;> omega
  · rename_i h
    obtain ⟨hleap, hmiddle⟩ := t.not_isInstant_iff.1 h
    dsimp only
    constructor
    · omega
    · split <;> omega

/-- What is made of the parts of a text. -/
theorem ofChars?_parts {date : Date} {hour minute second fraction : Nat} (hdate : date.IsValid)
    (hhour : hour ≤ 23) (hminute : minute ≤ 59) (hsecond : second ≤ 60)
    (hfraction : fraction < 1000000000) :
    ofChars? (yearChars date.year ++ '-' :: padded 2 date.month ++ '-' :: padded 2 date.day ++
        'T' :: padded 2 hour
        ++ ':' :: padded 2 minute ++ ':' :: padded 2 second ++ fractionChars fraction ++ ['Z']) =
      (of? (date.toDays * secondsPerDay) 0).bind fun midnight =>
        of? (midnight.second + (hour * 3600 + minute * 60 + min second 59 : Nat))
          (fraction + if second = 60 then 1000000000 else 0) := by
  have hvalid := hdate
  obtain ⟨hmonth, hmonth', hday, hday'⟩ := hdate
  have hmost : Date.daysInMonth date.year date.month ≤ 31 := by
    rw [Date.daysInMonth]
    split
    · split <;> omega
    · split <;> omega
  -- Part by part: the reader goes on in three ways after the day, so it is too large to simplify as
  -- a whole.
  simp only [List.append_assoc, List.cons_append]
  rw [ofChars?, readYear_yearChars, Option.bind_eq_bind, Option.bind_some]
  dsimp only
  rw [readMark_cons (c := '-') (by decide), Option.bind_eq_bind, Option.bind_some]
  rw [readPart_padded hmonth hmonth' (by omega), Option.bind_eq_bind, Option.bind_some]
  dsimp only
  rw [readMark_cons (c := '-') (by decide), Option.bind_eq_bind, Option.bind_some]
  rw [readPart_padded hday (by omega) (by omega), Option.bind_eq_bind, Option.bind_some]
  -- the mark between the day and the time
  change (some _).bind _ = _
  rw [Option.bind_some, readPart_padded (Nat.zero_le _) hhour (by omega), Option.bind_some]
  dsimp only
  rw [readMark_cons (c := ':') (by decide), Option.bind_some]
  rw [readPart_padded (Nat.zero_le _) hminute (by omega), Option.bind_some]
  dsimp only
  rw [readMark_cons (c := ':') (by decide), Option.bind_some]
  rw [readPart_padded (Nat.zero_le _) hsecond (by omega), Option.bind_some]
  dsimp only
  rw [readFraction_fractionChars hfraction, Option.bind_some]
  dsimp only
  rw [dropBlanks_cons (by decide), readZone, Option.bind_some]
  dsimp only
  rw [if_pos hvalid]
  simp [dropBlanks]

/-- The text of a timestamp is read as the instant that it tells. -/
theorem ofText?_text (t : Timestamp) : ofText? t.text = some t.asRead := by
  have hparts := asRead_parts t rfl
  have hday : 0 ≤ t.second % secondsPerDay ∧ t.second % secondsPerDay < 86400 := by
    simp only [secondsPerDay]
    omega
  obtain ⟨-, -, hnano⟩ := t.inCalendar
  rw [ofText?, Timestamp.text, String.toList_ofList, chars]
  rw [ofChars?_parts (Date.isValid_ofDays _) (by omega) (by omega) (by omega) (by omega),
    Date.toDays_ofDays, of?, dif_pos (midnight_onClock t.inCalendar)]
  simp only [Option.bind_some, hparts.1, hparts.2, of?_self]

end Dialogue.Time.Instant
