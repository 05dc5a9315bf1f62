import Dialogue.Time.Instant

/-! # Spans and the calendar

    The whole calendar is far shorter than the longest span. So between any two instants there is a
    span (`isSpan_since`), and to take the longest span for an age that no span reaches changes no
    comparison with it (`secondsAtMost_lt_since_iff`). Outside leap seconds a span is the difference
    of the nanoseconds (`since_eq`). -/

namespace Dialogue.Time

/-! ### Numbers of seconds -/

theorem longest_eq : millis longestMillis = 9223372036854775807000000 := by decide

theorem isSpan_iff {n : Int} : IsSpan n ↔ -millis longestMillis ≤ n ∧ n ≤ millis longestMillis := by
  rw [IsSpan, longest_eq]
  omega

theorem seconds_nonneg (n : Nat) : 0 ≤ seconds n :=
  Int.mul_nonneg (Int.natCast_nonneg n) (by decide)

theorem toInt_of_signed? {n : UInt64} {m : Int64} (h : signed? n = some m) : m.toInt = n.toNat := by
  unfold signed? at h
  split at h
  · rename_i hn
    cases h
    have hmax : Int64.maxValue.toInt = 9223372036854775807 := by decide
    exact Int64.toInt_ofNat_of_lt (by omega)
  · cases h

/-- So many seconds that they are no signed number are more than the longest span has. -/
theorem longest_lt_of_signed? {n : UInt64} (h : signed? n = none) :
    millis longestMillis < seconds n.toNat := by
  have hn : ¬ n.toNat ≤ Int64.maxValue.toInt := by simpa [signed?] using h
  have hmax : Int64.maxValue.toInt = 9223372036854775807 := by decide
  rw [longest_eq]
  simp only [seconds, nanosPerSecond]
  omega

/-- As many seconds, but no more than the longest span has. -/
theorem secondsAtMost_eq (n : UInt64) :
    secondsAtMost n = min (seconds n.toNat) (millis longestMillis) := by
  unfold secondsAtMost
  cases hm : signed? n with
  | none =>
    have hlong := longest_lt_of_signed? hm
    rw [Option.bind_none, Option.getD_none, Int.min_eq_right (Int.le_of_lt hlong)]
  | some m =>
    rw [Option.bind_some, spanOfSeconds?, toInt_of_signed? hm]
    split
    · rename_i hspan
      rw [Option.getD_some, Int.min_eq_left (isSpan_iff.1 hspan).2]
    · rename_i hspan
      have hlong : millis longestMillis ≤ seconds n.toNat := by
        have hpositive := seconds_nonneg n.toNat
        rw [isSpan_iff, longest_eq] at hspan
        rw [longest_eq]
        omega
      rw [Option.getD_none, Int.min_eq_right hlong]

theorem isSpan_secondsAtMost (n : UInt64) : IsSpan (secondsAtMost n) := by
  have hpositive := seconds_nonneg n.toNat
  rw [isSpan_iff, secondsAtMost_eq, longest_eq]
  omega

/-! ### Between instants -/

/-- No span is longer than the calendar with the leap seconds at its ends. -/
theorem since_bounds (t s : Instant) : seconds (firstSecond - lastSecond - 3) ≤ t.since s ∧
    t.since s ≤ seconds (lastSecond - firstSecond + 3) := by
  obtain ⟨htfirst, htlast, htnano⟩ := t.inCalendar
  obtain ⟨hsfirst, hslast, hsnano⟩ := s.inCalendar
  simp only [Instant.since, Instant.nanos, seconds, nanosPerSecond]
  split
  · omega
  · split <;> omega

theorem since_lt_longest (t s : Instant) :
    -millis longestMillis < t.since s ∧ t.since s < millis longestMillis := by
  have hbounds := since_bounds t s
  simp only [seconds, firstSecond, lastSecond, nanosPerSecond] at hbounds
  rw [longest_eq]
  omega

/-- Between any two instants there is a span, in either order. -/
theorem isSpan_since (t s : Instant) : IsSpan (t.since s) := by
  obtain ⟨hbackward, hforward⟩ := since_lt_longest t s
  exact isSpan_iff.2 ⟨Int.le_of_lt hbackward, Int.le_of_lt hforward⟩

/-- To be longer than the longest span is as impossible as to be longer than what it stands for. -/
theorem secondsAtMost_lt_since_iff (n : UInt64) (t s : Instant) :
    secondsAtMost n < t.since s ↔ seconds n.toNat < t.since s := by
  have hforward := (since_lt_longest t s).2
  rw [secondsAtMost_eq]
  omega

variable {t s : Instant}

theorem since_eq (ht : t.isLeap = false) (hs : s.isLeap = false) :
    t.since s = t.nanos - s.nanos := by
  simp [Instant.since, ht, hs]

/-- Outside leap seconds the nanoseconds do not go back. -/
theorem nanos_le_of_rank_le (hs : s.isLeap = false) (h : s.rank ≤ t.rank) : s.nanos ≤ t.nanos := by
  have hsnano : s.nano < 1000000000 := by simpa [Instant.isLeap] using hs
  have htnano := t.inCalendar.2.2
  simp only [Instant.rank, Instant.nanos, nanosPerSecond] at h ⊢
  omega

end Dialogue.Time
