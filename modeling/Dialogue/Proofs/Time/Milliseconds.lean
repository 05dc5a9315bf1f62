import Dialogue.Proofs.Time.Spans

/-! # Whole milliseconds

    Between instants of whole milliseconds the count of milliseconds since 1970 says which is
    earlier, as long as none lies within a leap second: its milliseconds are counted once more
    after it (`millis_le_iff`). Time that is added in whole milliseconds leads to such an
    instant again (`Whole.add`). -/

namespace Dialogue.Time.Instant

/-- A whole millisecond, and not within a leap second. -/
structure Whole (t : Instant) : Prop where
  regular : t.isLeap = false
  whole : t.nano % 1000000 = 0

theorem Whole.nano_lt {t : Instant} (h : t.Whole) : t.nano < 1000000000 := by
  simpa [isLeap] using h.regular

/-- The milliseconds put whole instants in the order of time. -/
theorem millis_le_iff {a b : Instant} (ha : a.Whole) (hb : b.Whole) :
    a.millis ≤ b.millis ↔ a.rank ≤ b.rank := by
  have hana := ha.nano_lt
  have hbnb := hb.nano_lt
  have hawhole := ha.whole
  have hbwhole := hb.whole
  simp only [millis, rank, nanos, nanosPerSecond, nanosPerMilli]
  omega

/-- They do not go back but after a leap second. -/
theorem millis_le_of_rank_le {a b : Instant} (ha : a.isLeap = false) (h : a.rank ≤ b.rank) :
    a.millis ≤ b.millis :=
  Int.ediv_le_ediv (by decide) (nanos_le_of_rank_le ha h)

theorem of?_eq_some {second : Int} {nano : Nat} {t : Instant} (h : of? second nano = some t) :
    t.second = second ∧ t.nano = nano := by
  unfold of? at h
  split at h
  · cases h
    exact ⟨rfl, rfl⟩
  · cases h

theorem Whole.add {t u : Instant} {span : Int} (h : t.Whole) (hspan : span % nanosPerMilli = 0)
    (hu : t.add? span = some u) : u.Whole := by
  have hwhole := h.whole
  have hnotLeap := h.regular
  simp only [add?, hnotLeap, Bool.false_eq_true, false_and, if_false, ofNanos?] at hu
  obtain ⟨-, hnano⟩ := of?_eq_some hu
  simp only [nanos, nanosPerSecond, nanosPerMilli] at hnano hspan
  constructor
  · simp only [isLeap, decide_eq_false_iff_not]
    omega
  · omega

end Dialogue.Time.Instant
