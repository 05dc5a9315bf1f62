import Dialogue.Memory.Fact
import Dialogue.Proofs.Time.Spans

/-! # When a fact is stale

    A fact is stale when more time than allowed lies between its writing and now. There is a span
    between any two instants, in either order, and none is as long as the longest one, so an age
    that is too long for a span is compared like any other (`isStale_iff`). Outside leap seconds
    whole numbers of nanoseconds are compared, and what is stale stays so as time goes on and for
    every shorter age (`staleness_is_exact`). -/

namespace Dialogue.Memory

open Json Time

namespace Fact

variable {f : Fact} {maxAge shorter : UInt64} {now later : Instant}

/-- Written longer ago than so many seconds, whatever their number. -/
theorem isStale_iff : f.isStale maxAge now = true ↔ ∃ t, f.updatedAt = some t ∧
    seconds maxAge.toNat < now.since t := by
  unfold isStale
  cases hwritten : f.updatedAt with
  | none => simp
  | some t =>
    rw [decide_eq_true_eq, secondsAtMost_lt_since_iff]
    simp

/-- Not written within a leap second. -/
def Regular (f : Fact) : Prop := ∀ t ∈ f.updatedAt, t.isLeap = false

theorem Regular.isStale_iff (hf : f.Regular) (hnow : now.isLeap = false) :
    f.isStale maxAge now = true ↔
    ∃ t, f.updatedAt = some t ∧ seconds maxAge.toNat < now.nanos - t.nanos := by
  rw [Fact.isStale_iff]
  refine exists_congr fun t => and_congr_right fun ht => ?_
  rw [since_eq hnow (hf t ht)]

/-- Neither time nor a shorter age makes it fresh again. -/
theorem Regular.isStale_mono (hf : f.Regular) (hnow : now.isLeap = false)
    (hlater : later.isLeap = false) (hrank : now.rank ≤ later.rank) (hshorter : shorter ≤ maxAge)
    (h : f.isStale maxAge now = true) :
    f.isStale shorter later = true := by
  obtain ⟨t, ht, hage⟩ := (hf.isStale_iff hnow).1 h
  refine (hf.isStale_iff hlater).2 ⟨t, ht, ?_⟩
  have hnanos := nanos_le_of_rank_le hnow hrank
  have hseconds : shorter.toNat ≤ maxAge.toNat := UInt64.le_iff_toNat_le.1 hshorter
  simp only [seconds, nanosPerSecond] at hage ⊢
  omega

/-- A fact is stale exactly when the nanoseconds since its writing are more than those of the age
    allowed, for all ages of 64 bits and all instants outside leap seconds. Both spans that are
    compared exist, so nothing is cut off but an age that nothing reaches. Once stale, it is so at
    every later instant and for every shorter age. -/
theorem staleness_is_exact (f : Fact) (maxAge : UInt64) (now : Instant) (hf : f.Regular)
    (hnow : now.isLeap = false) :
    (f.isStale maxAge now = true ↔ ∃ t, f.updatedAt = some t ∧
        seconds maxAge.toNat < now.nanos - t.nanos) ∧
      (IsSpan (secondsAtMost maxAge) ∧
        ∀ t ∈ f.updatedAt, IsSpan (now.since t) ∧ now.since t = now.nanos - t.nanos) ∧
      ∀ (later : Instant) (shorter : UInt64), later.isLeap = false → now.rank ≤ later.rank →
        shorter ≤ maxAge → f.isStale maxAge now = true → f.isStale shorter later = true := by
  refine ⟨hf.isStale_iff hnow, ⟨isSpan_secondsAtMost maxAge, fun t ht => ?_⟩,
    fun later shorter hlater hrank hshorter => ?_⟩
  · exact ⟨isSpan_since now t, since_eq hnow (hf t ht)⟩
  · exact hf.isStale_mono hnow hlater hrank hshorter

/-- A name that was written at the first instant of the calendar. -/
def oldest : Fact := .new (.string "Ada") "crm" "k1" ⟨firstSecond, 0, by decide⟩

/-- The last nanosecond of the calendar before a leap second. -/
def endOfTime : Instant := ⟨lastSecond, 999999999, by decide⟩

/-- At the other end of the calendar it is as old as can be, to the second. -/
theorem oldest_is_stale : oldest.Regular ∧ endOfTime.isLeap = false ∧
    oldest.isStale 16544868105599 endOfTime = true ∧ oldest.isStale 60 endOfTime = true ∧
    oldest.isStale 16544868105600 endOfTime = false := by
  have hregular : oldest.Regular := by
    rintro t ⟨⟩
    rfl
  have hend : endOfTime.isLeap = false := rfl
  obtain ⟨hiff, -, hstays⟩ := staleness_is_exact oldest 16544868105599 endOfTime hregular hend
  have hstale : oldest.isStale 16544868105599 endOfTime = true := hiff.2 ⟨_, rfl, by decide⟩
  exact ⟨hregular, hend, hstale,
    hstays endOfTime 60 hend (Int.le_refl _) (by decide) hstale, by decide⟩

end Fact

/-- No age of more seconds than a span has makes anything stale. -/
example : Fact.oldest.isStale 18446744073709551615 Fact.endOfTime = false := by decide

end Dialogue.Memory
