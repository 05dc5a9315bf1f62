import Dialogue.Time.Calendar

/-! # Days and dates correspond

    Every day has a date (`isValid_ofDays`) and is the day of its date (`toDays_ofDays`). A year of
    the calendar is a cycle of 400 years, a century in it, a group of four years and a year of the
    group; the days before it are counted part by part (`yearStart_parts`). -/

namespace Dialogue.Time.Date

/-! ### Years from March -/

theorem yearStart_parts {q c g k : Int} (hc : 0 ≤ c ∧ c ≤ 3) (hg : 0 ≤ g ∧ g ≤ 24)
    (hk : 0 ≤ k ∧ k ≤ 3) :
    yearStart (400 * q + 100 * c + 4 * g + k) = 146097 * q + 36524 * c + 1461 * g + 365 * k := by
  have hfour : (400 * q + 100 * c + 4 * g + k) / 4 = 100 * q + 25 * c + g := by omega
  have hhundred : (400 * q + 100 * c + 4 * g + k) / 100 = 4 * q + c := by omega
  have hcycle : (400 * q + 100 * c + 4 * g + k) / 400 = q := by omega
  rw [yearStart, hfour, hhundred, hcycle]
  omega

/-- The parts of the year a day falls in, and the day of the year. -/
theorem yearOf_parts (n : Int) : ∃ q c g k d, yearOf n = 400 * q + 100 * c + 4 * g + k ∧
    (0 ≤ c ∧ c ≤ 3) ∧ (0 ≤ g ∧ g ≤ 24) ∧ (0 ≤ k ∧ k ≤ 3) ∧
    n = 146097 * q + 36524 * c + 1461 * g + 365 * k + d ∧ 0 ≤ d ∧ d ≤ 365 ∧
    -- A year has 366 days only as the last of a group whose leap day is not missing.
    (d = 365 → k = 3 ∧ (g = 24 → c = 3)) := by
  let inCycle := n % 146097
  let c := min (inCycle / 36524) 3
  let inCentury := inCycle - 36524 * c
  let k := min (inCentury % 1461 / 365) 3
  refine ⟨n / 146097, c, inCentury / 1461, k, inCentury % 1461 - 365 * k, rfl, ?_⟩
  have hcycle : 0 ≤ inCycle ∧ inCycle < 146097 := by omega
  have hc : 0 ≤ c ∧ c ≤ 3 := by omega
  have hcentury : 0 ≤ inCentury ∧ (c < 3 → inCentury < 36524) ∧ inCentury ≤ 36524 := by omega
  refine ⟨hc, ?_, ?_, ?_, ?_, ?_, ?_⟩ <;> omega

theorem dayOfYear_bounds (n : Int) :
    0 ≤ n - yearStart (yearOf n) ∧ n - yearStart (yearOf n) ≤ 365 ∧
      (n - yearStart (yearOf n) = 365 → isLeap (yearOf n + 1)) := by
  obtain ⟨q, c, g, k, d, hy, hc, hg, hk, hn, hd, hd', hleap⟩ := yearOf_parts n
  have hday : n - yearStart (yearOf n) = d := by
    rw [hy, yearStart_parts hc hg hk]
    omega
  rw [hday]
  refine ⟨hd, hd', ?_⟩
  intro h
  obtain ⟨rfl, hlast⟩ := hleap h
  simp only [isLeap, hy, Bool.and_eq_true, Bool.or_eq_true, decide_eq_true_eq]
  omega

/-! ### Months from March -/

theorem monthOf_bounds {d : Int} (h : 0 ≤ d) (h' : d ≤ 365) : 0 ≤ monthOf d ∧ monthOf d ≤ 11 := by
  simp only [monthOf]
  omega

theorem lt_monthStart_monthOf (d : Int) : d < monthStart (monthOf d + 1) := by
  simp only [monthStart, monthOf]
  omega

/-- From March to December the next month begins when the days of the month are over. -/
theorem monthStart_succ (year : Int) {m : Int} (hm : 0 ≤ m) (hm' : m < 10) :
    monthStart (m + 1) = monthStart m + daysInMonth year (m + 3).toNat := by
  have hcases : m = 0 ∨ m = 1 ∨ m = 2 ∨ m = 3 ∨ m = 4 ∨ m = 5 ∨ m = 6 ∨ m = 7 ∨ m = 8 ∨ m = 9 := by
    omega
  rcases hcases with rfl | rfl | rfl | rfl | rfl | rfl | rfl | rfl | rfl | rfl <;> rfl

/-! ### Days -/

/-- Every day is the day of its date. -/
theorem toDays_ofDays (n : Int) : (ofDays n).toDays = n := by
  obtain ⟨hlow, hhigh, -⟩ := dayOfYear_bounds (n + epoch)
  obtain ⟨hm, hm'⟩ := monthOf_bounds hlow hhigh
  have hday := monthStart_monthOf_le (n + epoch - yearStart (yearOf (n + epoch)))
  simp only [ofDays]
  -- the year begins in March, and is a name from here on
  generalize hy : yearOf (n + epoch) = y at *
  generalize hd : n + epoch - yearStart y = d at *
  generalize hmonth : monthOf d = m at *
  split
  -- March to December
  · have hnot : ¬ (m + 3).toNat ≤ 2 := by omega
    have hback : ((m + 3).toNat : Int) - 3 = m := by omega
    simp only [toDays, hnot, if_false, hback]
    omega
  -- January and February of the next year
  · have hle : (m - 9).toNat ≤ 2 := by omega
    have hback : ((m - 9).toNat : Int) + 9 = m := by omega
    have hyear : y + 1 - 1 = y := by omega
    simp only [toDays, hle, if_true, hback, hyear]
    omega

/-- Every day has a date. -/
theorem isValid_ofDays (n : Int) : (ofDays n).IsValid := by
  obtain ⟨hlow, hhigh, hleap⟩ := dayOfYear_bounds (n + epoch)
  obtain ⟨hm, hm'⟩ := monthOf_bounds hlow hhigh
  have hday := monthStart_monthOf_le (n + epoch - yearStart (yearOf (n + epoch)))
  have hnext := lt_monthStart_monthOf (n + epoch - yearStart (yearOf (n + epoch)))
  simp only [ofDays]
  generalize yearOf (n + epoch) = y at *
  generalize n + epoch - yearStart y = d at *
  generalize monthOf d = m at *
  split
  -- March to December
  · rename_i hlt
    have hdays := monthStart_succ y hm hlt
    refine ⟨?_, ?_, ?_, ?_⟩
    all_goals
      simp only
      omega
  -- January and February
  · rename_i hge
    rcases (by omega : m = 10 ∨ m = 11) with rfl | rfl
    · have hjanuary : daysInMonth (y + 1) 1 = 31 := rfl
      have hdays : monthStart (10 + 1) = monthStart 10 + 31 := rfl
      refine ⟨?_, ?_, ?_, ?_⟩
      all_goals
        simp only [Int.reduceSub, Int.reduceToNat, hjanuary]
        omega
    · have hfirst : monthStart 11 = 337 := rfl
      -- February has a 29th day only if the year has a 366th.
      have hlast : d - 336 ≤ daysInMonth (y + 1) 2 := by
        change d - 336 ≤ ((if isLeap (y + 1) then 29 else 28 : Nat) : Int)
        split
        · omega
        · rename_i hcommon
          have hd : d ≠ 365 := by
            intro h
            exact hcommon (hleap h)
          omega
      refine ⟨?_, ?_, ?_, ?_⟩
      all_goals
        simp only [Int.reduceSub, Int.reduceToNat]
        omega

end Dialogue.Time.Date
