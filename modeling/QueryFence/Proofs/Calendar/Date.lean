import QueryFence.Calendar.Date

/-!
Counting days: every day from the first of the year 1 to the last of the year 9999 has a date, and the
number of that date is the day.
-/

namespace QueryFence.Date

/-- The number of the last day that has a date. -/
def lastNumber : Nat := 3652059

/-- A month of a year that has so many days. -/
structure IsDay (year month day : Nat) : Prop where
  month_pos : 1 ≤ month
  month_le : month ≤ 12
  day_pos : 1 ≤ day
  day_le : day ≤ daysInMonth year month

theorem daysBeforeMonth_succ (year : Nat) {month : Nat} (h : 1 ≤ month) :
    daysBeforeMonth year (month + 1) = daysBeforeMonth year month + daysInMonth year month := by
  cases month with
  | zero => omega
  | succ month => rfl

/-- A year has 365 days, a leap year one more. -/
theorem daysBeforeMonth_end (year : Nat) :
    daysBeforeMonth year 13 = if isLeap year then 366 else 365 := by
  cases h : isLeap year <;> simp [daysBeforeMonth, daysInMonth, h]

/-- Walking over the months keeps the day of the year, and ends on a day that its month has. -/
theorem findMonth_spec (year fuel month day : Nat) (hmonth : 1 ≤ month) (hfuel : month + fuel = 12)
    (hday : 1 ≤ day) (hend : daysBeforeMonth year month + day ≤ daysBeforeMonth year 13) :
    (findMonth year fuel month day).year = year ∧
      IsDay year (findMonth year fuel month day).month (findMonth year fuel month day).day ∧
      daysBeforeMonth year (findMonth year fuel month day).month +
        (findMonth year fuel month day).day = daysBeforeMonth year month + day := by
  induction fuel generalizing month day with
  | zero =>
    have h12 : month = 12 := by omega
    subst h12
    have hlast : daysBeforeMonth year 13 = daysBeforeMonth year 12 + daysInMonth year 12 :=
      daysBeforeMonth_succ year (by omega)
    exact ⟨rfl, ⟨by simp [findMonth], by simp [findMonth], hday, by
      simp only [findMonth]
      omega⟩, rfl⟩
  | succ fuel ih =>
    have hnext := daysBeforeMonth_succ year hmonth
    simp only [findMonth]
    split
    · rename_i hlong
      obtain ⟨hyear, hvalid, hsum⟩ :=
        ih (month + 1) (day - daysInMonth year month) (by omega) (by omega) (by omega) (by omega)
      exact ⟨hyear, hvalid, by omega⟩
    · rename_i hshort
      exact ⟨rfl, ⟨hmonth, by simp only; omega, hday, by simpa using hshort⟩, rfl⟩

/-- The parts of a numbered day: the year it falls in, and the day of that year counted from 0. -/
structure IsSplit (number year day : Nat) : Prop where
  year_pos : 1 ≤ year
  year_le : year ≤ 9999
  sum : daysBeforeYear year + day + 1 = number
  day_le : day ≤ 364 ∨ (day = 365 ∧ isLeap year = true)

/-- The days of whole cycles of 400, 100 and 4 years and of the years behind them. -/
theorem daysBeforeYear_cycles {a c q y : Nat} (hc : c ≤ 3) (hq : q ≤ 24) (hy : y ≤ 3) :
    daysBeforeYear (a * 400 + c * 100 + q * 4 + y + 1) =
      a * 146097 + c * 36524 + q * 1461 + y * 365 := by
  simp only [daysBeforeYear]
  omega

/-- No day of a later year has a date. -/
theorem lastNumber_le_daysBeforeYear {year : Nat} (h : 10000 ≤ year) :
    lastNumber ≤ daysBeforeYear year := by
  simp only [lastNumber, daysBeforeYear]
  omega

theorem isLeap_cycles {a c q y : Nat} (hq : q ≤ 24) (hy : y = 3)
    (hend : q ≤ 23 ∨ c = 3) : isLeap (a * 400 + c * 100 + q * 4 + y + 1) = true := by
  simp only [isLeap, Bool.and_eq_true, Bool.or_eq_true, beq_iff_eq, bne_iff_ne]
  omega

theorem ofNumber_split {n : Nat} (hn : 1 ≤ n) (hlast : n ≤ lastNumber) :
    ∃ year day, ofNumber n = findMonth year 11 1 (day + 1) ∧ IsSplit n year day := by
  -- The last cycle of 100 or of 1 year may be a day longer, which is why `min` stands at both.
  obtain ⟨a, ha⟩ : ∃ a, a = (n - 1) / 146097 := ⟨_, rfl⟩
  obtain ⟨r, hr⟩ : ∃ r, r = (n - 1) % 146097 := ⟨_, rfl⟩
  obtain ⟨c, hc⟩ : ∃ c, c = min 3 (r / 36524) := ⟨_, rfl⟩
  obtain ⟨s, hs⟩ : ∃ s, s = r - c * 36524 := ⟨_, rfl⟩
  obtain ⟨q, hq⟩ : ∃ q, q = s / 1461 := ⟨_, rfl⟩
  obtain ⟨u, hu⟩ : ∃ u, u = s % 1461 := ⟨_, rfl⟩
  obtain ⟨y, hy⟩ : ∃ y, y = min 3 (u / 365) := ⟨_, rfl⟩
  have hnumber : n = a * 146097 + r + 1 := by omega
  have hcentury : r = c * 36524 + s ∧ c ≤ 3 ∧ s ≤ 36524 ∧ (s = 36524 → c = 3) := by omega
  have hcycle : s = q * 1461 + u ∧ u ≤ 1460 ∧ q ≤ 24 := by omega
  have hyear : y ≤ 3 ∧ y * 365 ≤ u ∧ u - y * 365 ≤ 365 ∧ (u - y * 365 = 365 → y = 3) := by omega
  obtain ⟨hcr, hc3, hs3, hsc⟩ := hcentury
  obtain ⟨hsq, hu4, hq24⟩ := hcycle
  obtain ⟨hy3, hyu, hday, hlong⟩ := hyear
  have hsum : daysBeforeYear (a * 400 + c * 100 + q * 4 + y + 1) + (u - y * 365) + 1 = n := by
    rw [daysBeforeYear_cycles hc3 hq24 hy3]
    omega
  refine ⟨a * 400 + c * 100 + q * 4 + y + 1, u - y * 365, ?_, ?_, ?_, hsum, ?_⟩
  · subst hy hu hq hs hc hr ha
    rfl
  · exact Nat.le_add_left 1 _
  · refine Nat.le_of_not_lt fun hlate => ?_
    have hpast := lastNumber_le_daysBeforeYear hlate
    omega
  · by_cases hshort : u - y * 365 ≤ 364
    · exact .inl hshort
    · exact .inr ⟨by omega, isLeap_cycles hq24 (hlong (by omega)) (by omega)⟩

/-- What is known of the date of a numbered day. -/
theorem ofNumber_spec {n : Nat} (hn : 1 ≤ n) (hlast : n ≤ lastNumber) :
    (ofNumber n).isValid = true ∧ (ofNumber n).number = n := by
  obtain ⟨year, day, hof, hsplit⟩ := ofNumber_split hn hlast
  have hend : day + 1 ≤ daysBeforeMonth year 13 := by
    rw [daysBeforeMonth_end]
    rcases hsplit.day_le with h | ⟨h, hleap⟩
    · split <;> omega
    · rw [if_pos hleap]
      omega
  obtain ⟨hyear, hday, hsum⟩ := findMonth_spec year 11 1 (day + 1) (by omega) rfl (by omega)
    (by simpa [daysBeforeMonth] using hend)
  rw [hof]
  constructor
  · have h1 := hsplit.year_pos
    have h2 := hsplit.year_le
    obtain ⟨h3, h4, h5, h6⟩ := hday
    simp only [isValid, hyear, Bool.and_eq_true, decide_eq_true_eq]
    exact ⟨⟨⟨⟨⟨h1, h2⟩, h3⟩, h4⟩, h5⟩, h6⟩
  · have hsum1 := hsplit.sum
    have h1 : daysBeforeMonth year 1 = 0 := rfl
    rw [number, hyear]
    omega

end QueryFence.Date
