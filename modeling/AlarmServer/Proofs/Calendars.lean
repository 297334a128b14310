import AlarmServer.Calendar.Stamp

/-!
# Days and dates

A day is determined by its date: the date of every day is one of the calendar, and it is numbered
as that day. Years are counted from March here, so that the day a leap year has more comes last, and
a day is found by its year and its place in the year.
-/

namespace AlarmServer.Date

/-! ### Years from March -/

/-- Days before the year that starts in March of year `y`, counted from March of year 0. -/
def daysBefore (y : Int) : Int := 365 * y + y / 4 - y / 100 + y / 400

/-- The day `u` of the year that starts in March of year `y`, counted from 0. -/
def ofYearDay (y u : Int) : Date :=
  let month := if (5 * u + 2) / 153 < 10 then (5 * u + 2) / 153 + 3 else (5 * u + 2) / 153 - 9
  let day := u - (153 * ((5 * u + 2) / 153) + 2) / 5 + 1
  ⟨if month ≤ 2 then y + 1 else y, month.toNat, day.toNat⟩

/-- A later year has more days before it. -/
theorem daysBefore_mono {y z : Int} (h : y ≤ z) : daysBefore y ≤ daysBefore z := by
  unfold daysBefore
  omega

/-- A year ends with the February of the next, which may be that of a leap year. -/
theorem daysBefore_succ (y : Int) :
    daysBefore (y + 1) = daysBefore y + if isLeapYear (y + 1) then 366 else 365 := by
  unfold daysBefore
  split
  · next leap =>
    simp only [isLeapYear, Bool.or_eq_true, Bool.and_eq_true, decide_eq_true_eq] at leap
    omega
  · next common =>
    simp only [isLeapYear, Bool.or_eq_true, Bool.and_eq_true, decide_eq_true_eq] at common
    omega

/-- The place of a day in a year. -/
theorem le_of_daysBefore {y u : Int} (h : daysBefore y + u < daysBefore (y + 1)) : u ≤ 365 := by
  rw [daysBefore_succ] at h
  split at h <;> omega

/-- Four centuries have always as many days. -/
theorem daysBefore_add_cycles (y c : Int) :
    daysBefore (y + c * 400) = daysBefore y + c * 146097 := by
  have leap : (y + c * 400) / 4 = y / 4 + c * 100 := by omega
  have century : (y + c * 400) / 100 = y / 100 + c * 4 := by omega
  have cycle : (y + c * 400) / 400 = y / 400 + c := by omega
  rw [daysBefore, daysBefore, leap, century, cycle]
  omega

/-- A day of four centuries has a century, a leap cycle and a year of the cycle. The last day of
four centuries belongs to the last century, and the last one of a leap cycle to its last year. -/
theorem exists_parts {d : Int} (h0 : 0 ≤ d) (h1 : d < 146097) :
    ∃ b q t u : Int, (0 ≤ b ∧ b ≤ 3) ∧ (0 ≤ q ∧ q ≤ 24) ∧ (0 ≤ t ∧ t ≤ 3) ∧
      d = 36524 * b + 1461 * q + 365 * t + u ∧ 0 ≤ u ∧
        (u ≤ 364 ∨ u = 365 ∧ t = 3 ∧ (q < 24 ∨ b = 3)) := by
  obtain ⟨b, r, hb, hr⟩ : ∃ b r : Int, (0 ≤ b ∧ b ≤ 3) ∧ d = 36524 * b + r ∧ 0 ≤ r ∧
      (r < 36524 ∨ b = 3 ∧ r = 36524) := by
    by_cases last : d = 146096
    · exact ⟨3, 36524, by omega, by omega⟩
    · exact ⟨d / 36524, d % 36524, by omega, by omega⟩
  obtain ⟨t, u, ht, hu⟩ : ∃ t u : Int, (0 ≤ t ∧ t ≤ 3) ∧ r % 1461 = 365 * t + u ∧ 0 ≤ u ∧
      (u ≤ 364 ∨ u = 365 ∧ t = 3) := by
    by_cases last : r % 1461 = 1460
    · exact ⟨3, 365, by omega, by omega⟩
    · exact ⟨r % 1461 / 365, r % 1461 % 365, by omega, by omega⟩
  exact ⟨b, r / 1461, t, u, hb, by omega, ht, by omega, by omega, by omega⟩

/-- The year of a day of four centuries: as many days as leap days went by before are left out. -/
theorem exists_year {d : Int} (h0 : 0 ≤ d) (h1 : d < 146097) :
    ∃ y : Int, (0 ≤ y ∧ y < 400) ∧ (d - d / 1460 + d / 36524 - d / 146096) / 365 = y ∧
      daysBefore y ≤ d ∧ d < daysBefore (y + 1) := by
  obtain ⟨b, q, t, u, hb, hq, ht, hd, hu0, hu⟩ := exists_parts h0 h1
  have low : daysBefore (100 * b + 4 * q + t) ≤ d := by
    have leap : (100 * b + 4 * q + t) / 4 = 25 * b + q := by omega
    have century : (100 * b + 4 * q + t) / 100 = b := by omega
    have cycle : (100 * b + 4 * q + t) / 400 = 0 := by omega
    rw [daysBefore, leap, century, cycle]
    omega
  have high : d < daysBefore (100 * b + 4 * q + t + 1) := by
    have century : (100 * b + 4 * q + t + 1) / 100 = b + if q = 24 ∧ t = 3 then 1 else 0 := by
      split <;> omega
    have cycle : (100 * b + 4 * q + t + 1) / 400 = if b = 3 ∧ q = 24 ∧ t = 3 then 1 else 0 := by
      split <;> omega
    rw [daysBefore, century, cycle]
    split <;> split <;> omega
  have centuries : d / 36524 - d / 146096 = b := by
    by_cases last : d = 146096
    · subst last
      omega
    · have century : d / 36524 = b := by omega
      omega
  -- In the last year of a leap cycle the leap day may already count as one that went by.
  have year : (d - d / 1460 + d / 36524 - d / 146096) / 365 = 100 * b + 4 * q + t := by
    by_cases early : 24 * b + q + 365 * t + u < 1460
    · have leapDays : d / 1460 = 25 * b + q := by omega
      omega
    · have leapDays : d / 1460 = 25 * b + q + 1 := by omega
      omega
  exact ⟨100 * b + 4 * q + t, by omega, year, low, high⟩

/-- Every day is the day of a year. -/
theorem ofDayNumber_eq (n : Int) :
    ∃ y u : Int, ofDayNumber n = ofYearDay y u ∧ n + 719468 = daysBefore y + u ∧ 0 ≤ u ∧
      daysBefore y + u < daysBefore (y + 1) := by
  obtain ⟨y, hy, year, low, high⟩ := @exists_year ((n + 719468) % 146097) (by omega) (by omega)
  have start := daysBefore_add_cycles y ((n + 719468) / 146097)
  have stop := daysBefore_add_cycles (y + 1) ((n + 719468) / 146097)
  rw [Int.add_right_comm] at stop
  have days : daysBefore y = 365 * y + y / 4 - y / 100 := by
    unfold daysBefore
    omega
  refine ⟨y + (n + 719468) / 146097 * 400, (n + 719468) % 146097 - daysBefore y, ?_, ?_, ?_, ?_⟩
  · simp only [ofDayNumber, ofYearDay, year, days]
  all_goals omega

/-! ### Dates of days -/

/-- The year of a date, counted from March. -/
def marchYear (d : Date) : Int := if d.month ≤ 2 then d.year - 1 else d.year

/-- A date is numbered by the days before its year and its place in the year. -/
theorem dayNumber_eq (d : Date) :
    d.dayNumber = daysBefore d.marchYear +
      ((153 * (((d.month : Int) + 9) % 12) + 2) / 5 + d.day - 1) - 719468 := by
  have cycles := daysBefore_add_cycles (d.marchYear % 400) (d.marchYear / 400)
  have year := Int.emod_add_mul_ediv d.marchYear 400
  rw [Int.mul_comm] at year
  have inCycle : daysBefore (d.marchYear % 400) =
      365 * (d.marchYear % 400) + d.marchYear % 400 / 4 - d.marchYear % 400 / 100 := by
    unfold daysBefore
    omega
  rw [year] at cycles
  rw [dayNumber, cycles, inCycle]
  simp only [marchYear]
  omega

/-- Month and day of the day of a year. -/
theorem ofYearDay_spec (y : Int) {u : Int} (h0 : 0 ≤ u) (h1 : u ≤ 365) :
    (ofYearDay y u).marchYear = y ∧ (1 ≤ (ofYearDay y u).month ∧ (ofYearDay y u).month ≤ 12) ∧
      (((ofYearDay y u).month : Int) + 9) % 12 = (5 * u + 2) / 153 ∧
      ((ofYearDay y u).day : Int) = u - (153 * ((5 * u + 2) / 153) + 2) / 5 + 1 := by
  obtain ⟨m, hm⟩ : ∃ m, (5 * u + 2) / 153 = m := ⟨_, rfl⟩
  have place : 0 ≤ m ∧ m ≤ 11 ∧ (153 * m + 2) / 5 ≤ u := by omega
  simp only [ofYearDay, marchYear, hm]
  by_cases early : m < 10
  · rw [if_pos early, if_neg (by omega), if_neg (by omega)]
    omega
  · rw [if_neg early, if_pos (by omega), if_pos (by omega)]
    omega

/-- The day of a year is numbered by the days before the year and its place. -/
theorem dayNumber_ofYearDay (y : Int) {u : Int} (h0 : 0 ≤ u) (h1 : u ≤ 365) :
    (ofYearDay y u).dayNumber = daysBefore y + u - 719468 := by
  obtain ⟨year, -, month, day⟩ := ofYearDay_spec y h0 h1
  rw [dayNumber_eq, year, month, day]
  omega

/-- A day of a year is a date of the calendar. -/
theorem isValid_ofYearDay {y u : Int} (h0 : 0 ≤ u) (h1 : daysBefore y + u < daysBefore (y + 1)) :
    (ofYearDay y u).isValid = true := by
  have short := le_of_daysBefore h1
  obtain ⟨year, bounds, month, day⟩ := ofYearDay_spec y h0 short
  generalize ofYearDay y u = d at *
  have fits : d.day ≤ daysInMonth d.year d.month := by
    unfold daysInMonth
    split
    · next february =>
      have next : d.year = y + 1 := by
        rw [marchYear, if_pos (by omega)] at year
        omega
      rw [daysBefore_succ] at h1
      rw [next]
      by_cases leap : isLeapYear (y + 1) = true
      · simp only [leap, if_true] at h1 ⊢
        omega
      · simp only [leap, Bool.false_eq_true, if_false] at h1 ⊢
        omega
    · split <;> omega
  have first : 1 ≤ d.day := by omega
  simp [isValid, bounds, fits, first]

/-- The date of a day is one of the calendar and has the number of the day. -/
theorem ofDayNumber_spec (n : Int) :
    (ofDayNumber n).isValid = true ∧ (ofDayNumber n).dayNumber = n := by
  obtain ⟨y, u, date, number, h0, h1⟩ := ofDayNumber_eq n
  have short := le_of_daysBefore h1
  rw [date]
  refine ⟨isValid_ofYearDay h0 h1, ?_⟩
  rw [dayNumber_ofYearDay y h0 short]
  omega

/-- The days from the first of January of a year on are those whose date has that year or a later
one. -/
theorem dayNumber_january_le_iff (year n : Int) :
    dayNumber ⟨year, 1, 1⟩ ≤ n ↔ year ≤ (ofDayNumber n).year := by
  obtain ⟨y, u, date, number, h0, h1⟩ := ofDayNumber_eq n
  have short := le_of_daysBefore h1
  have january : dayNumber ⟨year, 1, 1⟩ = daysBefore (year - 1) + 306 - 719468 := by
    have first : marchYear ⟨year, 1, 1⟩ = year - 1 := if_pos (by simp)
    simp only [dayNumber_eq, first]
    omega
  have found : (ofYearDay y u).year = if u < 306 then y else y + 1 := by
    simp only [ofYearDay]
    split <;> split <;> omega
  rw [january, date, found]
  rcases Int.lt_trichotomy year (y + 1) with earlier | rfl | later
  · -- All of January precedes the March that the year starts with.
    have mono : daysBefore year ≤ daysBefore y := daysBefore_mono (by omega)
    have length := daysBefore_succ (year - 1)
    rw [Int.sub_add_cancel] at length
    split <;> split at length <;> omega
  · rw [Int.add_sub_cancel]
    split <;> omega
  · have mono : daysBefore (y + 1) ≤ daysBefore (year - 1) := daysBefore_mono (by omega)
    split <;> omega

end AlarmServer.Date
