import ViewerHost.Time.Instant

namespace ViewerHost.CalendarDay

variable {d y year doy : Int}

def yearIn (d : Int) : Int := (d - d / 1460 + d / 36524 - d / 146096) / 365

def daysBefore (y : Int) : Int := 365 * y + y / 4 - y / 100

/-- The last day of a period alone is a leap day that closes a century. -/
theorem yearIn_spec (low : 0 ≤ d) (high : d < 146097) :
    0 ≤ yearIn d ∧ yearIn d < 400 ∧ daysBefore (yearIn d) ≤ d ∧ d ≤ daysBefore (yearIn d) + 365 ∧
      (d = daysBefore (yearIn d) + 365 → isLeapYear (yearIn d + 1) = true) := by
  -- The last day of a period is the only leap day that closes a century.
  by_cases last : d = 146096
  · subst last
    decide
  · have within : d / 146096 = 0 := by omega
    obtain ⟨c, century⟩ : ∃ c, d / 36524 = c := ⟨_, rfl⟩
    obtain ⟨y, same⟩ : ∃ y, yearIn d = y := ⟨_, rfl⟩
    have year := same.symm
    rw [yearIn, within, century, Int.sub_zero] at year
    have centuryOf : y / 100 = c := by omega
    rw [same, daysBefore, centuryOf]
    refine ⟨by omega, by omega, by omega, by omega, ?_⟩
    intro closes
    have fourth : y % 4 = 3 := by
      have cases : y % 4 = 0 ∨ y % 4 = 1 ∨ y % 4 = 2 ∨ y % 4 = 3 := by omega
      omega
    have leap : (y + 1) % 4 = 0 ∧ (y + 1) % 100 ≠ 0 := by omega
    simp [isLeapYear, leap.1, leap.2]

theorem isLeapYear_period (year period : Int) :
    isLeapYear (year + period * 400) = isLeapYear year := by
  have four : (year + period * 400) % 4 = year % 4 := by omega
  have hundred : (year + period * 400) % 100 = year % 100 := by omega
  have all : (year + period * 400) % 400 = year % 400 := by omega
  rw [isLeapYear, isLeapYear, four, hundred, all]

def fromMarch (year doy : Int) : CalendarDay :=
  let month := (5 * doy + 2) / 153
  let civil := if month < 10 then month + 3 else month - 9
  ⟨year + if civil ≤ 2 then 1 else 0, civil.toNat, (doy - (153 * month + 2) / 5 + 1).toNat⟩

theorem ofDays_eq (days : Int) :
    ofDays days =
      fromMarch (yearIn ((days + 719468) % 146097) + (days + 719468) / 146097 * 400)
        ((days + 719468) % 146097 - daysBefore (yearIn ((days + 719468) % 146097))) := rfl

theorem isValid_fromMarch (low : 0 ≤ doy) (high : doy ≤ 365)
    (leap : doy = 365 → isLeapYear (year + 1) = true) : (fromMarch year doy).isValid = true := by
  obtain ⟨month, same⟩ : ∃ month, (5 * doy + 2) / 153 = month := ⟨_, rfl⟩
  have inYear : 0 ≤ month ∧ month ≤ 11 := by omega
  have inMonth : (153 * month + 2) / 5 ≤ doy ∧ doy < (153 * (month + 1) + 2) / 5 := by omega
  simp only [isValid, fromMarch, same, Bool.and_eq_true, decide_eq_true_eq]
  have cases : month = 0 ∨ month = 1 ∨ month = 2 ∨ month = 3 ∨ month = 4 ∨ month = 5 ∨ month = 6 ∨
      month = 7 ∨ month = 8 ∨ month = 9 ∨ month = 10 ∨ month = 11 := by omega
  rcases cases with rfl | rfl | rfl | rfl | rfl | rfl | rfl | rfl | rfl | rfl | rfl | rfl
  -- February, the last month, has a day more in a leap year.
  case inr.inr.inr.inr.inr.inr.inr.inr.inr.inr.inr =>
    simp [daysInMonth]
    by_cases closes : doy = 365
    · simp [leap closes]
      omega
    · split <;> omega
  all_goals
    simp [daysInMonth]
    omega

theorem toDays_fromMarch (low : 0 ≤ doy) (high : doy ≤ 365) :
    (fromMarch year doy).toDays =
      year * 365 + year / 4 - year / 100 + year / 400 + doy - 719468 := by
  obtain ⟨month, same⟩ : ∃ month, (5 * doy + 2) / 153 = month := ⟨_, rfl⟩
  have inYear : 0 ≤ month ∧ month ≤ 11 := by omega
  have inMonth : (153 * month + 2) / 5 ≤ doy := by omega
  simp only [toDays, fromMarch, same]
  by_cases early : month < 10
  · simp only [early, if_true]
    have civil : ¬month + 3 ≤ 2 := by omega
    have civil' : ¬(month + 3).toNat ≤ 2 := by omega
    simp only [civil, civil', if_false]
    omega
  · simp only [early, if_false]
    have civil : month - 9 ≤ 2 := by omega
    have civil' : (month - 9).toNat ≤ 2 := by omega
    simp only [civil, civil', if_true]
    omega

theorem isValid_ofDays (days : Int) : (ofDays days).isValid = true := by
  obtain ⟨-, -, low, high, leap⟩ :=
    yearIn_spec (d := (days + 719468) % 146097) (by omega) (by omega)
  rw [ofDays_eq]
  apply isValid_fromMarch (by omega) (by omega)
  intro closes
  generalize yearIn ((days + 719468) % 146097) = y at *
  have shift : y + (days + 719468) / 146097 * 400 + 1 =
      y + 1 + (days + 719468) / 146097 * 400 := by omega
  rw [shift, isLeapYear_period]
  exact leap (by omega)

theorem toDays_ofDays (days : Int) : (ofDays days).toDays = days := by
  obtain ⟨first, last, low, high, -⟩ :=
    yearIn_spec (d := (days + 719468) % 146097) (by omega) (by omega)
  rw [ofDays_eq, toDays_fromMarch (by omega) (by omega)]
  unfold daysBefore at *
  generalize yearIn ((days + 719468) % 146097) = y at *
  have four : (y + (days + 719468) / 146097 * 400) / 4 =
      y / 4 + (days + 719468) / 146097 * 100 := by omega
  have hundred : (y + (days + 719468) / 146097 * 400) / 100 =
      y / 100 + (days + 719468) / 146097 * 4 := by omega
  have period : (y + (days + 719468) / 146097 * 400) / 400 = (days + 719468) / 146097 := by omega
  rw [four, hundred, period]
  omega

example : ofDays 11016 = ⟨2000, 2, 29⟩ := by decide
example : ofDays (-719529) = ⟨-1, 12, 31⟩ := by decide

theorem year_fromMarch (low : 0 ≤ doy) (high : doy ≤ 365) :
    (fromMarch year doy).year = if 306 ≤ doy then year + 1 else year := by
  simp only [fromMarch]
  by_cases late : 306 ≤ doy
  · have month : ¬(5 * doy + 2) / 153 < 10 := by omega
    have civil : (5 * doy + 2) / 153 - 9 ≤ 2 := by omega
    rw [if_pos late, if_neg month, if_pos civil]
  · have month : (5 * doy + 2) / 153 < 10 := by omega
    have civil : ¬(5 * doy + 2) / 153 + 3 ≤ 2 := by omega
    rw [if_neg late, if_pos month, if_neg civil, Int.add_zero]

/-- The days that can be named are those of the years that can. -/
theorem year_ofDays (days : Int) (low : toDays ⟨firstYear, 1, 1⟩ ≤ days)
    (high : days ≤ toDays ⟨lastYear, 12, 31⟩) :
    firstYear ≤ (ofDays days).year ∧ (ofDays days).year ≤ lastYear := by
  have first : toDays ⟨firstYear, 1, 1⟩ = -96465292 := by decide
  have last : toDays ⟨lastYear, 12, 31⟩ = 95026236 := by decide
  obtain ⟨-, -, from', to', -⟩ := yearIn_spec (d := (days + 719468) % 146097) (by omega) (by omega)
  have count := toDays_ofDays days
  rw [ofDays_eq] at count ⊢
  obtain ⟨doy, same⟩ : ∃ doy, (days + 719468) % 146097 -
      daysBefore (yearIn ((days + 719468) % 146097)) = doy := ⟨_, rfl⟩
  have early : 0 ≤ doy := by omega
  have late : doy ≤ 365 := by omega
  rw [same] at count ⊢
  generalize yearIn ((days + 719468) % 146097) + (days + 719468) / 146097 * 400 = year at *
  rw [toDays_fromMarch early late] at count
  rw [year_fromMarch early late, firstYear, lastYear]
  -- The years that close the range begin and end within a year counted from March.
  have from'' : year < -262144 ∨ year = -262144 ∨ -262144 < year := by omega
  have to'' : year < 262142 ∨ year = 262142 ∨ 262142 < year := by omega
  split
  · omega
  · omega

end ViewerHost.CalendarDay
