import Mathlib.Tactic.IntervalCases
import Passbook.Time.Instant

/-!
# Days and dates

An era of 400 years is four centuries and a century is 25 groups of four years. A group ends with a
leap day, but for the last groups of the first three centuries. A `Place` says where in them a day
stands, with the years starting in March, and every day has one (`Place.exists_dayNumber`). At a
place the divisions of `dateOfDay` and `Date.dayNumber` come out as its parts, which shows that
every day has a date that exists and that leads back to the day.
-/
namespace Passbook.Time

variable {d : Int}

theorem isLeapYear_iff {year : Int} :
    isLeapYear year ↔ year % 4 = 0 ∧ (year % 100 ≠ 0 ∨ year % 400 = 0) := by
  simp [isLeapYear]

/-- Where a day stands in the calendar of the years that start in March. -/
structure Place where
  era : Int
  century : Int
  quad : Int
  year : Int
  day : Int
  century_range : 0 ≤ century ∧ century < 4
  quad_range : 0 ≤ quad ∧ quad < 25
  year_range : 0 ≤ year ∧ year < 4
  day_range : 0 ≤ day ∧ day ≤ 365
  /-- A leap day ends a group of four years, and the last group of a century only once in an era. -/
  leap : day = 365 → year = 3 ∧ (quad = 24 → century = 3)

namespace Place

variable {p : Place}

-- -----------------------------------------------------------------------------
-- Days
-- -----------------------------------------------------------------------------

def dayOfEra (p : Place) : Int := 36524 * p.century + 1461 * p.quad + 365 * p.year + p.day

def yearOfEra (p : Place) : Int := 100 * p.century + 4 * p.quad + p.year

def dayNumber (p : Place) : Int := p.era * eraDays + p.dayOfEra - epochShift

theorem dayOfEra_range (p : Place) : 0 ≤ p.dayOfEra ∧ p.dayOfEra < eraDays := by
  have := p.century_range
  have := p.quad_range
  have := p.year_range
  have := p.day_range
  have := p.leap
  simp only [dayOfEra, eraDays]
  omega

theorem exists_dayOfEra {doe : Int} (low : 0 ≤ doe) (high : doe < eraDays) (era : Int) :
    ∃ p : Place, p.era = era ∧ p.dayOfEra = doe := by
  simp only [eraDays] at high
  -- The quotients are one too high on the last day of an era and on the last of four years.
  obtain ⟨century, r, hc, hr, eq, last⟩ : ∃ c r, (0 ≤ c ∧ c < 4) ∧ 0 ≤ r ∧ doe = 36524 * c + r ∧
      (r < 36524 ∨ c = 3 ∧ r = 36524) := by
    rcases Int.lt_or_le doe 146096 with h | h
    · exact ⟨doe / 36524, doe % 36524, by omega⟩
    · exact ⟨3, 36524, by omega⟩
  obtain ⟨year, day, hy, hd, parts, leap⟩ : ∃ y d, (0 ≤ y ∧ y < 4) ∧ (0 ≤ d ∧ d ≤ 365) ∧
      r % 1461 = 365 * y + d ∧ (d = 365 → y = 3) := by
    rcases Int.lt_or_le (r % 1461) 1460 with h | h
    · exact ⟨r % 1461 / 365, r % 1461 % 365, by omega⟩
    · exact ⟨3, 365, by omega⟩
  have quad : 0 ≤ r / 1461 ∧ r / 1461 < 25 := by omega
  refine ⟨⟨era, century, r / 1461, year, day, hc, quad, hy, hd, fun h => ⟨leap h, ?_⟩⟩, rfl, ?_⟩
  · have := leap h
    omega
  · simp only [dayOfEra]
    omega

theorem exists_dayNumber (d : Int) : ∃ p : Place, p.dayNumber = d := by
  obtain ⟨p, era, day⟩ := exists_dayOfEra (Int.emod_nonneg (d + epochShift) (by decide))
    (Int.emod_lt_of_pos (d + epochShift) (by decide)) ((d + epochShift) / eraDays)
  refine ⟨p, ?_⟩
  rw [dayNumber, era, day, Int.ediv_mul_add_emod, Int.add_sub_cancel]

/-- The year of a day is found by leaving out the leap days before it. -/
theorem yearOfEra_eq (p : Place) :
    (p.dayOfEra - p.dayOfEra / 1460 + p.dayOfEra / 36524 - p.dayOfEra / 146096) / 365 =
      p.yearOfEra := by
  have := p.century_range
  have := p.quad_range
  have := p.year_range
  have := p.day_range
  have := p.leap
  have := p.dayOfEra_range
  generalize hd : p.dayOfEra = doe at *
  simp only [dayOfEra, yearOfEra, eraDays] at *
  have eras : doe / 146096 = if doe = 146096 then 1 else 0 := by split <;> omega
  have centuries : doe / 36524 = if doe = 146096 then 4 else p.century := by split <;> omega
  have quads : doe / 1460 = 25 * p.century + p.quad ∨ doe / 1460 = 25 * p.century + p.quad + 1 := by
    omega
  rw [eras, centuries]
  split <;> rcases quads with quads | quads <;> omega

theorem yearOfEra_parts (p : Place) :
    p.yearOfEra / 4 = 25 * p.century + p.quad ∧ p.yearOfEra / 100 = p.century ∧
      0 ≤ p.yearOfEra ∧ p.yearOfEra < 400 := by
  have := p.century_range
  have := p.quad_range
  have := p.year_range
  simp only [yearOfEra]
  omega

-- -----------------------------------------------------------------------------
-- Dates
-- -----------------------------------------------------------------------------

/-- The month, counted from March. -/
def month (p : Place) : Int := (5 * p.day + 2) / 153

def dayOfMonth (p : Place) : Int := p.day - (153 * p.month + 2) / 5 + 1

def date (p : Place) : Date where
  year := p.era * 400 + p.yearOfEra + if p.month < 10 then 0 else 1
  month := (if p.month < 10 then p.month + 3 else p.month - 9).toNat
  day := p.dayOfMonth.toNat

theorem month_range (p : Place) : 0 ≤ p.month ∧ p.month < 12 := by
  have := p.day_range
  simp only [month]
  omega

theorem dayOfMonth_pos (p : Place) : 1 ≤ p.dayOfMonth := by
  have := p.day_range
  simp only [dayOfMonth, month]
  omega

theorem dateOfDay_dayNumber (p : Place) : dateOfDay p.dayNumber = p.date := by
  have range := p.dayOfEra_range
  have months := p.month_range
  have era : (p.dayNumber + epochShift) / eraDays = p.era := by
    simp only [dayNumber, eraDays] at *
    omega
  have dayOfEra : (p.dayNumber + epochShift) % eraDays = p.dayOfEra := by
    simp only [dayNumber, eraDays] at *
    omega
  have day : p.dayOfEra - (365 * p.yearOfEra + p.yearOfEra / 4 - p.yearOfEra / 100) = p.day := by
    rw [p.yearOfEra_parts.1, p.yearOfEra_parts.2.1]
    simp only [Place.dayOfEra, yearOfEra]
    omega
  have month : (5 * p.day + 2) / 153 = p.month := rfl
  simp only [dateOfDay, era, dayOfEra, yearOfEra_eq, day, month, date, dayOfMonth]
  congr 1
  split <;> split <;> omega

theorem dayNumber_date (p : Place) : p.date.dayNumber = p.dayNumber := by
  obtain ⟨quads, centuries, low, high⟩ := p.yearOfEra_parts
  have months := p.month_range
  have days := p.dayOfMonth_pos
  have early : p.date.month ≤ 2 ↔ ¬p.month < 10 := by
    simp only [date]
    split <;> omega
  have year : (if p.date.month ≤ 2 then p.date.year - 1 else p.date.year) =
      p.era * 400 + p.yearOfEra := by
    simp only [early]
    simp only [date]
    split <;> omega
  have month : (if p.date.month ≤ 2 then (p.date.month : Int) + 9 else p.date.month - 3) =
      p.month := by
    simp only [early]
    simp only [date]
    split <;> omega
  have day : (p.date.day : Int) = p.dayOfMonth := Int.toNat_of_nonneg (by omega)
  have era : (p.era * 400 + p.yearOfEra) / 400 = p.era := by omega
  have yearOfEra : (p.era * 400 + p.yearOfEra) % 400 = p.yearOfEra := by omega
  simp only [Date.dayNumber, year, month, day, era, yearOfEra, quads, centuries, dayNumber,
    dayOfEra, dayOfMonth]
  simp only [Place.yearOfEra]
  omega

/-- The months from March to January have their lengths in every year. -/
theorem monthLength_eq (year : Int) {m : Int} (low : 0 ≤ m) (high : m < 11) :
    (monthLength year (if m < 10 then m + 3 else m - 9).toNat : Int) =
      (153 * (m + 1) + 2) / 5 - (153 * m + 2) / 5 := by
  interval_cases m <;> rfl

theorem isLeapYear_of_leap (p : Place) (h : p.day = 365) :
    isLeapYear (p.era * 400 + p.yearOfEra + 1) := by
  have := p.quad_range
  obtain ⟨last, outer⟩ := p.leap h
  rw [isLeapYear_iff]
  simp only [yearOfEra]
  omega

theorem dayOfMonth_le (p : Place) : p.dayOfMonth ≤ monthLength p.date.year p.date.month := by
  have range := p.day_range
  have months := p.month_range
  have hm : p.month = (5 * p.day + 2) / 153 := rfl
  rcases Int.lt_or_le p.month 11 with h | h
  · rw [date, monthLength_eq _ months.1 h, dayOfMonth]
    omega
  · have february : p.month = 11 := by omega
    have year : p.date.year = p.era * 400 + p.yearOfEra + 1 := by simp [date, february]
    have month : p.date.month = 2 := by simp [date, february]
    rw [month, monthLength, year, dayOfMonth, february]
    split
    · omega
    · next common =>
      have : p.day ≠ 365 := fun leap => common (p.isLeapYear_of_leap leap)
      omega

theorem date_exists (p : Place) : p.date.Exists := by
  have months := p.month_range
  have days := p.dayOfMonth_pos
  have last := p.dayOfMonth_le
  refine ⟨?_, ?_, ?_, ?_⟩
  · simp only [date]
    split <;> omega
  · simp only [date]
    split <;> omega
  · simp only [date]
    omega
  · rw [show p.date.day = p.dayOfMonth.toNat from rfl]
    omega

theorem date_year_range (low : Instant.firstSecond ≤ 86400 * p.dayNumber)
    (high : 86400 * p.dayNumber ≤ Instant.lastSecond) :
    Instant.firstYear ≤ p.date.year ∧ p.date.year ≤ Instant.lastYear := by
  have := p.century_range
  have := p.quad_range
  have := p.year_range
  have := p.day_range
  simp only [dayNumber, dayOfEra, eraDays, epochShift, Instant.firstSecond, Instant.lastSecond]
    at low high
  have ofDay : p.month = (5 * p.day + 2) / 153 := rfl
  -- The last day is in the eleventh group of years of the second century of its era.
  have last : p.era < 655 ∨ p.era = 655 ∧ (p.century < 1 ∨ p.century = 1 ∧ p.quad ≤ 10) := by
    omega
  simp only [date, yearOfEra, Instant.firstYear, Instant.lastYear]
  rcases last with h | ⟨h, h' | ⟨h', h''⟩⟩ <;> split <;> omega

end Place

theorem dateOfDay_exists (d : Int) : (dateOfDay d).Exists := by
  obtain ⟨p, rfl⟩ := Place.exists_dayNumber d
  rw [p.dateOfDay_dayNumber]
  exact p.date_exists

theorem dayNumber_dateOfDay (d : Int) : (dateOfDay d).dayNumber = d := by
  obtain ⟨p, rfl⟩ := Place.exists_dayNumber d
  rw [p.dateOfDay_dayNumber, p.dayNumber_date]

theorem dateOfDay_year_range (low : Instant.firstSecond ≤ 86400 * d)
    (high : 86400 * d ≤ Instant.lastSecond) :
    Instant.firstYear ≤ (dateOfDay d).year ∧ (dateOfDay d).year ≤ Instant.lastYear := by
  obtain ⟨p, rfl⟩ := Place.exists_dayNumber d
  rw [p.dateOfDay_dayNumber]
  exact Place.date_year_range low high

end Passbook.Time
