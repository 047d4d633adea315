import AgentTrial.Proofs.Time.Instant
import Mathlib.Tactic.IntervalCases

/-!
# Days and dates

The date of a day, for every day of the calendar.

* **Parts** — a day is found in its cycle of four hundred years, its year from March on and its day
  of that year, of which the last is the leap day (`exists_parts`).
* **Dates** — so its date has the number of the day (`dayNumber_ofDayNumber`), and exists from the
  first day of the calendar to the last (`isValid_ofDayNumber`).
-/

namespace AgentTrial.Date

/-! ## Parts -/

/-- The years from the March of a century on, by the days since then. A leap day is the last of four
years, and not of the hundredth. -/
theorem year_of_century {century day year : Int} (centuries : 0 ≤ century ∧ century ≤ 3)
    (days : 0 ≤ day ∧ day < 36524) (is : year = (day - (24 * century + day) / 1460) / 365) :
    (0 ≤ year ∧ year ≤ 99) ∧ 0 ≤ day - (365 * year + year / 4) ∧
      day - (365 * year + year / 4) ≤ 365 ∧
      (day - (365 * year + year / 4) = 365 → (year + 1) % 4 = 0 ∧ year ≠ 99) := by
  -- four years and the days after them
  have fours : 0 ≤ day / 1461 ∧ day / 1461 ≤ 24 := by omega
  have rest : 0 ≤ day % 1461 ∧ day % 1461 ≤ 1460 := by omega
  have whole : day = 1461 * (day / 1461) + day % 1461 := by omega
  generalize day / 1461 = q at *
  generalize day % 1461 = r at *
  have last : r = 1460 → q < 24 := by omega
  have drift : ((24 * century + day) / 1460 = q ∧ q + r + 24 * century < 1460) ∨
      ((24 * century + day) / 1460 = q + 1 ∧ 1460 ≤ q + r + 24 * century) := by omega
  rcases drift with ⟨drift, early⟩ | ⟨drift, late⟩
  · have same : year = 4 * q + r / 365 := by
      rw [is, drift]
      omega
    have quarter : year / 4 = q := by omega
    omega
  · have same : year = 4 * q + 3 := by
      rw [is, drift]
      omega
    have quarter : year / 4 = q := by omega
    omega

/-- A day by its number is this day of this year of this cycle. -/
structure Parts (n cycle year day : Int) : Prop where
  number : n + 719468 = cycle * daysPerCycle + (365 * year + year / 4 - year / 100 + day)
  year_nonneg : 0 ≤ year
  year_le : year ≤ 399
  day_nonneg : 0 ≤ day
  day_le : day ≤ 365
  leap : day = 365 → (year + 1) % 4 = 0 ∧ ((year + 1) % 100 ≠ 0 ∨ (year + 1) % 400 = 0)

/-- The year and the day of a day in its cycle. -/
theorem parts_of_cycle {n day year : Int} (is : day = (n + 719468) % daysPerCycle)
    (isYear : year = (day - day / 1460 + day / 36524 - day / 146096) / 365) :
    Parts n ((n + 719468) / daysPerCycle) year (day - (365 * year + year / 4 - year / 100)) := by
  unfold daysPerCycle at is
  have days : 0 ≤ day ∧ day < 146097 := by omega
  have number : n + 719468 = (n + 719468) / daysPerCycle * daysPerCycle +
      (365 * year + year / 4 - year / 100 +
        (day - (365 * year + year / 4 - year / 100))) := by
    unfold daysPerCycle
    omega
  by_cases last : day = 146096
  · -- the leap day of the fourth century
    subst last
    constructor <;> omega
  · have centuries : 0 ≤ day / 36524 ∧ day / 36524 ≤ 3 := by omega
    have rest : 0 ≤ day % 36524 ∧ day % 36524 < 36524 := by omega
    have whole : day = 36524 * (day / 36524) + day % 36524 := by omega
    obtain ⟨years, inYear⟩ := year_of_century centuries rest rfl
    generalize day / 36524 = c at *
    generalize day % 36524 = r at *
    have drift : day / 1460 = 25 * c + (24 * c + r) / 1460 := by omega
    have notLast : day / 146096 = 0 := by omega
    have same : year = 100 * c + (r - (24 * c + r) / 1460) / 365 := by
      rw [isYear, drift, notLast, whole]
      omega
    generalize (r - (24 * c + r) / 1460) / 365 = y at *
    have hundred : year / 100 = c := by omega
    have quarter : year / 4 = 25 * c + y / 4 := by omega
    constructor <;> omega

/-- A date by the parts of its day. Months are counted from March. -/
theorem exists_parts (n : Int) :
    ∃ cycle year day month : Int, Parts n cycle year day ∧ month = (5 * day + 2) / 153 ∧
      ofDayNumber n =
        { year := if month < 10 then year + cycle * 400 else year + cycle * 400 + 1
          month := (if month < 10 then month + 3 else month - 9).toNat
          day := (day - (153 * month + 2) / 5 + 1).toNat } :=
  ⟨_, _, _, _, parts_of_cycle rfl rfl, rfl, rfl⟩

/-! ## Dates -/

/-- The date of a day has the number of the day. -/
theorem dayNumber_ofDayNumber (n : Int) : dayNumber (ofDayNumber n) = n := by
  obtain ⟨cycle, year, day, month, parts, is, date⟩ := exists_parts n
  obtain ⟨number, year_nonneg, year_le, day_nonneg, day_le, -⟩ := parts
  have months : 0 ≤ month ∧ month ≤ 11 := by omega
  have inMonth : 0 ≤ day - (153 * month + 2) / 5 := by omega
  rw [date]
  unfold dayNumber daysPerCycle at *
  dsimp only
  by_cases early : month < 10
  · have later : ¬ (month + 3).toNat ≤ 2 := by omega
    have inCycle : (year + cycle * 400) % 400 = year := by omega
    have cycles : (year + cycle * 400) / 400 = cycle := by omega
    have fromMarch : (((month + 3).toNat : Int) + 9) % 12 = month := by omega
    simp only [if_pos early, if_neg later, inCycle, cycles, fromMarch]
    omega
  · have later : (month - 9).toNat ≤ 2 := by omega
    have inCycle : (year + cycle * 400 + 1 - 1) % 400 = year := by omega
    have cycles : (year + cycle * 400 + 1 - 1) / 400 = cycle := by omega
    have fromMarch : (((month - 9).toNat : Int) + 9) % 12 = month := by omega
    simp only [if_neg early, if_pos later, inCycle, cycles, fromMarch]
    omega

theorem isLeapYear_iff {year : Int} :
    isLeapYear year = true ↔ year % 4 = 0 ∧ (year % 100 ≠ 0 ∨ year % 400 = 0) := by
  simp [isLeapYear]

/-- A day of a month from March on is none too many. -/
theorem day_le_daysIn (year : Int) {day month : Int} (is : month = (5 * day + 2) / 153)
    (days : 0 ≤ day ∧ day ≤ 365)
    (leap : day = 365 → (year + 1) % 4 = 0 ∧ ((year + 1) % 100 ≠ 0 ∨ (year + 1) % 400 = 0)) :
    (day - (153 * month + 2) / 5 + 1).toNat ≤
      daysIn (if month < 10 then year else year + 1)
        (if month < 10 then month + 3 else month - 9).toNat := by
  have first : 0 ≤ month := by omega
  have last : month ≤ 11 := by omega
  by_cases february : month = 11
  · subst february
    rw [if_neg (by decide), if_neg (by decide), daysIn, if_pos (by decide)]
    split
    · omega
    · rename_i common
      rw [isLeapYear_iff] at common
      omega
  · unfold daysIn
    interval_cases month <;> simp <;> omega

/-- The days of the calendar have dates that exist. -/
theorem isValid_ofDayNumber {n : Int} (first : Instant.firstDay ≤ n) (last : n ≤ Instant.lastDay) :
    (ofDayNumber n).isValid = true := by
  obtain ⟨cycle, year, day, month, parts, is, date⟩ := exists_parts n
  obtain ⟨number, year_nonneg, year_le, day_nonneg, day_le, leap⟩ := parts
  have fits := day_le_daysIn (year + cycle * 400) is ⟨day_nonneg, day_le⟩ (by omega)
  have months : 0 ≤ month ∧ month ≤ 11 := by omega
  unfold daysPerCycle at number
  rw [Instant.firstDay_eq] at first
  rw [Instant.lastDay_eq] at last
  have firstCycle : -656 ≤ cycle := by omega
  have firstYear : cycle = -656 → 256 < year ∨ year = 256 ∧ 306 ≤ day := by omega
  have lastCycle : cycle ≤ 655 := by omega
  have lastYear : cycle = 655 → year < 142 ∨ year = 142 ∧ day ≤ 305 := by omega
  rw [date]
  simp only [isValid, Bool.and_eq_true, decide_eq_true_eq]
  refine ⟨⟨⟨⟨⟨?_, ?_⟩, ?_⟩, ?_⟩, ?_⟩, fits⟩
  · unfold minYear
    split <;> omega
  · unfold maxYear
    split <;> omega
  · split <;> omega
  · split <;> omega
  · omega

/-- A date that exists has a month and a day of two digits. -/
theorem isValid_bounds {d : Date} (valid : d.isValid = true) :
    (1 ≤ d.month ∧ d.month ≤ 12) ∧ 1 ≤ d.day ∧ d.day ≤ 31 := by
  simp only [isValid, Bool.and_eq_true, decide_eq_true_eq] at valid
  obtain ⟨⟨⟨⟨-, first⟩, last⟩, positive⟩, most⟩ := valid
  have atMost : daysIn d.year d.month ≤ 31 := by
    unfold daysIn
    split_ifs <;> decide
  exact ⟨⟨first, last⟩, positive, most.trans atMost⟩

end AgentTrial.Date
