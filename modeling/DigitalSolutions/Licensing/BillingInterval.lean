import DigitalSolutions.Persistence.Schema

namespace DigitalSolutions
namespace Licensing

open Persistence

/-!
# Billing intervals in the calendar of `Date`

`addBillingInterval` moves an instant by months or years with `setUTCMonth`
and `setUTCFullYear`.  Both keep the day of the month and the time of day and
let a day that the target month does not have run over into the next month.
Instants are milliseconds since the epoch in the proleptic Gregorian
calendar.
-/

def msPerDay : Int := 86400000

/-- Days from the epoch to the first day of a month; the month counts from
zero and may lie outside the year. -/
def monthStart (year month : Int) : Int :=
  let year := year + month / 12
  let month := month % 12
  -- The year is taken to start in March, so that a leap day is its last day.
  let marchYear := if month < 2 then year - 1 else year
  let marchMonth := (month + 10) % 12
  let era := marchYear / 400
  let yearOfEra := marchYear % 400
  let dayOfYear := (153 * marchMonth + 2) / 5
  era * 146097 + (yearOfEra * 365 + yearOfEra / 4 - yearOfEra / 100 + dayOfYear) - 719468

/-- Year, month from zero and day of the month of a day since the epoch. -/
def civilOfDay (day : Int) : Int × Int × Int :=
  let shifted := day + 719468
  let era := shifted / 146097
  let dayOfEra := shifted % 146097
  let yearOfEra := (dayOfEra - dayOfEra / 1460 + dayOfEra / 36524 - dayOfEra / 146096) / 365
  let dayOfYear := dayOfEra - (365 * yearOfEra + yearOfEra / 4 - yearOfEra / 100)
  let marchMonth := (5 * dayOfYear + 2) / 153
  let month := (marchMonth + 2) % 12
  let year := yearOfEra + era * 400 + if month < 2 then 1 else 0
  (year, month, dayOfYear - (153 * marchMonth + 2) / 5 + 1)

/-- `setUTCMonth(getUTCMonth() + count)`. -/
def addUTCMonths (value : Time) (count : Int) : Time :=
  let (year, month, day) := civilOfDay (value / msPerDay)
  (monthStart year (month + count) + day - 1) * msPerDay + value % msPerDay

/-- `setUTCFullYear(getUTCFullYear() + count)`. -/
def addUTCFullYears (value : Time) (count : Int) : Time :=
  let (year, month, day) := civilOfDay (value / msPerDay)
  (monthStart (year + count) month + day - 1) * msPerDay + value % msPerDay

def addBillingInterval (value : Time) (unit : IntervalUnit) (count : Int) : Time :=
  match unit with
  | .year => addUTCFullYears value count
  | .month => addUTCMonths value count

def addDays (value : Time) (count : Int) : Time := value + count * msPerDay

/-- One month after 31 January 2026 is 3 March 2026. -/
example : addBillingInterval 1769817600000 .month 1 = 1772496000000 := by decide

/-! ## An interval leads forward

Counted from March, month `12 * year + month - 2` of the calendar is a month
of one year whose leap day comes last, and every month has at least 28 days.
-/

/-- Days from the first March of the era of year zero to the first of March. -/
def marchYearStart (year : Int) : Int :=
  year / 400 * 146097 + (year % 400 * 365 + year % 400 / 4 - year % 400 / 100)

theorem monthStart_eq (year month : Int) :
    monthStart year month = marchYearStart ((12 * year + month - 2) / 12) +
      (153 * ((12 * year + month - 2) % 12) + 2) / 5 - 719468 := by
  have marchMonth : (12 * year + month - 2) % 12 = (month % 12 + 10) % 12 := by omega
  have marchYear : (12 * year + month - 2) / 12 =
      if month % 12 < 2 then year + month / 12 - 1 else year + month / 12 := by
    split <;> omega
  unfold monthStart marchYearStart
  dsimp only
  rw [marchMonth, marchYear]
  omega

theorem marchYearStart_step (year : Int) : marchYearStart year + 365 ≤ marchYearStart (year + 1) := by
  unfold marchYearStart
  omega

theorem marchYearStart_step_le (year : Int) : marchYearStart (year + 1) ≤ marchYearStart year + 366 := by
  unfold marchYearStart
  omega

theorem marchYearStart_era {yearOfEra : Int} (era : Int) (low : 0 ≤ yearOfEra) (high : yearOfEra ≤ 400) :
    marchYearStart (yearOfEra + era * 400) =
      era * 146097 + (365 * yearOfEra + yearOfEra / 4 - yearOfEra / 100 + yearOfEra / 400) := by
  unfold marchYearStart
  rcases high.lt_or_eq with inside | next
  · have sameEra : (yearOfEra + era * 400) / 400 = era := by omega
    have inEra : (yearOfEra + era * 400) % 400 = yearOfEra := by omega
    rw [sameEra, inEra]
    omega
  · omega

theorem monthStart_step (year month : Int) :
    monthStart year month + 28 ≤ monthStart year (month + 1) := by
  rw [monthStart_eq, monthStart_eq]
  have step := marchYearStart_step ((12 * year + month - 2) / 12)
  rcases lt_or_ge ((12 * year + month - 2) % 12) 11 with inside | last
  · have sameYear : (12 * year + (month + 1) - 2) / 12 = (12 * year + month - 2) / 12 := by omega
    rw [sameYear]
    omega
  · have nextYear : (12 * year + (month + 1) - 2) / 12 = (12 * year + month - 2) / 12 + 1 := by omega
    rw [nextYear]
    omega

theorem monthStart_strictMono (year : Int) : StrictMono (monthStart year) := by
  apply strictMono_int_of_lt_succ
  intro month
  have step := monthStart_step year month
  omega

/-- Adding years is adding twelve months each. -/
theorem monthStart_addYears (year month count : Int) :
    monthStart (year + count) month = monthStart year (month + 12 * count) := by
  rw [monthStart_eq, monthStart_eq]
  have same : 12 * (year + count) + month - 2 = 12 * year + (month + 12 * count) - 2 := by omega
  rw [same]

/-- The day within the year that `civilOfDay` computes lies within a year. -/
theorem dayOfYear_range {dayOfEra yearOfEra : Int} (low : 0 ≤ dayOfEra) (high : dayOfEra < 146097)
    (year : yearOfEra =
      (dayOfEra - dayOfEra / 1460 + dayOfEra / 36524 - dayOfEra / 146096) / 365) :
    0 ≤ yearOfEra ∧ yearOfEra < 400 ∧
    0 ≤ dayOfEra - (365 * yearOfEra + yearOfEra / 4 - yearOfEra / 100) ∧
    dayOfEra - (365 * yearOfEra + yearOfEra / 4 - yearOfEra / 100) ≤ 366 := by
  have leapYears : yearOfEra / 4 ≤ dayOfEra / 1460 := by omega
  -- In the first days after a century the leap day of its last year has been counted already.
  have centuries : dayOfEra / 36524 ≤ yearOfEra / 100 ∨
      (dayOfEra / 36524 = yearOfEra / 100 + 1 ∧ yearOfEra / 4 < dayOfEra / 1460) ∨
      dayOfEra = 146096 := by
    omega
  refine ⟨by omega, by omega, ?_, by omega⟩
  rcases centuries with same | ⟨next, leap⟩ | last
  · omega
  · omega
  · subst last
    omega

/-- The year that is read off a day of an era is the one that the day lies in. -/
theorem yearOfEra_within {dayOfEra year : Int} (low : 0 ≤ dayOfEra) (high : dayOfEra < 146097)
    (isYear : year = (dayOfEra - dayOfEra / 1460 + dayOfEra / 36524 - dayOfEra / 146096) / 365) :
    dayOfEra < 365 * (year + 1) + (year + 1) / 4 - (year + 1) / 100 + (year + 1) / 400 := by
  have bound : year ≤ 399 := by omega
  rcases lt_or_ge year 399 with before | last
  · have noEra : (year + 1) / 400 = 0 := by omega
    have hundreds : (year + 1) / 100 ≤ 3 := by omega
    by_contra late
    have reached : 365 * (year + 1) + (year + 1) / 4 - (year + 1) / 100 ≤ dayOfEra := by omega
    -- The day is at or past the start of the century of the next year, whose leap days have all been counted.
    have start : 36524 * ((year + 1) / 100) ≤ dayOfEra := by omega
    have century : (year + 1) / 100 ≤ dayOfEra / 36524 := by omega
    have notLast : dayOfEra / 146096 = 0 := by omega
    have leaps : 1459 * (dayOfEra / 1460) ≤ 365 * (year + 1) - 1 - dayOfEra / 36524 := by omega
    omega
  · have isLast : year = 399 := by omega
    rw [isLast]
    omega

/-- `civilOfDay` reads off the year from March that a day lies in, and from the
day of that year the month. -/
theorem civilOfDay_marchYear (day : Int) : Exists fun year => Exists fun dayOfYear =>
    day + 719468 = marchYearStart year + dayOfYear ∧ 0 ≤ dayOfYear ∧
      dayOfYear < marchYearStart (year + 1) - marchYearStart year ∧
      12 * (civilOfDay day).1 + (civilOfDay day).2.1 - 2 = 12 * year + (5 * dayOfYear + 2) / 153 ∧
      (civilOfDay day).2.2 = dayOfYear - (153 * ((5 * dayOfYear + 2) / 153) + 2) / 5 + 1 := by
  unfold civilOfDay
  dsimp only
  generalize era : (day + 719468) / 146097 = e
  generalize dayOfEra : (day + 719468) % 146097 = d
  have low : 0 ≤ d := by omega
  have high : d < 146097 := by omega
  generalize year : (d - d / 1460 + d / 36524 - d / 146096) / 365 = y
  rcases dayOfYear_range low high year.symm with ⟨firstYear, lastYear, firstDay, lastDay⟩
  have within := yearOfEra_within low high year.symm
  have starts := marchYearStart_era e firstYear (by omega)
  have ends := marchYearStart_era e (by omega : 0 ≤ y + 1) (by omega)
  rw [Int.add_right_comm] at ends
  refine ⟨y + e * 400, d - (365 * y + y / 4 - y / 100), ?_, firstDay, ?_, ?_, rfl⟩
  · omega
  · omega
  · generalize d - (365 * y + y / 4 - y / 100) = n at *
    clear within starts ends year
    split <;> omega

/-- The civil date of a day names that day. -/
theorem monthStart_civilOfDay (day : Int) :
    monthStart (civilOfDay day).1 (civilOfDay day).2.1 + (civilOfDay day).2.2 - 1 = day := by
  rcases civilOfDay_marchYear day with ⟨year, dayOfYear, split, first, last, counted, isDay⟩
  have length := marchYearStart_step_le year
  generalize month : (5 * dayOfYear + 2) / 153 = m at counted isDay
  rw [monthStart_eq, counted, isDay]
  have ofYear : (12 * year + m) / 12 = year := by omega
  have ofMonth : (12 * year + m) % 12 = m := by omega
  rw [ofYear, ofMonth]
  omega

theorem addUTCMonths_later (value : Time) {count : Int} (positive : 0 < count) :
    value < addUTCMonths value count := by
  have sameDay := monthStart_civilOfDay (value / msPerDay)
  unfold addUTCMonths
  generalize civilOfDay (value / msPerDay) = date at sameDay ⊢
  rcases date with ⟨year, month, day⟩
  dsimp only at sameDay ⊢
  have later := monthStart_strictMono year (Int.lt_add_of_pos_right month positive)
  unfold msPerDay at sameDay ⊢
  apply Int.lt_of_sub_pos
  omega

theorem addUTCFullYears_later (value : Time) {count : Int} (positive : 0 < count) :
    value < addUTCFullYears value count := by
  have sameDay := monthStart_civilOfDay (value / msPerDay)
  unfold addUTCFullYears
  generalize civilOfDay (value / msPerDay) = date at sameDay ⊢
  rcases date with ⟨year, month, day⟩
  dsimp only at sameDay ⊢
  rw [monthStart_addYears]
  have months : month < month + 12 * count := by omega
  have later := monthStart_strictMono year months
  unfold msPerDay at sameDay ⊢
  apply Int.lt_of_sub_pos
  omega

/-- A positive number of months or years leads to a later instant. -/
theorem addBillingInterval_later (value : Time) (unit : IntervalUnit) {count : Int}
    (positive : 0 < count) : value < addBillingInterval value unit count := by
  cases unit with
  | month => exact addUTCMonths_later value positive
  | year => exact addUTCFullYears_later value positive

end Licensing
end DigitalSolutions
