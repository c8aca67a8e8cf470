import DigitalSolutions.Licensing.BillingInterval

namespace DigitalSolutions
namespace Licensing

open Persistence

/-!
# Billing intervals and calendar months

Months are counted through all years, so that an interval is a number of months
and the months divide the days among them.  An interval keeps the day of the
month; where the target month has no such day, the end lies in the month behind.
-/

/-- The first day of a month, counted from January of the year zero. -/
def firstDay (month : Int) : Int := monthStart 0 month

def daysIn (month : Int) : Int := firstDay (month + 1) - firstDay month

/-- The day since the epoch that an instant lies in. -/
def dayOf (value : Time) : Int := value / msPerDay

/-- The month that an instant lies in. -/
def calendarMonth (value : Time) : Int := 12 * (civilOfDay (dayOf value)).1 + (civilOfDay (dayOf value)).2.1

def dayOfMonth (value : Time) : Int := (civilOfDay (dayOf value)).2.2

def intervalMonths (unit : IntervalUnit) (count : Int) : Int :=
  match unit with
  | .year => 12 * count
  | .month => count

/-- The month that an interval leads to has the day of the month of its start. -/
def DayExists (value : Time) (unit : IntervalUnit) (count : Int) : Prop :=
  dayOfMonth value ≤ daysIn (calendarMonth value + intervalMonths unit count)

instance (value : Time) (unit : IntervalUnit) (count : Int) : Decidable (DayExists value unit count) :=
  inferInstanceAs (Decidable (_ ≤ _))

/-- What is wanted of two intervals that follow each other. -/
structure Composes (value : Time) (unit : IntervalUnit) (first second : Int) : Prop where
  sameMonth : calendarMonth (addBillingInterval value unit (first + second)) =
    calendarMonth (addBillingInterval (addBillingInterval value unit first) unit second)
  /-- No month is skipped. -/
  exactMonth : calendarMonth (addBillingInterval value unit (first + second)) =
    calendarMonth value + intervalMonths unit (first + second)
  later : value < addBillingInterval value unit (first + second)
  monotone : forall start, value ≤ start ->
    addBillingInterval value unit first ≤ addBillingInterval start unit first ∧
      addBillingInterval value unit (first + second) ≤ addBillingInterval start unit (first + second)

/-! ## The days of the months -/

theorem monthStart_eq_firstDay (year month : Int) : monthStart year month = firstDay (12 * year + month) := by
  have same : 12 * 0 + (12 * year + month) - 2 = 12 * year + month - 2 := by omega
  rw [firstDay, monthStart_eq, monthStart_eq, same]

theorem firstDay_strictMono : StrictMono firstDay := monthStart_strictMono 0

theorem daysIn_bounds (month : Int) : 28 ≤ daysIn month ∧ daysIn month ≤ 31 := by
  have least := monthStart_step 0 month
  have year := marchYearStart_step_le ((12 * 0 + month - 2) / 12)
  constructor
  · unfold daysIn firstDay
    omega
  · unfold daysIn firstDay
    rw [monthStart_eq, monthStart_eq]
    rcases lt_or_ge ((12 * 0 + month - 2) % 12) 11 with inside | last
    · have sameYear : (12 * 0 + (month + 1) - 2) / 12 = (12 * 0 + month - 2) / 12 := by omega
      rw [sameYear]
      omega
    · have nextYear : (12 * 0 + (month + 1) - 2) / 12 = (12 * 0 + month - 2) / 12 + 1 := by omega
      rw [nextYear]
      omega

/-- The day of the month of a day is one that its month has. -/
theorem civilOfDay_within (day : Int) : 1 ≤ (civilOfDay day).2.2 ∧
    (civilOfDay day).2.2 ≤ daysIn (12 * (civilOfDay day).1 + (civilOfDay day).2.1) := by
  have next : daysIn (12 * (civilOfDay day).1 + (civilOfDay day).2.1) =
      monthStart (civilOfDay day).1 ((civilOfDay day).2.1 + 1) -
        monthStart (civilOfDay day).1 (civilOfDay day).2.1 := by
    rw [daysIn, monthStart_eq_firstDay, monthStart_eq_firstDay, Int.add_assoc]
  rcases civilOfDay_marchYear day with ⟨year, dayOfYear, _, first, last, counted, isDay⟩
  generalize month : (5 * dayOfYear + 2) / 153 = m at counted isDay
  have length := marchYearStart_step_le year
  have lastMonth : m ≤ 11 := by omega
  have countedNext : 12 * (civilOfDay day).1 + ((civilOfDay day).2.1 + 1) - 2 = 12 * year + m + 1 := by omega
  rw [next, monthStart_eq, monthStart_eq, counted, countedNext, isDay]
  have ofYear : (12 * year + m) / 12 = year := by omega
  have ofMonth : (12 * year + m) % 12 = m := by omega
  rw [ofYear, ofMonth]
  refine ⟨by omega, ?_⟩
  rcases lt_or_ge m 11 with inside | february
  · have sameYear : (12 * year + m + 1) / 12 = year := by omega
    have nextMonth : (12 * year + m + 1) % 12 = m + 1 := by omega
    rw [sameYear, nextMonth]
    omega
  · have nextYear : (12 * year + m + 1) / 12 = year + 1 := by omega
    have firstMonth : (12 * year + m + 1) % 12 = 0 := by omega
    rw [nextYear, firstMonth]
    omega

/-! ## The month of an instant -/

variable {value start : Time} {unit : IntervalUnit} {first second count month : Int}

theorem day_eq (value : Time) : dayOf value = firstDay (calendarMonth value) + dayOfMonth value - 1 := by
  have named := monthStart_civilOfDay (dayOf value)
  rw [monthStart_eq_firstDay] at named
  exact named.symm

theorem dayOfMonth_within (value : Time) :
    1 ≤ dayOfMonth value ∧ dayOfMonth value ≤ daysIn (calendarMonth value) :=
  civilOfDay_within (dayOf value)

/-- An instant lies in the month between whose first days it is. -/
theorem calendarMonth_eq_iff : calendarMonth value = month ↔
    firstDay month ≤ dayOf value ∧ dayOf value < firstDay (month + 1) := by
  have isDay := day_eq value
  have within := dayOfMonth_within value
  have length : firstDay (calendarMonth value + 1) = firstDay (calendarMonth value) + daysIn (calendarMonth value) := by
    unfold daysIn
    omega
  constructor
  · rintro rfl
    omega
  · rintro ⟨since, before⟩
    have notEarlier : calendarMonth value < month + 1 := by
      apply firstDay_strictMono.lt_iff_lt.mp
      omega
    have notLater : month < calendarMonth value + 1 := by
      apply firstDay_strictMono.lt_iff_lt.mp
      omega
    omega

theorem dayOf_mono (le : value ≤ start) : dayOf value ≤ dayOf start := Int.ediv_le_ediv (by decide) le

theorem calendarMonth_mono (le : value ≤ start) : calendarMonth value ≤ calendarMonth start := by
  have days : dayOf value ≤ dayOf start := dayOf_mono le
  have ofValue := calendarMonth_eq_iff.mp (rfl : calendarMonth value = _)
  have ofStart := calendarMonth_eq_iff.mp (rfl : calendarMonth start = _)
  have order : calendarMonth value < calendarMonth start + 1 := by
    apply firstDay_strictMono.lt_iff_lt.mp
    omega
  omega

/-! ## The end of an interval -/

theorem addBillingInterval_eq (value : Time) (unit : IntervalUnit) (count : Int) :
    addBillingInterval value unit count =
      (firstDay (calendarMonth value + intervalMonths unit count) + dayOfMonth value - 1) * msPerDay +
        value % msPerDay := by
  cases unit with
  | month =>
    have target : monthStart (civilOfDay (dayOf value)).1 ((civilOfDay (dayOf value)).2.1 + count) =
        firstDay (calendarMonth value + count) := by
      rw [monthStart_eq_firstDay, calendarMonth, Int.add_assoc]
    rw [intervalMonths, ← target]
    rfl
  | year =>
    have target : monthStart ((civilOfDay (dayOf value)).1 + count) (civilOfDay (dayOf value)).2.1 =
        firstDay (calendarMonth value + 12 * count) := by
      rw [monthStart_eq_firstDay, calendarMonth]
      congr 1
      omega
    rw [intervalMonths, ← target]
    rfl

/-- Behind full days there is less than a day. -/
theorem dayOf_split (day : Int) (value : Time) : dayOf (day * msPerDay + value % msPerDay) = day := by
  have least : 0 ≤ value % msPerDay := Int.emod_nonneg value (by decide)
  have most : value % msPerDay < msPerDay := Int.emod_lt_of_pos value (by decide)
  rw [dayOf, Int.add_comm, Int.add_mul_ediv_right _ _ (by decide), Int.ediv_eq_zero_of_lt least most, Int.zero_add]

theorem addBillingInterval_day (value : Time) (unit : IntervalUnit) (count : Int) :
    dayOf (addBillingInterval value unit count) =
      firstDay (calendarMonth value + intervalMonths unit count) + dayOfMonth value - 1 := by
  rw [addBillingInterval_eq, dayOf_split]

/-- Within a month every instant is moved by the same time. -/
theorem addBillingInterval_shift (value : Time) (unit : IntervalUnit) (count : Int) :
    addBillingInterval value unit count = value +
      (firstDay (calendarMonth value + intervalMonths unit count) - firstDay (calendarMonth value)) * msPerDay := by
  have split : dayOf value * msPerDay + value % msPerDay = value := Int.ediv_mul_add_emod value msPerDay
  rw [day_eq] at split
  have moved : forall source target day time : Int, (target + day - 1) * msPerDay + time =
      (source + day - 1) * msPerDay + time + (target - source) * msPerDay := by
    intro source target day time
    ring
  rw [addBillingInterval_eq, moved (firstDay (calendarMonth value)), split]

theorem intervalMonths_add (unit : IntervalUnit) (first second : Int) :
    intervalMonths unit (first + second) = intervalMonths unit first + intervalMonths unit second := by
  cases unit with
  | month => rfl
  | year => exact Int.mul_add 12 first second

/-- The interval ends in the month it leads to exactly if that month has the day. -/
theorem calendarMonth_add_iff :
    calendarMonth (addBillingInterval value unit count) = calendarMonth value + intervalMonths unit count ↔
      DayExists value unit count := by
  rw [calendarMonth_eq_iff, addBillingInterval_day, DayExists, daysIn]
  have within := dayOfMonth_within value
  omega

/-- Where the month has no such day, the interval ends on one of the first days of
the month behind. -/
theorem overflow_of_not_dayExists (missing : ¬ DayExists value unit count) :
    calendarMonth (addBillingInterval value unit count) = calendarMonth value + intervalMonths unit count + 1 ∧
      dayOfMonth (addBillingInterval value unit count) ≤ 3 := by
  have within := dayOfMonth_within value
  have start := daysIn_bounds (calendarMonth value)
  have target := daysIn_bounds (calendarMonth value + intervalMonths unit count)
  have behind := daysIn_bounds (calendarMonth value + intervalMonths unit count + 1)
  have isDay := addBillingInterval_day value unit count
  rw [DayExists] at missing
  have month : calendarMonth (addBillingInterval value unit count) =
      calendarMonth value + intervalMonths unit count + 1 := by
    rw [calendarMonth_eq_iff, isDay]
    unfold daysIn at *
    omega
  refine ⟨month, ?_⟩
  have named := day_eq (addBillingInterval value unit count)
  rw [isDay, month] at named
  unfold daysIn at *
  omega

theorem dayOfMonth_add (dayExists : DayExists value unit count) :
    dayOfMonth (addBillingInterval value unit count) = dayOfMonth value := by
  have named := day_eq (addBillingInterval value unit count)
  rw [addBillingInterval_day, calendarMonth_add_iff.mpr dayExists] at named
  omega

/-- No later start has an earlier end, if the day exists where the interval leads to. -/
theorem addBillingInterval_mono (dayExists : DayExists value unit count) (le : value ≤ start) :
    addBillingInterval value unit count ≤ addBillingInterval start unit count := by
  rcases (calendarMonth_mono le).lt_or_eq with before | same
  · have month := calendarMonth_eq_iff.mp (calendarMonth_add_iff.mpr dayExists)
    have next : firstDay (calendarMonth value + intervalMonths unit count + 1) ≤
        firstDay (calendarMonth start + intervalMonths unit count) := by
      apply firstDay_strictMono.monotone
      omega
    have within := dayOfMonth_within start
    have isDay := addBillingInterval_day start unit count
    apply le_of_not_gt
    intro later
    have days := dayOf_mono later.le
    omega
  · rw [addBillingInterval_shift, addBillingInterval_shift start, ← same]
    exact Int.add_le_add_right le _

/-- Two intervals add up to the interval of both, without skipping a month, exactly
if the day of the month of the start exists where each of the two sums leads to. -/
theorem billingInterval_composes_iff (value : Time) (unit : IntervalUnit) {first second : Int}
    (firstPositive : 0 < first) (secondPositive : 0 < second) :
    Composes value unit first second ↔ DayExists value unit first ∧ DayExists value unit (first + second) := by
  constructor
  · intro composes
    have whole := calendarMonth_add_iff.mp composes.exactMonth
    refine ⟨?_, whole⟩
    by_contra missing
    rcases overflow_of_not_dayExists missing with ⟨behind, early⟩
    have least := (daysIn_bounds (calendarMonth (addBillingInterval value unit first) + intervalMonths unit second)).1
    have later : DayExists (addBillingInterval value unit first) unit second := by
      unfold DayExists
      omega
    have same := composes.sameMonth
    rw [composes.exactMonth, calendarMonth_add_iff.mpr later, behind, intervalMonths_add] at same
    omega
  · rintro ⟨part, whole⟩
    have exactMonth := calendarMonth_add_iff.mpr whole
    have partMonth := calendarMonth_add_iff.mpr part
    have rest : DayExists (addBillingInterval value unit first) unit second := by
      have target : calendarMonth value + intervalMonths unit first + intervalMonths unit second =
          calendarMonth value + intervalMonths unit (first + second) := by
        rw [intervalMonths_add, Int.add_assoc]
      rw [DayExists, dayOfMonth_add part, partMonth, target]
      exact whole
    constructor
    · rw [exactMonth, calendarMonth_add_iff.mpr rest, partMonth, intervalMonths_add, Int.add_assoc]
    · exact exactMonth
    · exact addBillingInterval_later value unit (by omega)
    · intro start le
      exact ⟨addBillingInterval_mono part le, addBillingInterval_mono whole le⟩

/-- Two months after 31 January 2026 lie in March, a month and another month in
April; and a year after 29 February 2028 lies in March. -/
theorem billingInterval_not_composes :
    ¬ Composes 1769817600000 .month 1 1 ∧ ¬ Composes 1835395200000 .year 1 1 := by
  constructor
  · intro composes
    exact absurd composes.sameMonth (by decide)
  · intro composes
    exact absurd composes.exactMonth (by decide)

theorem billingInterval_composes_midMonth : Composes 1768435200000 .month 1 1 := by
  apply (billingInterval_composes_iff 1768435200000 .month (by decide) (by decide)).mpr
  decide

end Licensing
end DigitalSolutions
