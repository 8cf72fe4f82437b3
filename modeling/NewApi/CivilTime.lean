import Mathlib.Tactic.Common

/-! The proleptic Gregorian calendar and the clocks of a place, as Go's `time`
package has them: the date of an instant, the instant of a date whose month and
day may lie outside their ranges, and the addition of years, months and days.
Instants are whole seconds since 1970. Nothing here depends on what is timed. -/
namespace NewApi.CivilTime

/-! ## Days -/

def isLeap (year : Int) : Bool := year % 4 = 0 && (year % 100 ≠ 0 || year % 400 = 0)

def daysBeforeYear (year : Int) : Int :=
  365 * (year - 1) + (year - 1) / 4 - (year - 1) / 100 + (year - 1) / 400

def daysBeforeMonth (leap : Bool) : Nat → Int
  | 0 => 0
  | 1 => 31
  | month + 2 => [59, 90, 120, 151, 181, 212, 243, 273, 304, 334].getD month 365 + if leap then 1 else 0

def monthStart (index : Int) : Int :=
  daysBeforeYear (index / 12) + daysBeforeMonth (isLeap (index / 12)) (index % 12).toNat

theorem year_length (year : Int) :
    daysBeforeYear (year + 1) = daysBeforeYear year + 365 + if isLeap year then 1 else 0 := by
  simp only [daysBeforeYear, isLeap, Bool.and_eq_true, Bool.or_eq_true, decide_eq_true_eq]
  split <;> omega

theorem month_in_year (leap : Bool) : ∀ month < 11,
    daysBeforeMonth leap month + 28 ≤ daysBeforeMonth leap (month + 1) := by
  cases leap <;> decide

theorem december_length (leap : Bool) : daysBeforeMonth leap 11 + 31 = 365 + if leap then 1 else 0 := by
  cases leap <;> decide

theorem month_length (index : Int) : monthStart index + 28 ≤ monthStart (index + 1) := by
  obtain ⟨month, shape⟩ := Int.eq_ofNat_of_zero_le (show 0 ≤ index % 12 by omega)
  by_cases last : month = 11
  · have year : (index + 1) / 12 = index / 12 + 1 := by omega
    have first : (index + 1) % 12 = 0 := by omega
    have december := december_length (isLeap (index / 12))
    have january : daysBeforeMonth (isLeap (index / 12 + 1)) 0 = 0 := rfl
    simp only [monthStart, shape, year, first, year_length, last, Int.toNat_natCast, Int.toNat_zero, january]
    omega
  · have year : (index + 1) / 12 = index / 12 := by omega
    have next : (index + 1) % 12 = (month + 1 : Nat) := by omega
    have longer := month_in_year (isLeap (index / 12)) month (by omega)
    simp only [monthStart, shape, year, next, Int.toNat_natCast]
    omega

theorem months_length (index : Int) (months : Nat) :
    monthStart index + 28 * months ≤ monthStart (index + months) := by
  induction months with
  | zero => simp
  | succ months ih =>
    have step := month_length (index + months)
    rw [Int.add_assoc] at step
    push_cast
    omega

def yearOf (days : Int) : Int :=
  let inCycle := days % 146097
  let centuries := min 3 (inCycle / 36524)
  let inCentury := inCycle - 36524 * centuries
  let fours := inCentury / 1461
  let inFour := inCentury % 1461
  let ones := min 3 (inFour / 365)
  400 * (days / 146097) + 100 * centuries + 4 * fours + ones + 1

def monthOf (leap : Bool) (yearDay : Int) : Nat :=
  ((List.range 12).filter fun month => daysBeforeMonth leap month ≤ yearDay).length - 1

structure Date where
  year : Int
  month : Int
  day : Int
  deriving DecidableEq, Repr

/-- The days from the start of 1970 to a date; a month or a day outside its range
is carried over, as `time.Date` does. -/
def Date.number (date : Date) : Int := monthStart (12 * date.year + date.month) + (date.day - 1) - 719162

def dateOf (number : Int) : Date :=
  let days := number + 719162
  let year := yearOf days
  let yearDay := days - daysBeforeYear year
  let month := monthOf (isLeap year) yearDay
  { year, month, day := yearDay - daysBeforeMonth (isLeap year) month + 1 }

theorem month_of_lt (leap : Bool) (yearDay : Int) : monthOf leap yearDay < 12 := by
  have few := List.length_filter_le (fun month => decide (daysBeforeMonth leap month ≤ yearDay)) (List.range 12)
  simp only [List.length_range] at few
  unfold monthOf
  omega

@[simp] theorem date_of_number (number : Int) : (dateOf number).number = number := by
  have small := month_of_lt (isLeap (yearOf (number + 719162)))
    (number + 719162 - daysBeforeYear (yearOf (number + 719162)))
  simp only [Date.number, dateOf, monthStart]
  generalize monthOf (isLeap (yearOf (number + 719162)))
    (number + 719162 - daysBeforeYear (yearOf (number + 719162))) = month at small ⊢
  have year : (12 * yearOf (number + 719162) + month) / 12 = yearOf (number + 719162) := by omega
  have inYear : ((12 * yearOf (number + 719162) + month) % 12).toNat = month := by omega
  rw [year, inYear]
  omega

def Date.add (date : Date) (years months days : Nat) : Date where
  year := date.year + years
  month := date.month + months
  day := date.day + days

theorem date_add_number (date : Date) (years months days : Nat) :
    date.number + 28 * (12 * years + months) + days ≤ (date.add years months days).number := by
  have gone := months_length (12 * date.year + date.month) (12 * years + months)
  have shape : 12 * (date.year + years) + (date.month + months) =
      12 * date.year + date.month + (12 * years + months : Nat) := by
    push_cast
    omega
  simp only [Date.number, Date.add, shape]
  push_cast at gone ⊢
  omega

/-! ## Clocks -/

/-- The offsets of a place in seconds east of Greenwich, by the instant. They are
never more than half a day apart. -/
structure Zone where
  offsetAt : Int → Int
  near : ∀ instant other, offsetAt instant ≤ offsetAt other + 43200

/-- `time.FixedZone`. -/
def fixedZone (offset : Int) : Zone where
  offsetAt := fun _ => offset
  near := fun _ _ => by omega

def Zone.local_ (zone : Zone) (instant : Int) : Int := instant + zone.offsetAt instant

/-- `time.Date`: the instant at which the clocks show a time, by the offset that
was in force then. -/
def Zone.instant (zone : Zone) (local_ : Int) : Int :=
  local_ - zone.offsetAt (local_ - zone.offsetAt local_)

/-- `time.Time.AddDate`. -/
def addDate (zone : Zone) (years months days : Nat) (instant : Int) : Int :=
  let shown := zone.local_ instant
  zone.instant (86400 * ((dateOf (shown / 86400)).add years months days).number + shown % 86400)

def atClock (zone : Zone) (seconds instant : Int) : Int :=
  zone.instant (86400 * (dateOf (zone.local_ instant / 86400)).number + seconds)

theorem add_date_later (zone : Zone) (years months days : Nat) (instant : Int) :
    instant + 86400 * (28 * (12 * years + months) + days) - 43200 ≤
      addDate zone years months days instant := by
  have gone := date_add_number (dateOf (zone.local_ instant / 86400)) years months days
  rw [date_of_number] at gone
  simp only [addDate, Zone.instant, Zone.local_] at gone ⊢
  have change := zone.near
    (86400 * ((dateOf ((instant + zone.offsetAt instant) / 86400)).add years months days).number +
      (instant + zone.offsetAt instant) % 86400 - zone.offsetAt
        (86400 * ((dateOf ((instant + zone.offsetAt instant) / 86400)).add years months days).number +
          (instant + zone.offsetAt instant) % 86400)) instant
  omega

theorem at_clock_in_day (zone : Zone) (low : 0 ≤ seconds) (instant : Int) :
    instant - 86399 - 43200 ≤ atClock zone seconds instant := by
  simp only [atClock, Zone.instant, Zone.local_, date_of_number]
  have change := zone.near
    (86400 * ((instant + zone.offsetAt instant) / 86400) + seconds - zone.offsetAt
      (86400 * ((instant + zone.offsetAt instant) / 86400) + seconds)) instant
  omega

example : dateOf 19782 = { year := 2024, month := 1, day := 29 } := by decide +kernel

end NewApi.CivilTime
