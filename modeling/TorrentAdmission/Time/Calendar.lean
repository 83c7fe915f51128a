/-!
# The calendar

Days of the proleptic Gregorian calendar, counted from 1 January 1970, and their dates.
-/

namespace TorrentAdmission.Time

structure Date where
  year : Int
  month : Nat
  day : Nat
  deriving DecidableEq, Repr

def isLeap (year : Int) : Bool :=
  year % 4 == 0 && (year % 100 != 0 || year % 400 == 0)

def monthLength (year : Int) (month : Nat) : Nat :=
  if month = 2 then (if isLeap year then 29 else 28)
  else if month = 4 ∨ month = 6 ∨ month = 9 ∨ month = 11 then 30
  else 31

def yearRange : Int × Int := (-262143, 262142)

def Date.isValid (d : Date) : Bool :=
  decide (yearRange.1 ≤ d.year ∧ d.year ≤ yearRange.2) && decide (1 ≤ d.month ∧ d.month ≤ 12)
    && decide (1 ≤ d.day ∧ d.day ≤ monthLength d.year d.month)

/-- The number of days from 1 January 1970 to `d`. Years are counted from March, so that the leap
day is the last day of its year. -/
def Date.toDay (d : Date) : Int :=
  let year := if d.month ≤ 2 then d.year - 1 else d.year
  let month : Int := if d.month ≤ 2 then d.month + 9 else d.month - 3
  let dayOfYear := (153 * month + 2) / 5 + d.day - 1
  365 * year + year / 4 - year / 100 + year / 400 + dayOfYear - 719468

def Date.ofDay (n : Int) : Date :=
  let n := n + 719468
  let era := n / 146097
  let dayOfEra := n % 146097
  let yearOfEra := (dayOfEra - dayOfEra / 1460 + dayOfEra / 36524 - dayOfEra / 146096) / 365
  let dayOfYear := dayOfEra - (365 * yearOfEra + yearOfEra / 4 - yearOfEra / 100)
  let month := (5 * dayOfYear + 2) / 153
  let day := dayOfYear - (153 * month + 2) / 5 + 1
  let year := yearOfEra + 400 * era
  if month < 10 then ⟨year, (month + 3).toNat, day.toNat⟩
  else ⟨year + 1, (month - 9).toNat, day.toNat⟩

end TorrentAdmission.Time
