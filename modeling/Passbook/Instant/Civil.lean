/-!
Days and dates of the proleptic Gregorian calendar. Years are counted from March, so that a leap
day is the last day of its year.
-/

namespace Passbook

structure Date where
  year : Int
  month : Nat
  day : Nat
  deriving DecidableEq, Repr

namespace Date

def isLeap (year : Int) : Bool := year % 4 == 0 && (year % 100 != 0 || year % 400 == 0)

def daysInMonth (year : Int) (month : Nat) : Nat :=
  if month = 2 then if isLeap year then 29 else 28
  else if month = 4 ∨ month = 6 ∨ month = 9 ∨ month = 11 then 30
  else 31

def Valid (date : Date) : Prop :=
  1 ≤ date.month ∧ date.month ≤ 12 ∧ 1 ≤ date.day ∧
    date.day ≤ daysInMonth date.year date.month

instance (date : Date) : Decidable date.Valid := by unfold Valid; infer_instance

/-- The day of 1 March of year 0, counted from 1 January 1970. -/
def firstDay : Int := -719468

/-- Days from 1 March to the first day of a month, March being month 0. -/
def monthStart (month : Nat) : Nat := (153 * month + 2) / 5

/-- Days counted from 1 January 1970. -/
def toDay (date : Date) : Int :=
  let year := if date.month ≤ 2 then date.year - 1 else date.year
  let month := (date.month + 9) % 12
  firstDay + 365 * year + year / 4 - year / 100 + year / 400 + monthStart month + date.day - 1

def ofDay (day : Int) : Date :=
  let shifted := day - firstDay
  let inEra := (shifted % 146097).toNat
  let century := min 3 (inEra / 36524)
  let inCentury := inEra - century * 36524
  let cycle := inCentury / 1461
  let inCycle := inCentury - cycle * 1461
  let single := min 3 (inCycle / 365)
  let inYear := inCycle - single * 365
  let month := (5 * inYear + 2) / 153
  let year := 400 * (shifted / 146097) + 100 * century + 4 * cycle + single
  { year := if month < 10 then year else year + 1
    month := if month < 10 then month + 3 else month - 9
    day := inYear - monthStart month + 1 }

end Date

end Passbook
