/-!
# Days of the calendar

Days are counted from the first of January 1970, in the Gregorian calendar extended to all years.
-/

namespace ClusterView.Calendar

/-- Whether a year has a twenty-ninth of February. -/
def isLeap (year : Int) : Bool := year % 4 = 0 && (year % 100 ≠ 0 || year % 400 = 0)

/-- The number of days of a month. -/
def daysInMonth (year : Int) (month : Nat) : Nat :=
  match month with
  | 2 => if isLeap year then 29 else 28
  | 4 | 6 | 9 | 11 => 30
  | _ => 31

/-- The days from the beginning of the year 0 to the beginning of a year. -/
def daysBeforeYear (year : Int) : Int :=
  365 * year + (year + 3) / 4 - (year + 99) / 100 + (year + 399) / 400

/-- The days from the beginning of a year to the beginning of a month. -/
def daysBeforeMonth (year : Int) (month : Nat) : Nat :=
  (List.range (month - 1)).foldl (fun days m => days + daysInMonth year (m + 1)) 0

/-- The number of a day, which is 0 for the first of January 1970. -/
def dayNumber (year : Int) (month day : Nat) : Int :=
  daysBeforeYear year + daysBeforeMonth year month + day - 1 - daysBeforeYear 1970

/-- Whether the calendar has a date. -/
def isDate (year : Int) (month day : Nat) : Bool :=
  1 ≤ month && month ≤ 12 && 1 ≤ day && day ≤ daysInMonth year month

/-- The month, from one of the given number on, and the day of the month that lie a number of days
after the beginning of that month. -/
def monthAndDay (year : Int) (day : Nat) : Nat → Nat → Nat × Nat
  | 0, month => (month, day + 1)
  | left + 1, month =>
    if day < daysInMonth year month then (month, day + 1)
    else monthAndDay year (day - daysInMonth year month) left (month + 1)

/-- The year in which a day lies, counted from the beginning of the year 0. The calendar repeats
after four centuries; within them a year has at most 366 days, so a count of such years falls short
by less than three. -/
def yearOf (day : Int) : Int :=
  let guess := day / 146097 * 400 + day % 146097 / 366
  if day < daysBeforeYear (guess + 1) then guess
  else if day < daysBeforeYear (guess + 2) then guess + 1
  else guess + 2

/-- The year, month and day of the month of a day number. -/
def dateOf (number : Int) : Int × Nat × Nat :=
  let day := number + daysBeforeYear 1970
  let year := yearOf day
  (year, monthAndDay year (day - daysBeforeYear year).toNat 11 1)

end ClusterView.Calendar
