/-!
Days of the proleptic Gregorian calendar, numbered from 1 January 1970.
-/

namespace RequestLog

structure Date where
  year : Int
  month : Nat
  day : Nat
deriving DecidableEq, Repr

namespace Date

def isLeap (year : Int) : Bool :=
  year % 4 == 0 && (year % 100 != 0 || year % 400 == 0)

def daysIn (year : Int) (month : Nat) : Nat :=
  if month = 2 then (if isLeap year then 29 else 28)
  else if month = 4 ∨ month = 6 ∨ month = 9 ∨ month = 11 then 30
  else 31

def isValid (date : Date) : Bool :=
  1 ≤ date.month && date.month ≤ 12 && 1 ≤ date.day && date.day ≤ daysIn date.year date.month

/-- Days of the year before the month begins. -/
def daysBefore (year : Int) : Nat → Nat
  | 0 => 0
  | 1 => 0
  | month + 1 => daysBefore year month + daysIn year month

/-- Days from 1 January of the year 1 to 1 January of `year`. -/
def daysToYear (year : Int) : Int :=
  365 * (year - 1) + (year - 1) / 4 - (year - 1) / 100 + (year - 1) / 400

/-- Days from 1 January of the year 1 to 1 January 1970. -/
def epochDay : Int := 719162

def toDay (date : Date) : Int :=
  daysToYear date.year + daysBefore date.year date.month + (date.day : Int) - 1 - epochDay

/-- The year in which day `n` after 1 January of the year 1 falls, and its place in that year. -/
def yearAndDay (n : Int) : Int × Nat :=
  let era := n / 146097
  let d := (n % 146097).toNat
  let century := min (d / 36524) 3
  let d := d - century * 36524
  let cycle := d / 1461
  let d := d - cycle * 1461
  let year := min (d / 365) 3
  (era * 400 + century * 100 + cycle * 4 + year + 1, d - year * 365)

/-- The month from `month` on in which the day falls that is `d` days after its beginning. -/
def monthAndDay (year : Int) (month : Nat) : Nat → Nat → Nat × Nat
  | 0, d => (month, d + 1)
  | later + 1, d =>
    if d < daysIn year month then (month, d + 1)
    else monthAndDay year (month + 1) later (d - daysIn year month)

def ofDay (n : Int) : Date :=
  let (year, d) := yearAndDay (n + epochDay)
  let (month, day) := monthAndDay year 1 11 d
  ⟨year, month, day⟩

end Date

end RequestLog
