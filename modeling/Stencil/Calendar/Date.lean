/-!
Dates of the Gregorian calendar from the year 1 to the year 9999, their numbers, counted from the
first of them, and their weeks. A week belongs to the year of its Thursday, so that it has one
number throughout.
-/

namespace Stencil.Calendar

def isLeap (y : Nat) : Bool :=
  y % 4 == 0 && (y % 100 != 0 || y % 400 == 0)

def monthLengths (y : Nat) : List Nat :=
  [31, if isLeap y then 29 else 28, 31, 30, 31, 30, 31, 31, 30, 31, 30, 31]

def daysInMonth (y m : Nat) : Nat :=
  ((monthLengths y)[m - 1]?).getD 0

def daysBeforeMonth (y m : Nat) : Nat :=
  ((monthLengths y).take (m - 1)).foldl Nat.add 0

def daysBeforeYear (y : Nat) : Nat :=
  365 * (y - 1) + (y - 1) / 4 - (y - 1) / 100 + (y - 1) / 400

inductive DateFault
  | year (y : Nat)
  | month
  | day
  deriving DecidableEq

structure Date where
  year : Nat
  month : Nat
  day : Nat
  year_mem : 1 ≤ year ∧ year ≤ 9999
  month_mem : 1 ≤ month ∧ month ≤ 12
  day_mem : 1 ≤ day ∧ day ≤ daysInMonth year month
  deriving DecidableEq

inductive WeekStart
  | sunday
  | monday
  deriving DecidableEq

namespace Date

def ofParts (y m d : Nat) : Except DateFault Date :=
  if hy : 1 ≤ y ∧ y ≤ 9999 then
    if hm : 1 ≤ m ∧ m ≤ 12 then
      if hd : 1 ≤ d ∧ d ≤ daysInMonth y m then .ok ⟨y, m, d, hy, hm, hd⟩ else .error .day
    else .error .month
  else .error (.year y)

def dayOfYear (t : Date) : Nat :=
  daysBeforeMonth t.year t.month + t.day

def number (t : Date) : Nat :=
  daysBeforeYear t.year + t.dayOfYear

def yearOfNumber (n : Nat) : Nat :=
  let y := 400 * (n - 1) / 146097 + 1
  if daysBeforeYear (y + 1) < n then y + 1 else if n ≤ daysBeforeYear y then y - 1 else y

/-- Cuts a count of days along month lengths, of which the first is that of month `m`. -/
def splitDays (m : Nat) : List Nat → Nat → Nat × Nat
  | [], d => (m, d)
  | l :: ls, d => if d ≤ l then (m, d) else splitDays (m + 1) ls (d - l)

def ofNumber? (n : Nat) : Option Date :=
  let y := yearOfNumber n
  let (m, d) := splitDays 1 (monthLengths y) (n - daysBeforeYear y)
  (ofParts y m d).toOption

/-- The day of the week, from Sunday, which is zero. -/
def weekday (t : Date) : Nat :=
  t.number % 7

/-- The place of a date in its week. A week from Sunday counts from zero and one from Monday counts
from one, so that Thursday is the fourth day of both. -/
def dayOfWeek (start : WeekStart) (t : Date) : Nat :=
  match start with
  | .sunday => t.weekday
  | .monday => if t.weekday = 0 then 7 else t.weekday

def thursday (start : WeekStart) (t : Date) : Nat :=
  t.number + 4 - t.dayOfWeek start

/-- The week of the year in which the Thursday lies. -/
def week (start : WeekStart) (t : Date) : Nat :=
  let n := t.thursday start
  (n - (daysBeforeYear (yearOfNumber n) + 1)) / 7 + 1

end Date

end Stencil.Calendar
