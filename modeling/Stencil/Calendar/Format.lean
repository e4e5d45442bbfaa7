import Stencil.Calendar.Date
import Stencil.Calendar.Moment
import Stencil.Decimal

/-!
Formats of moments: text in which a percent sign and the character after it stand for a part of the
moment.
-/

namespace Stencil.Calendar

def weekdayNames : List String :=
  ["Sunday", "Monday", "Tuesday", "Wednesday", "Thursday", "Friday", "Saturday"]

def monthNames : List String :=
  ["January", "February", "March", "April", "May", "June", "July", "August", "September",
   "October", "November", "December"]

def padded (fill : Char) (width n : Nat) : List Char :=
  let ds := Decimal.digits n
  List.replicate (width - ds.length) fill ++ ds

namespace Date

def weekdayName (t : Date) : List Char :=
  (weekdayNames.getD t.weekday "").toList

def monthName (t : Date) : List Char :=
  (monthNames.getD (t.month - 1) "").toList

end Date

namespace Moment

def directive? (t : Moment) : Char → Option (List Char)
  | 'Y' => some (Decimal.digits t.date.year)
  | 'm' => some (padded '0' 2 t.date.month)
  | 'd' => some (padded '0' 2 t.date.day)
  | 'H' => some (padded '0' 2 t.hour)
  | 'M' => some (padded '0' 2 t.minute)
  | 'S' => some (padded '0' 2 t.secondOfMinute)
  | 'I' => some (padded '0' 2 t.hour12)
  | 'p' => some (if 12 ≤ t.hour then ['P', 'M'] else ['A', 'M'])
  | 'w' => some (Decimal.digits t.date.weekday)
  | 'j' => some (padded '0' 3 t.date.dayOfYear)
  | 'U' => some (padded '0' 2 (t.date.week .sunday))
  | 'W' => some (padded '0' 2 (t.date.week .monday))
  | 'a' => some (t.date.weekdayName.take 3)
  | 'A' => some t.date.weekdayName
  | 'b' => some (t.date.monthName.take 3)
  | 'B' => some t.date.monthName
  | '%' => some ['%']
  | _ => none

def format (t : Moment) : List Char → List Char
  | [] => []
  | '%' :: c :: cs => (t.directive? c).getD ['%', c] ++ format t cs
  | c :: cs => c :: format t cs

/-- The form of a moment when no format is asked for, as in `Mon Jan  5 10:00:00 2024`. -/
def plain (t : Moment) : List Char :=
  t.date.weekdayName.take 3 ++ ' ' :: t.date.monthName.take 3 ++ ' ' :: padded ' ' 2 t.date.day ++
    t.format " %H:%M:%S %Y".toList

end Moment

end Stencil.Calendar
