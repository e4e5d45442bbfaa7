import Stencil.Calendar.Instant
import Stencil.Calendar.Iso
import Stencil.Host
import Stencil.Text.Quoted

/-!
Reading the dates that data holds: numbers of milliseconds, and texts in the international notation
or as people write them.
-/

namespace Stencil.Calendar

/-- What the date filter takes from its surroundings: local time, and a parser of the texts that are
not in the international notation. -/
structure Setting where
  zone : Zone
  parse : List Char → Except Raised Stamp

/-- A setting in which dates are read in the international notation alone. -/
def Setting.international (z : Zone) : Setting :=
  ⟨z, fun cs => .error ⟨.value, "Unknown string format: " ++ String.ofList cs⟩⟩

inductive Unreadable
  | instant (f : InstantFault)
  | date (f : DateFault)
  | foreignDigits (s : String)
  | raised (r : Raised)
  deriving DecidableEq

namespace DateFault

def message : DateFault → String
  | .year y => "year " ++ Number.integerText y ++ " is out of range"
  | .month => "month must be in 1..12"
  | .day => "day is out of range for month"

end DateFault

namespace InstantFault

def message : InstantFault → String
  | .tooLarge => "integer division result too large for a float"
  | .undefined => "Invalid value NaN (not a number)"
  | .beyondClock => "timestamp out of range for platform time_t"
  | .beyondYears => "[Errno 75] Value too large for defined data type"
  | .year y => "year " ++ Number.integerText y ++ " is out of range"

end InstantFault

namespace Unreadable

def message : Unreadable → String
  | .instant f => f.message
  | .date f => f.message
  | .foreignDigits s => "Invalid isoformat string: " ++ quoted s
  | .raised r => r.message

end Unreadable

/-- An exception of the parser makes a text unreadable only if it is of a kind that is caught. -/
inductive TextFault
  | unreadable (u : Unreadable)
  | raised (r : Raised)
  deriving DecidableEq

def isDateOnly (cs : List Char) : Bool :=
  cs.length == 10 && cs[4]? == some '-' && cs[7]? == some '-' &&
    (cs.take 4 ++ (cs.drop 5).take 2 ++ cs.drop 8).all Text.isDigit

def dateOnly (cs : List Char) : Except Unreadable Stamp :=
  if (cs.take 4 ++ (cs.drop 5).take 2 ++ cs.drop 8).all Char.isDigit then
    ((Date.ofParts (Text.number (cs.take 4)) (Text.number ((cs.drop 5).take 2))
      (Text.number (cs.drop 8))).mapError .date).map fun t => .ofParts t 0 0 0 0 none
  else .error (.foreignDigits (String.ofList cs))

def expandZulu (cs : List Char) : List Char :=
  cs.flatMap fun c => if c = 'Z' then "+00:00".toList else [c]

def stampOfOther (g : Setting) (cs : List Char) : Except TextFault Stamp :=
  (g.parse cs).mapError fun r => if r.kind.isCaught then .unreadable (.raised r) else .raised r

def stampOfText (g : Setting) (cs : List Char) : Except TextFault Stamp :=
  if isDateOnly cs then (dateOnly cs).mapError .unreadable
  else
    match Iso.stamp? (expandZulu cs) with
    | some s => .ok s
    | none => stampOfOther g cs

end Stencil.Calendar
