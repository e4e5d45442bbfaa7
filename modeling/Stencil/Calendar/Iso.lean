import Stencil.Calendar.Date
import Stencil.Calendar.Moment
import Stencil.Text.Character

/-!
Dates and times in the international notation: year, month and day, or year, week and day of the
week, with hyphens or without; then after any one character a time of day; then perhaps a distance
from universal time.
-/

namespace Stencil.Calendar.Iso

def cutNumber? (n : Nat) (cs : List Char) : Option (Nat × List Char) :=
  let ds := cs.take n
  if ds.length = n ∧ ds.all Char.isDigit = true then some (Text.number ds, cs.drop n) else none

/-- Where the date ends. A week is ambiguous before digits without hyphens, since the character
after the date may be a digit itself: an even number of digits in a row is then taken to begin with
the day of the week. -/
def dateLength (cs : List Char) : Nat :=
  if cs.length = 7 then 7
  else if cs[4]? = some '-' then
    if cs[5]? = some 'W' then
      if cs[8]? = some '-' then if (cs[10]?).any Char.isDigit then 8 else 10 else 8
    else 10
  else if cs[4]? = some 'W' then
    let digits := ((cs.drop 7).takeWhile Char.isDigit).length
    if digits < 2 then 7 + digits else if digits % 2 = 1 then 7 else 8
  else 8

def firstMonday (year : Nat) : Int :=
  let first := (daysBeforeYear year : Int) + 1
  let weekday := (first - 1) % 7
  first - weekday + if 3 < weekday then 7 else 0

/-- A year has 53 weeks if its first of January is a Thursday, or a Wednesday of a leap year. -/
def hasWeek (year week : Nat) : Bool :=
  let weekday := daysBeforeYear year % 7
  0 < week && (week < 53 || week == 53 && (weekday == 3 || weekday == 2 && isLeap year))

def ofWeek? (year week day : Nat) : Option Date :=
  if 1 ≤ year ∧ hasWeek year week ∧ 1 ≤ day ∧ day ≤ 7 then
    Date.ofNumber? (firstMonday year + (week - 1 : Nat) * 7 + (day - 1 : Nat)).toNat
  else none

def hyphen? (used : Bool) (cs : List Char) : Option (List Char) :=
  if used then
    match cs with
    | '-' :: cs => some cs
    | _ => none
  else some cs

def date? (cs : List Char) : Option Date := do
  let (year, cs) ← cutNumber? 4 cs
  let used := cs.head? = some '-'
  let cs := if used then cs.tail else cs
  match cs with
  | 'W' :: cs =>
    let (week, cs) ← cutNumber? 2 cs
    if cs.isEmpty then ofWeek? year week 1
    else
      let cs ← hyphen? used cs
      let (day, _) ← cutNumber? 1 cs
      ofWeek? year week day
  | cs =>
    let (month, cs) ← cutNumber? 2 cs
    let cs ← hyphen? used cs
    let (day, cs) ← cutNumber? 2 cs
    if cs.isEmpty then (Date.ofParts year month day).toOption else none

/-- The parts of a time of day, or of a distance. It is ragged if something is left at its end. -/
structure Clock where
  hour : Nat
  minute : Nat
  second : Nat
  microsecond : Nat
  ragged : Bool

def isRagged : List Char → Bool
  | [] => false
  | c :: _ => c != '\x00'

def fraction? (cs : List Char) : Option (Nat × Bool) := do
  let width := min cs.length 6
  let (n, cs) ← cutNumber? width cs
  return (n * Nat.pow 10 (6 - width), isRagged (cs.dropWhile Char.isDigit))

/-- The two-digit numbers of a time, at most `n` of them: with a colon after each or, where the
first has none, without; then perhaps a point or a comma and a fraction. One more ASCII character
may follow, which makes the time ragged unless it is a null character. -/
def numbers? (colons : Option Bool) : Nat → List Char → Option (List Nat × Nat × Bool)
  | 0, cs => (fraction? cs).map fun r => ([], r)
  | n + 1, cs => do
    let (v, cs) ← cutNumber? 2 cs
    match cs with
    | [] => return ([v], 0, false)
    | [c] => if c.toNat < 128 then some ([v], 0, isRagged [c]) else none
    | c :: rest =>
      let colons := colons.getD (c == ':')
      if colons && c == ':' then
        let (vs, f) ← numbers? (some colons) n rest
        return (v :: vs, f)
      else if c == '.' || c == ',' then
        let f ← fraction? rest
        return ([v], f)
      else if colons then none
      else
        let (vs, f) ← numbers? (some colons) n cs
        return (v :: vs, f)

def clock? (cs : List Char) : Option Clock := do
  let (vs, microsecond, ragged) ← numbers? none 3 cs
  return ⟨vs.getD 0 0, vs.getD 1 0, vs.getD 2 0, microsecond, ragged⟩

/-- The microseconds of a distance. One of no whole second is none at all. -/
def Clock.distance (c : Clock) : Int :=
  let seconds := (c.hour * 60 + c.minute) * 60 + c.second
  if seconds = 0 then 0 else seconds * microsecondsPerSecond + c.microsecond

def isSign (c : Char) : Bool :=
  c == '+' || c == '-'

def time? (cs : List Char) : Option (Clock × Option Int) := do
  let clock ← clock? (cs.takeWhile fun c => !isSign c)
  let offset ← match cs.dropWhile fun c => !isSign c with
    | [] => if clock.ragged then none else some none
    | sign :: cs => do
      let c ← clock? cs
      if c.ragged ∨ microsecondsPerDay ≤ c.distance.natAbs then none
      else some (some (if sign == '-' then -c.distance else c.distance))
  if clock.hour < 24 ∧ clock.minute < 60 ∧ clock.second < 60 then some (clock, offset) else none

def stamp? (cs : List Char) : Option Stamp := do
  let n := dateLength cs
  let t ← date? (cs.take n)
  match cs.drop n with
  | [] => return .ofParts t 0 0 0 0 none
  | _ :: rest =>
    let (c, offset) ← time? rest
    return .ofParts t c.hour c.minute c.second c.microsecond offset

end Stencil.Calendar.Iso
