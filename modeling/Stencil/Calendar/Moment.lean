import Stencil.Calendar.Date

/-!
Moments of local time, and time stamps, which may say how far their own clock is from universal
time.
-/

namespace Stencil.Calendar

structure Moment where
  date : Date
  second : Nat
  second_lt : second < 86400
  deriving DecidableEq

def microsecondsPerSecond : Nat := 1000000

def microsecondsPerDay : Nat := 86400 * microsecondsPerSecond

namespace Moment

def hour (t : Moment) : Nat :=
  t.second / 3600

def minute (t : Moment) : Nat :=
  t.second / 60 % 60

def secondOfMinute (t : Moment) : Nat :=
  t.second % 60

def hour12 (t : Moment) : Nat :=
  if t.hour % 12 = 0 then 12 else t.hour % 12

def ofMicroseconds? (n : Int) : Option Moment :=
  if n < 0 then none
  else
    (Date.ofNumber? (n.toNat / microsecondsPerDay + 1)).map fun t =>
      ⟨t, n.toNat % microsecondsPerDay / microsecondsPerSecond, by
        have : n.toNat % microsecondsPerDay < 86400 * 1000000 := Nat.mod_lt _ (by decide)
        rw [Nat.div_lt_iff_lt_mul (by decide)]
        exact this⟩

end Moment

/-- The distance of local time from universal time, in seconds towards the east. -/
structure Zone where
  seconds : Int
  deriving DecidableEq

/-- A time as a text gives it: microseconds after the calendar begins on a clock whose distance from
universal time, in microseconds, may be known. -/
structure Stamp where
  clock : Int
  offset : Option Int
  deriving DecidableEq

inductive StampFault
  | offset
  | range
  deriving DecidableEq

namespace Stamp

def ofParts (t : Date) (hour minute second microsecond : Nat) (offset : Option Int) : Stamp :=
  ⟨(t.number - 1 : Nat) * microsecondsPerDay +
    ((hour * 60 + minute) * 60 + second : Nat) * microsecondsPerSecond + microsecond, offset⟩

def at? (n : Int) : Except StampFault Moment :=
  match Moment.ofMicroseconds? n with
  | some t => .ok t
  | none => .error .range

/-- Local time: what the clock shows, or the same instant on the local clock where the offset is
known. The calendar must have the instant in universal time too. -/
def toLocal (z : Zone) (s : Stamp) : Except StampFault Moment :=
  match s.offset with
  | none => at? s.clock
  | some o =>
    if microsecondsPerDay ≤ o.natAbs then .error .offset
    else do
      let _ ← at? (s.clock - o)
      at? (s.clock - o + z.seconds * microsecondsPerSecond)

end Stamp

end Stencil.Calendar
