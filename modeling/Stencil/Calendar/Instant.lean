import Stencil.Calendar.Moment
import Stencil.Number.Text

/-!
Instants as numbers of milliseconds since the first of January 1970, universal time.
-/

namespace Stencil.Calendar

inductive InstantFault
  | tooLarge
  | undefined
  | beyondClock
  | beyondYears
  | year (y : Int)
  deriving DecidableEq

def epoch : Nat := 719162 * 86400

namespace Instant

def thousandth : Number → Binary64
  | .int n => Binary64.ofQuotient (n < 0) n.natAbs 1000
  | .float x => x.divNat 1000

/-- The whole seconds of `m * 2 ^ k` units of a second, after the fraction has been rounded to
microseconds. -/
def wholeSeconds (negative : Bool) (m k : Nat) : Int :=
  let u := Binary64.units m k
  let whole := u / Binary64.one
  let microseconds :=
    match Binary64.ofUnits false (u % Binary64.one * microsecondsPerSecond) 1 with
    | .finite _ m k _ => Binary64.roundDiv (Binary64.units m k) Binary64.one
    | _ => 0
  if negative then if 0 < microseconds then -(whole : Int) - 1 else -(whole : Int)
  else if microsecondsPerSecond ≤ microseconds then whole + 1 else whole

/-- The year of a second counted from the beginning of the calendar, in the calendar continued
without end in both directions. -/
def yearOfSecond (s : Int) : Int :=
  let cycle : Int := 146097 * 86400
  400 * s.fdiv cycle + Date.yearOfNumber ((s.fmod cycle).toNat / 86400 + 1)

/-- Whether the years from 1900 to that of a second do not fit into 32 bits. -/
def isBeyondYears (s : Int) : Bool :=
  let years := yearOfSecond s - 1900
  decide (years < -Int.pow 2 31) || decide (Int.pow 2 31 ≤ years)

/-- The local moment of a number of milliseconds. The day before it must lie in the calendar as
well. -/
def toLocal (z : Zone) (n : Number) : Except InstantFault Moment :=
  match n, thousandth n with
  | .int _, .infinite _ => .error .tooLarge
  | _, .infinite _ => .error .beyondClock
  | _, .nan _ => .error .undefined
  | _, .finite negative m k _ =>
    let s := wholeSeconds negative m k
    if s < -Int.pow 2 63 ∨ Int.pow 2 63 ≤ s then .error .beyondClock
    else
      let clock := s + epoch + z.seconds
      if isBeyondYears (s + epoch) || isBeyondYears clock then .error .beyondYears
      else
        match Moment.ofMicroseconds? (clock * microsecondsPerSecond) with
        | none => .error (.year ((yearOfSecond clock).bmod (Nat.pow 2 32)))
        | some t => if clock < 86400 then .error (.year 0) else .ok t

end Instant

end Stencil.Calendar
