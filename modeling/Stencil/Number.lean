import Stencil.Decimal.Shortest

/-!
Numbers: whole numbers of any size and double-precision ones. They are compared by exact value, as
places on one extended line.
-/

namespace Stencil

inductive Number
  | int (n : Int)
  | float (x : Binary64)
  deriving DecidableEq

/-- A place on the extended line, measured in units of `2 ^ (-1074)`. -/
inductive Place
  | bottom
  | units (n : Int)
  | top
  deriving DecidableEq

namespace Place

def lt : Place → Place → Bool
  | bottom, bottom => false
  | bottom, _ => true
  | units a, units b => a < b
  | units _, top => true
  | _, _ => false

end Place

namespace Binary64

def place? : Binary64 → Option Place
  | .nan _ => none
  | .infinite negative => some (if negative then .bottom else .top)
  | .finite negative m k _ => some (.units (if negative then -(units m k : Int) else units m k))

end Binary64

namespace Number

def place? : Number → Option Place
  | .int n => some (.units (n * Binary64.one))
  | .float x => x.place?

/-- Equality by value, which fails where either side is undefined. -/
def eq (a b : Number) : Bool :=
  match a.place?, b.place? with
  | some p, some q => p = q
  | _, _ => false

def lt (a b : Number) : Bool :=
  match a.place?, b.place? with
  | some p, some q => p.lt q
  | _, _ => false

/-- The same occurrence: equal by value, or undefined under one label. -/
def same : Number → Number → Bool
  | .float (.nan i), .float (.nan j) => i = j
  | a, b => a.eq b

def isZero (a : Number) : Bool :=
  a.eq (.int 0)

end Number

end Stencil
