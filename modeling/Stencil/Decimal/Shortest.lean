import Stencil.Decimal

/-!
The shortest decimal number that reads back as a given double-precision number, and among those the
nearest.
-/

namespace Stencil.Decimal

def scale : Nat := 324

def neighbours (n d : Nat) (x : Int) : Nat × Nat :=
  let q := if 0 ≤ x then n / (d * Nat.pow 10 x.toNat) else n * Nat.pow 10 (-x).toNat / d
  (q, q + 1)

/-- Whether `n / d` lies above the middle of the grid cell that starts at `q * 10 ^ x`, with a tie
left to the even end. -/
def leansUp (n d : Nat) (x : Int) (q : Nat) : Bool :=
  let (a, b) := if 0 ≤ x then (2 * n, (2 * q + 1) * d * Nat.pow 10 x.toNat)
    else (2 * n * Nat.pow 10 (-x).toNat, (2 * q + 1) * d)
  b < a || (b == a && q % 2 == 1)

/-- Of the neighbours of `m * 2 ^ k` units on one grid, the nearest that reads back. -/
def onGrid? (m k : Nat) (h : Binary64.IsCanonical m k) (x : Int) : Option Decimal :=
  let n := Binary64.units m k
  let d := Binary64.one
  let (q, r) := neighbours n d x
  let first := if leansUp n d x q then r else q
  let second := if leansUp n d x q then q else r
  [Decimal.mk first x, Decimal.mk second x].find? fun c =>
    c.toBinary64 false == .finite false m k h

def exact (m k : Nat) : Decimal :=
  ⟨Binary64.units m k * Nat.pow 5 Binary64.unitExponent, -(Binary64.unitExponent : Int)⟩

def leading (m k : Nat) : Int :=
  ((digits (Binary64.units m k * Nat.pow 10 scale / Binary64.one)).length : Int) - scale - 1

/-- The grids are tried from one digit up to the seventeen that always suffice. -/
def shortest (m k : Nat) (h : Binary64.IsCanonical m k) : Decimal :=
  ((List.range 17).findSome? fun i : Nat => onGrid? m k h (leading m k - i)).getD (exact m k)

end Stencil.Decimal

namespace Stencil.Binary64

def write : Binary64 → List Char
  | .nan _ => ['n', 'a', 'n']
  | .infinite negative => (if negative then ['-'] else []) ++ ['i', 'n', 'f']
  | .finite negative m k h => (if negative then ['-'] else []) ++ (Decimal.shortest m k h).write

/-- The number with a written form; an undefined one takes the given label. -/
def read? (label : Nat) (cs : List Char) : Option Binary64 :=
  match cs with
  | ['n', 'a', 'n'] => some (.nan label)
  | ['i', 'n', 'f'] => some (.infinite false)
  | ['-', 'i', 'n', 'f'] => some (.infinite true)
  | '-' :: r => (Decimal.read? r).map (·.toBinary64 true)
  | r => (Decimal.read? r).map (·.toBinary64 false)

end Stencil.Binary64
