import Stencil.Binary64
import Stencil.Text.Character

/-!
Decimal numbers: a coefficient times a power of ten. They are what a numeral writes, and each has a
nearest double-precision number.
-/

namespace Stencil

/-- The number `coefficient * 10 ^ exponent`. -/
structure Decimal where
  coefficient : Nat
  exponent : Int
  deriving DecidableEq, Repr

namespace Decimal

def digits (n : Nat) : List Char :=
  Nat.toDigits 10 n

def toBinary64 (negative : Bool) (d : Decimal) : Binary64 :=
  if 0 ≤ d.exponent then .ofQuotient negative (d.coefficient * Nat.pow 10 d.exponent.toNat) 1
  else .ofQuotient negative d.coefficient (Nat.pow 10 (-d.exponent).toNat)

def ofDigits (whole fraction : List Char) : Decimal :=
  ⟨Text.number (whole ++ fraction), -(fraction.length : Int)⟩

def readExponent? (cs : List Char) : Option Int :=
  let (negative, ds) := match cs with
    | '-' :: ds => (true, ds)
    | '+' :: ds => (false, ds)
    | ds => (false, ds)
  if ds.isEmpty || !ds.all Text.isDigit then none
  else some (if negative then -(Text.number ds : Int) else Text.number ds)

def read? (cs : List Char) : Option Decimal :=
  let whole := cs.takeWhile Text.isDigit
  let rest := cs.dropWhile Text.isDigit
  let (fraction, rest) := match rest with
    | '.' :: r => (r.takeWhile Text.isDigit, r.dropWhile Text.isDigit)
    | r => ([], r)
  if whole.isEmpty then none
  else
    let d := ofDigits whole fraction
    match rest with
    | [] => some d
    | 'e' :: r => (readExponent? r).map fun x => ⟨d.coefficient, d.exponent + x⟩
    | _ => none

def significant (n : Nat) : List Char :=
  ((digits n).reverse.dropWhile (· == '0')).reverse

/-- The powers of ten that are written with an exponent: positional form serves from four places
after the point up to sixteen places before it. -/
def positional (point : Int) : Bool :=
  -4 < point && point ≤ 16

def exponentText (x : Int) : List Char :=
  let ds := digits x.natAbs
  'e' :: (if x < 0 then '-' else '+') :: (List.replicate (2 - ds.length) '0' ++ ds)

def arrange (ds : List Char) (point : Int) : List Char :=
  if positional point then
    if point ≤ 0 then '0' :: '.' :: (List.replicate (-point).toNat '0' ++ ds)
    else
      let n := point.toNat
      if ds.length ≤ n then ds ++ List.replicate (n - ds.length) '0' ++ ['.', '0']
      else ds.take n ++ '.' :: ds.drop n
  else
    match ds with
    | [] => []
    | [d] => d :: exponentText (point - 1)
    | d :: ds => d :: '.' :: ds ++ exponentText (point - 1)

/-- The written form: no zeros that carry nothing, and a point or an exponent in any case. -/
def write (d : Decimal) : List Char :=
  if d.coefficient = 0 then ['0', '.', '0']
  else arrange (significant d.coefficient) ((digits d.coefficient).length + d.exponent)

end Decimal

end Stencil
