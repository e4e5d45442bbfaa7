import Stencil.Number

/-!
The text of numbers. Whole numbers may have at most 4300 digits, both when they are read and when
they are written.
-/

namespace Stencil

inductive DigitLimit
  | reading (digits : Nat)
  | writing
  deriving DecidableEq

namespace DigitLimit

def most : Nat := 4300

def message : DigitLimit → String
  | .reading digits =>
    "Exceeds the limit (4300 digits) for integer string conversion: value has " ++
      String.ofList (Decimal.digits digits) ++
      " digits; use sys.set_int_max_str_digits() to increase the limit"
  | .writing =>
    "Exceeds the limit (4300 digits) for integer string conversion; use " ++
      "sys.set_int_max_str_digits() to increase the limit"

end DigitLimit

/-- A whole number with no more digits than are read and written. -/
@[ext]
structure ShortInt where
  value : Int
  short : value.natAbs < Nat.pow 10 DigitLimit.most
  deriving DecidableEq, Repr

def ShortInt.ofDigits (negative : Bool) (ds : List Char) (h : ds.length ≤ DigitLimit.most) :
    ShortInt where
  value := if negative then -(Text.number ds : Int) else Text.number ds
  short := by
    have hn : (if negative then -(Text.number ds : Int) else Text.number ds).natAbs =
        Text.number ds := by
      split <;> simp
    have hp : ∀ k, ds.length ≤ k → Nat.pow 10 ds.length ≤ Nat.pow 10 k :=
      fun k => Nat.pow_le_pow_right (by decide)
    rw [hn]
    exact Nat.lt_of_lt_of_le (Text.number_lt ds) (hp _ h)

namespace Number

def integerText (n : Int) : String :=
  String.ofList ((if n < 0 then ['-'] else []) ++ Decimal.digits n.natAbs)

def writeInteger (n : Int) : Except DigitLimit String :=
  if n.natAbs < Nat.pow 10 DigitLimit.most then .ok (integerText n) else .error .writing

def readInteger (negative : Bool) (ds : List Char) : Except DigitLimit ShortInt :=
  if h : ds.length ≤ DigitLimit.most then .ok (.ofDigits negative ds h)
  else .error (.reading ds.length)

/-- The text of a number in rendered output: whole numbers without a point, whichever kind they
are, and words for the numbers that digits cannot write. -/
def text : Number → Except DigitLimit String
  | .int n => writeInteger n
  | .float (.nan _) => .ok "NaN"
  | .float (.infinite negative) => .ok (if negative then "-Infinity" else "Infinity")
  | .float x =>
    match x.isInteger, x.truncate? with
    | true, some n => writeInteger n
    | _, _ => .ok (String.ofList x.write)

def display : Number → Except DigitLimit String
  | .int n => writeInteger n
  | .float x => .ok (String.ofList x.write)

end Number

end Stencil
