import Stencil.Number.Text

/-!
The lexemes of the expression language, each with the text that it stands for in a template.
-/

namespace Stencil

inductive Comparison
  | eq
  | ne
  | lt
  | le
  | gt
  | ge
  deriving DecidableEq, Repr

namespace Comparison

def text : Comparison → String
  | .eq => "=="
  | .ne => "!="
  | .lt => "<"
  | .le => "<="
  | .gt => ">"
  | .ge => ">="

def all : List Comparison :=
  [.eq, .ne, .lt, .le, .gt, .ge]

def ofText? (s : String) : Option Comparison :=
  all.find? (·.text == s)

end Comparison

structure Numeral where
  negative : Bool
  whole : List Char
  fraction : Option (List Char)
  deriving DecidableEq, Repr

namespace Numeral

def text (n : Numeral) : List Char :=
  (if n.negative then ['-'] else []) ++ n.whole ++
    match n.fraction with
    | some ds => '.' :: ds
    | none => []

def value (n : Numeral) : Except DigitLimit Number :=
  match n.fraction with
  | some ds => .ok (.float ((Decimal.ofDigits n.whole ds).toBinary64 n.negative))
  | none => (Number.readInteger n.negative n.whole).map fun i => .int i.value

end Numeral

inductive Lexeme
  | number (n : Numeral)
  | quoted (mark : Char) (body : List Char)
  | op (c : Comparison)
  | name (s : String)
  | punct (c : Char)
  deriving DecidableEq, Repr

namespace Lexeme

def text : Lexeme → String
  | .number n => String.ofList n.text
  | .quoted q body => String.ofList (q :: body ++ [q])
  | .op c => c.text
  | .name s => s
  | .punct c => String.singleton c

end Lexeme

end Stencil
