import Stencil.Value

/-!
Equality of values. By itself a truth value equals only the same truth value; inside sequences and
mappings true counts as one and false as zero.
-/

namespace Stencil

namespace Number

def ofBool (b : Bool) : Number :=
  .int (if b then 1 else 0)

end Number

namespace Value

mutual

def same : Value → Value → Bool
  | .null, .null => true
  | .bool a, .bool b => a == b
  | .bool a, .number n => (Number.ofBool a).same n
  | .number m, .bool b => m.same (Number.ofBool b)
  | .number m, .number n => m.same n
  | .text s, .text t => s == t
  | .sequence k xs, .sequence l ys => k = l && sameItems xs ys
  | .mapping fs, .mapping gs => fs.length == gs.length && sameFields fs gs
  | .host i _, .host j _ => i == j
  | _, _ => false

def sameItems : List Value → List Value → Bool
  | [], [] => true
  | x :: xs, y :: ys => same x y && sameItems xs ys
  | _, _ => false

def sameFields : List (String × Value) → Fields → Bool
  | [], _ => true
  | (n, v) :: fs, gs =>
    (match gs.lookup n with
      | some w => same v w
      | none => false) && sameFields fs gs

end

/-- Equality of two values by themselves. An undefined number is not even equal to itself. -/
def eq : Value → Value → Bool
  | .bool a, .bool b => a == b
  | .bool _, _ => false
  | _, .bool _ => false
  | .number m, .number n => m.eq n
  | v, w => same v w

end Value

end Stencil
