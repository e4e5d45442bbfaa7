import Stencil.Number

/-!
The values that templates are rendered with: the values of a data format, and objects of the host
program. Mappings compare field by field, in whatever order their fields were bound. A host object
is known by its identity alone, which is what it compares by: it has no equality of its own.
-/

namespace Stencil

/-- Sequences of the two kinds serve alike and are never equal to each other. -/
inductive SequenceKind
  | list
  | tuple
  deriving DecidableEq

inductive Value
  | null
  | bool (b : Bool)
  | number (n : Number)
  | text (s : String)
  | sequence (kind : SequenceKind) (items : List Value)
  | mapping (fields : List (String × Value))
  | host (id : Nat) (name : String)

instance : Inhabited Value :=
  ⟨.null⟩

/-- Values under names, in the order in which the names were first bound. -/
abbrev Fields := List (String × Value)

namespace Fields

/-- Binds a name, in the place of its former binding if there is one. -/
def set (name : String) (v : Value) : Fields → Fields
  | [] => [(name, v)]
  | (n, w) :: fs => if n = name then (n, v) :: fs else (n, w) :: set name v fs

theorem lookup_set (name n : String) (v : Value) (fs : Fields) :
    (set name v fs).lookup n = if n = name then some v else fs.lookup n := by
  induction fs with
  | nil => by_cases h : n = name <;> simp [set, List.lookup_cons, h, beq_eq_false_iff_ne.2]
  | cons f fs ih =>
    obtain ⟨m, w⟩ := f
    by_cases hm : m = name
    · subst hm
      by_cases h : n = m <;> simp [set, List.lookup_cons, h, beq_eq_false_iff_ne.2]
    · by_cases h : n = m
      · subst h
        simp [set, hm]
      · simp [set, hm, List.lookup_cons, beq_eq_false_iff_ne.2 h, ih]

def merge (fs gs : Fields) : Fields :=
  gs.foldl (fun hs g => set g.1 g.2 hs) fs

end Fields

namespace Value

def int (n : Int) : Value :=
  .number (.int n)

def ofString (cs : List Char) : Value :=
  .text (String.ofList cs)

/-- Whether a condition holds of the value: null, false, zero and what is empty do not count, but
an empty mapping does. -/
def isTruthy : Value → Bool
  | .null => false
  | .bool b => b
  | .number n => !n.isZero
  | .text s => !s.toList.isEmpty
  | .sequence _ items => !items.isEmpty
  | .mapping _ => true
  | .host _ _ => true

def isNumber : Value → Bool
  | .number _ => true
  | _ => false

def isSequence : Value → Bool
  | .sequence _ _ => true
  | _ => false

def length? : Value → Option Nat
  | .text s => some s.toList.length
  | .sequence _ items => some items.length
  | _ => none

end Value

end Stencil
