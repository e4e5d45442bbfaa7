import Stencil.Value

/-!
Scopes: the names that a template can refer to, in the order in which they are looked up.
-/

namespace Stencil

structure LoopPosition where
  index0 : Int
  length : Int
  deriving DecidableEq, Repr

namespace LoopPosition

def toValue (p : LoopPosition) : Value :=
  .mapping
    [("index", .int (p.index0 + 1)), ("index0", .int p.index0), ("first", .bool (p.index0 == 0)),
     ("last", .bool (p.index0 == p.length - 1)), ("length", .int p.length)]

end LoopPosition

/-- The innermost frame of bindings, the frames around it, the positions of the loops that run, and
the data; frames and positions are given from the inside out. -/
structure Scope where
  inner : Fields
  outer : List Fields
  loops : List LoopPosition
  data : Fields

namespace Scope

def ofData (data : Fields) : Scope :=
  ⟨[], [], [], data⟩

def frames (s : Scope) : List Fields :=
  s.inner :: s.outer

/-- The value of a name: bound in the innermost possible frame, or the position of the innermost
loop, or in the data. -/
def lookup? (name : String) (s : Scope) : Option Value :=
  (s.frames.findSome? (·.lookup name)).or
    ((if name = "loop" then s.loops.head?.map (·.toValue) else none).or (s.data.lookup name))

def lookup (name : String) (s : Scope) : Value :=
  (s.lookup? name).getD .null

def assign (name : String) (v : Value) (s : Scope) : Scope :=
  { s with inner := s.inner.set name v }

def enter (item : String) (v : Value) (p : LoopPosition) (s : Scope) : Scope :=
  { s with inner := [(item, v)], outer := s.inner :: s.outer, loops := p :: s.loops }

def leave (s : Scope) : Scope :=
  match s.outer with
  | [] => s
  | f :: fs => { s with inner := f, outer := fs, loops := s.loops.tail }

@[simp] theorem leave_enter (item : String) (v : Value) (p : LoopPosition) (s : Scope) :
    (s.enter item v p).leave = s := rfl

end Scope

end Stencil
