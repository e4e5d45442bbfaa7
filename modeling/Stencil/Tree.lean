import Stencil.Lexeme
import Stencil.Value

/-!
The tree of a template: nodes, and the expressions and the calls of filters in them.
-/

namespace Stencil

inductive Segment
  | key (s : String)
  | index (n : ShortInt)
  deriving DecidableEq, Repr

namespace Segment

def name : Segment → String
  | .key s => s
  | .index n => Number.integerText n.value

def text : Segment → String
  | .key s => "." ++ s
  | .index n => "[" ++ Number.integerText n.value ++ "]"

end Segment

structure Path where
  head : String
  steps : List Segment
  deriving DecidableEq, Repr

namespace Path

def ofSegments? : List Segment → Option Path
  | [] => none
  | s :: ss => some ⟨s.name, ss⟩

def text (p : Path) : String :=
  p.head ++ String.join (p.steps.map Segment.text)

end Path

/-- An expression. One of a type that cannot be evaluated is known by the name of the type. -/
inductive Expr
  | literal (v : Value)
  | path (p : Path)
  | not (e : Expr)
  | compare (op : Comparison) (left right : Expr)
  | unknown (type : String)

structure FilterCall where
  name : String
  args : List Expr
  line : Option Int

/-- A node of a template. One of a type that cannot be rendered is known by the name of the type. -/
inductive Node
  | text (s : String)
  | output (e : Expr) (filters : List FilterCall) (line : Option Int)
  | set (name : String) (e : Expr) (filters : List FilterCall) (line : Option Int)
  | conditional (branches : List (Expr × List Node)) (otherwise : Option (List Node))
  | loop (item : String) (iterable : Path) (body : List Node)
  | unknown (type : String)

end Stencil
