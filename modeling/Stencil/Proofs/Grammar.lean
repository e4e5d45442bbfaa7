import Mathlib.Tactic.Lemma
import Stencil.Tree.Reading

/-! The grammar of expressions. A tree of the grammar derives the row of its lexemes, and means the
expression that the row stands for. -/

namespace Stencil.Grammar

structure Name where
  text : String
  free : text ∉ ["true", "false", "none", "null"]

structure Integer where
  negative : Bool
  digits : List Char
  short : digits.length ≤ 4300

namespace Integer

def lexeme (n : Integer) : Lexeme :=
  .number ⟨n.negative, n.digits, none⟩

def number (n : Integer) : ShortInt :=
  .ofDigits n.negative n.digits n.short

def value (n : Integer) : Int :=
  if n.negative then -(Text.number n.digits : Int) else Text.number n.digits

@[simp] lemma value_number (n : Integer) : n.number.value = n.value := rfl

end Integer

inductive Word
  | true
  | false
  | none
  | null

namespace Word

def text : Word → String
  | .true => "true"
  | .false => "false"
  | .none => "none"
  | .null => "null"

def value : Word → Value
  | .true => .bool Bool.true
  | .false => .bool Bool.false
  | .none => .null
  | .null => .null

end Word

def key (body : List Char) : String :=
  String.ofList (Lexeme.unescape body)

inductive Literal
  | quoted (mark : Char) (body : List Char)
  | integer (n : Integer)
  | decimal (negative : Bool) (whole fraction : List Char)
  | word (w : Word)

namespace Literal

def lexeme : Literal → Lexeme
  | .quoted mark body => .quoted mark body
  | .integer n => n.lexeme
  | .decimal negative whole fraction => .number ⟨negative, whole, some fraction⟩
  | .word w => .name w.text

def value : Literal → Value
  | .quoted _ body => .text (key body)
  | .integer n => .int n.value
  | .decimal negative whole fraction =>
    .number (.float ((Decimal.ofDigits whole fraction).toBinary64 negative))
  | .word w => w.value

end Literal

inductive Step
  | property (name : String)
  | index (n : Integer)
  | key (mark : Char) (body : List Char)

namespace Step

def lexemes : Step → List Lexeme
  | .property name => [.punct '.', .name name]
  | .index n => [.punct '[', n.lexeme, .punct ']']
  | .key mark body => [.punct '[', .quoted mark body, .punct ']']

def segment : Step → Segment
  | .property name => .key name
  | .index n => .index n.number
  | .key _ body => .key (Grammar.key body)

end Step

structure Path where
  head : Name
  steps : List Step

namespace Path

def lexemes (p : Path) : List Lexeme :=
  [.name p.head.text] ++ p.steps.flatMap Step.lexemes

def path (p : Path) : Stencil.Path :=
  ⟨p.head.text, p.steps.map Step.segment⟩

end Path

inductive Operand
  | literal (l : Literal)
  | path (p : Path) (free : p.head.text ∉ ["not", "and", "or", "in"])

namespace Operand

def lexemes : Operand → List Lexeme
  | .literal l => [l.lexeme]
  | .path p _ => p.lexemes

def expr : Operand → Expr
  | .literal l => .literal l.value
  | .path p _ => .path p.path

def separated : List Operand → List Lexeme
  | [] => []
  | o :: os => o.lexemes ++ os.flatMap fun p => .punct ',' :: p.lexemes

end Operand

inductive Arguments
  | absent
  | listed (operands : List Operand)

namespace Arguments

def lexemes : Arguments → List Lexeme
  | .absent => []
  | .listed os => .punct '(' :: Operand.separated os ++ [.punct ')']

def exprs : Arguments → List Expr
  | .absent => []
  | .listed os => os.map Operand.expr

end Arguments

structure Call where
  name : Name
  arguments : Arguments

namespace Call

def lexemes (c : Call) : List Lexeme :=
  [.name c.name.text] ++ c.arguments.lexemes

def call (line : Option Int) (c : Call) : FilterCall :=
  ⟨c.name.text, c.arguments.exprs, line⟩

end Call

structure Chain where
  operand : Operand
  calls : List Call

namespace Chain

def lexemes (c : Chain) : List Lexeme :=
  c.operand.lexemes ++ c.calls.flatMap fun f => .punct '|' :: f.lexemes

def value (line : Option Int) (c : Chain) : Expr × List FilterCall :=
  (c.operand.expr, c.calls.map (Call.call line))

end Chain

inductive Condition
  | not (o : Operand)
  | operand (o : Operand)
  | compare (op : Comparison) (left right : Operand)

namespace Condition

def lexemes : Condition → List Lexeme
  | .not o => .name "not" :: o.lexemes
  | .operand o => o.lexemes
  | .compare op left right => left.lexemes ++ .op op :: right.lexemes

def expr : Condition → Expr
  | .not o => .not o.expr
  | .operand o => o.expr
  | .compare op left right => .compare op left.expr right.expr

end Condition

end Stencil.Grammar
