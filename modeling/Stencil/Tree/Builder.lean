import Stencil.Token
import Stencil.Tree
import Stencil.Tree.Reading

/-!
Building the tree of a template from its tokens. Open blocks wait on a stack until their closing
tags; a token adds to the innermost one.
-/

namespace Stencil

/-- A conditional whose closing tag has not come yet: the branches before the last, the last, and
what follows `else`. -/
structure OpenConditional where
  line : Int
  before : List (Expr × List Node)
  test : Expr
  body : List Node
  otherwise : Option (List Node)

namespace OpenConditional

def add (n : Node) (c : OpenConditional) : OpenConditional :=
  match c.otherwise with
  | none => { c with body := c.body ++ [n] }
  | some ns => { c with otherwise := some (ns ++ [n]) }

def branches (c : OpenConditional) : List (Expr × List Node) :=
  c.before ++ [(c.test, c.body)]

def branch (test : Expr) (c : OpenConditional) : OpenConditional :=
  { c with before := c.branches, test := test, body := [] }

end OpenConditional

structure OpenLoop where
  line : Int
  item : String
  iterable : Path
  body : List Node

inductive OpenBlock
  | conditional (c : OpenConditional)
  | loop (l : OpenLoop)

namespace OpenBlock

def block : OpenBlock → Block
  | .conditional _ => .conditional
  | .loop _ => .loop

def line : OpenBlock → Int
  | .conditional c => c.line
  | .loop l => l.line

def add (n : Node) : OpenBlock → OpenBlock
  | .conditional c => .conditional (c.add n)
  | .loop l => .loop { l with body := l.body ++ [n] }

def close : OpenBlock → Node
  | .conditional c => .conditional c.branches c.otherwise
  | .loop l => .loop l.item l.iterable l.body

end OpenBlock

structure Builder where
  nodes : List Node
  blocks : List OpenBlock

namespace Builder

def empty : Builder :=
  ⟨[], []⟩

def add (n : Node) (b : Builder) : Builder :=
  match b.blocks with
  | [] => { b with nodes := b.nodes ++ [n] }
  | o :: os => { b with blocks := o.add n :: os }

def enter (o : OpenBlock) (b : Builder) : Except ReadError Builder :=
  if b.blocks.length < Fault.maxDepth then .ok { b with blocks := o :: b.blocks }
  else .error (.malformed .tooDeep (some o.line))

def openBranch (line : Int) (keyword : String) (b : Builder) :
    Except ReadError (OpenConditional × List OpenBlock) :=
  match b.blocks with
  | .conditional c :: os =>
    if c.otherwise.isNone then .ok (c, os)
    else .error (.malformed (.afterElse keyword) (some line))
  | _ => .error (.malformed (.outsideConditional keyword) (some line))

def leave (line : Int) (block : Block) (b : Builder) : Except ReadError Builder :=
  match b.blocks with
  | [] => .error (.malformed (.noOpenBlock block) (some line))
  | o :: os =>
    if o.block = block then .ok (add o.close { b with blocks := os })
    else .error (.malformed (.crossed block o.block o.line) (some line))

def loopHeader (line : Option Int) (ls : List Lexeme) : Reading (String × Path) :=
  (Reading.identifier line ls).andThen fun item ls =>
    (Reading.expectName line "in" ls).andThen fun _ ls =>
      (Reading.path line ls).map (item, ·)

def bindingHeader (line : Option Int) (ls : List Lexeme) :
    Reading (String × Expr × List FilterCall) :=
  (Reading.identifier line ls).andThen fun name ls =>
    (Reading.expectPunct line "=" ls).andThen fun _ ls =>
      (Reading.chain line ls).map (name, ·)

def tag (line : Int) (keyword : String) (ls : List Lexeme) (b : Builder) :
    Except ReadError Builder :=
  match keyword with
  | "if" => do
    let test ← Reading.complete (some line) (Reading.condition (some line) ls)
    b.enter (.conditional ⟨line, [], test, [], none⟩)
  | "elif" => do
    let (c, os) ← b.openBranch line keyword
    let test ← Reading.complete (some line) (Reading.condition (some line) ls)
    return { b with blocks := .conditional (c.branch test) :: os }
  | "else" => do
    let (c, os) ← b.openBranch line keyword
    Reading.complete (some line) (Reading.found () ls)
    return { b with blocks := .conditional { c with otherwise := some [] } :: os }
  | "endif" => do
    let b ← b.leave line .conditional
    Reading.complete (some line) (Reading.found () ls)
    return b
  | "for" => do
    let (item, iterable) ← Reading.complete (some line) (loopHeader (some line) ls)
    b.enter (.loop ⟨line, item, iterable, []⟩)
  | "endfor" => do
    let b ← b.leave line .loop
    Reading.complete (some line) (Reading.found () ls)
    return b
  | "set" => do
    let (name, e, filters) ← Reading.complete (some line) (bindingHeader (some line) ls)
    return b.add (.set name e filters (some line))
  | "" => .error (.malformed .emptyTag (some line))
  | _ => .error (.malformed (.unknownTag keyword) (some line))

def token (b : Builder) (t : Token) : Except ReadError Builder :=
  match t.kind with
  | .text => .ok (b.add (.text t.value))
  | .output => do
    let (e, filters) ← Reading.wholeChain (some t.line) t.value
    return b.add (.output e filters (some t.line))
  | .tag => do
    let (keyword, rest) := Text.cutWord t.value.toList
    let ls ← Lexeme.scan (some t.line) (String.ofList rest)
    b.tag t.line (String.ofList keyword) ls
  | .other name => .error (.malformed (.unknownToken name) (some t.line))

def finish (b : Builder) : Except ReadError (List Node) :=
  match b.blocks with
  | [] => .ok b.nodes
  | o :: _ => .error (.malformed (.unclosed o.block) (some o.line))

end Builder

namespace Node

def ofTokens (ts : List Token) : Except ReadError (List Node) := do
  let b ← ts.foldlM Builder.token Builder.empty
  b.finish

def ofSource (source : String) : Except ReadError (List Node) := do
  let ts ← Token.ofSource source
  ofTokens ts

end Node

end Stencil
