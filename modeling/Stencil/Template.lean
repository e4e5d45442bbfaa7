import Stencil.Filter.Builtin
import Stencil.Render
import Stencil.Tree.Builder

/-!
Templates, and the entry points that never fail for what is wrong with a template: they turn it into
text or into a verdict.
-/

namespace Stencil

structure Template where
  source : String
  nodes : List Node

namespace Value

def fields : Value → Fields
  | .mapping fs => fs
  | _ => []

def typeName : Value → String
  | .null => "NoneType"
  | .bool _ => "bool"
  | .number (.int _) => "int"
  | .number (.float _) => "float"
  | .text _ => "str"
  | .sequence .list _ => "list"
  | .sequence .tuple _ => "tuple"
  | .mapping _ => "dict"
  | .host _ _ => "Opaque"

end Value

inductive ContextFault
  | reserved (name : String)
  | notMapping (type : String)
  deriving DecidableEq

namespace ContextFault

def message : ContextFault → String
  | .reserved name => "Template.render() got multiple values for argument '" ++ name ++ "'"
  | .notMapping type => "'" ++ type ++ "' object is not a mapping"

end ContextFault

namespace Template

def ofSource (source : String) : Except ReadError Template :=
  (Node.ofSource source).map (⟨source, ·⟩)

def renderNodes (table : FilterTable) (nodes : List Node) (data : Value) : Run :=
  Node.renderAll table nodes (.ofData data.fields)

def reserved : List String :=
  ["data", "self"]

/-- The data with extra variables, which win over it. Without any the data may be of any kind, and
with some it must be a mapping or false. -/
def addContext (data : Value) (context : Fields) : Except ContextFault Value :=
  match context.find? fun f => reserved.contains f.1 with
  | some f => .error (.reserved f.1)
  | none =>
    match data with
    | .mapping fs => .ok (.mapping (Fields.merge fs context))
    | v =>
      if context.isEmpty then .ok v
      else if v.isTruthy then .error (.notMapping v.typeName)
      else .ok (.mapping (Fields.merge [] context))

def render (table : FilterTable) (t : Template) (data : Value) (context : Fields) :
    Except ContextFault Run :=
  (addContext data context).map (renderNodes table t.nodes)

end Template

/-- The message that stands for an error of reading, except for a number too long to convert, which
callers see as it is. -/
def ReadError.diagnostic : ReadError → Except DigitLimit String
  | .digits limit => .error limit
  | .malformed fault line => .ok (ReadError.malformed fault line).message

def RenderError.diagnostic : RenderError → Except DigitLimit String
  | .digits limit => .error limit
  | e => .ok e.message

structure Report (α : Type) where
  outcome : Except DigitLimit α
  events : List Event

def inlineError (message : String) : String :=
  "[Template Error: " ++ message ++ "]"

def reportError (events : List Event) (diagnostic : Except DigitLimit String) : Report String :=
  match diagnostic with
  | .error limit => ⟨.error limit, events⟩
  | .ok m => ⟨.ok (inlineError m), events ++ [.failed m]⟩

/-- Renders a template against data. An error in the template replaces the whole output. -/
def render (g : Calendar.Setting) (source : String) (data : Value) : Report String :=
  match Template.ofSource source with
  | .error e => reportError [] e.diagnostic
  | .ok t =>
    let r := Template.renderNodes (Builtin.table g) t.nodes data
    let events := .parsed t.nodes.length :: r.events
    match r.error with
    | none => ⟨.ok r.text, events⟩
    | some e => reportError events e.diagnostic

inductive Verdict
  | valid
  | invalid (message : String)
  deriving DecidableEq, Repr

def validate (source : String) : Report Verdict :=
  match Node.ofSource source with
  | .ok _ => ⟨.ok .valid, []⟩
  | .error e =>
    match e.diagnostic with
    | .error limit => ⟨.error limit, []⟩
    | .ok m => ⟨.ok (.invalid m), [.invalid m]⟩

end Stencil
