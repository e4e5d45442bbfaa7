import Stencil.Filter
import Stencil.Scope
import Stencil.Tree
import Stencil.Value.Equality
import Stencil.Value.Text

/-!
Rendering a tree in a scope. Missing data is null and never an error; an unknown filter and a
failing one end the run.
-/

namespace Stencil

inductive RenderError
  | unknownFilter (name : String)
  | filterFailed (name : String) (cause : FilterError)
  | unknownNode (type : String)
  | unknownExpr (type : String)
  | digits (limit : DigitLimit)
  deriving DecidableEq

namespace RenderError

def message : RenderError → String
  | .unknownFilter name => "Unknown filter '" ++ name ++ "'"
  | .filterFailed name cause => "Filter '" ++ name ++ "' failed: " ++ cause.message
  | .unknownNode type => "Unknown node type: " ++ type
  | .unknownExpr type => "Unknown expression type: " ++ type
  | .digits limit => limit.message

end RenderError

namespace Comparison

/-- Whether a comparison holds. Numbers and texts have an order, each among themselves; no order
holds between other values. -/
def holds : Comparison → Value → Value → Bool
  | .eq, v, w => v.eq w
  | .ne, v, w => !v.eq w
  | .lt, .number m, .number n => m.lt n
  | .le, .number m, .number n => m.lt n || m.eq n
  | .gt, .number m, .number n => n.lt m
  | .ge, .number m, .number n => n.lt m || m.eq n
  | .lt, .text s, .text t => s < t
  | .le, .text s, .text t => s < t || s == t
  | .gt, .text s, .text t => t < s
  | .ge, .text s, .text t => t < s || s == t
  | _, _, _ => false

end Comparison

namespace Segment

def element {α : Type} (items : List α) (n : Int) : Option α :=
  if n < 0 then none else items[n.toNat]?

/-- The value one step further: under a key of a mapping, at an index, or the length of a text or a
sequence. A step that leads nowhere leads to null. -/
def step : Segment → Value → Value
  | s, .mapping fields => (fields.lookup s.name).getD .null
  | .index n, .text t =>
    ((element t.toList n.value).map fun c => .text (String.singleton c)).getD .null
  | .index n, .sequence _ items => (element items n.value).getD .null
  | .key k, v => if k = "length" then (v.length?.map fun n => .int n).getD .null else .null
  | _, _ => .null

end Segment

namespace Path

def resolve (p : Path) (s : Scope) : Value :=
  p.steps.foldl (fun v g => g.step v) (s.lookup p.head)

end Path

namespace Expr

def eval (s : Scope) : Expr → Except RenderError Value
  | .literal v => .ok v
  | .path p => .ok (p.resolve s)
  | .not e => (e.eval s).map fun v => .bool !v.isTruthy
  | .compare op left right => do
    let v ← left.eval s
    let w ← right.eval s
    return .bool (op.holds v w)
  | .unknown type => .error (.unknownExpr type)

end Expr

namespace FilterCall

/-- The value after the calls of filters, and the events on the way. A filter must be known before
its arguments are looked at. -/
def applyAll (table : FilterTable) (s : Scope) :
    List FilterCall → Value → Except RenderError Value × List Event
  | [], v => (.ok v, [])
  | c :: cs, v =>
    match table c.name with
    | none => (.error (.unknownFilter c.name), [])
    | some f =>
      match c.args.mapM (·.eval s) with
      | .error e => (.error e, [])
      | .ok args =>
        let a := f v args
        match a.outcome with
        | .error e => (.error (.filterFailed c.name e), a.events)
        | .ok w =>
          let r := applyAll table s cs w
          (r.1, a.events ++ r.2)

end FilterCall

namespace Expr

def evalWith (table : FilterTable) (s : Scope) (e : Expr) (filters : List FilterCall) :
    Except RenderError Value × List Event :=
  match e.eval s with
  | .error err => (.error err, [])
  | .ok v => FilterCall.applyAll table s filters v

end Expr

structure Run where
  output : List String
  events : List Event
  scope : Scope
  error : Option RenderError

namespace Run

def text (r : Run) : String :=
  String.join r.output

def nothing (s : Scope) : Run :=
  ⟨[], [], s, none⟩

def andThen (r : Run) (k : Scope → Run) : Run :=
  match r.error with
  | some _ => r
  | none =>
    let q := k r.scope
    ⟨r.output ++ q.output, r.events ++ q.events, q.scope, q.error⟩

def ofValue (s : Scope) (v : Except RenderError Value × List Event) (k : Value → Run) : Run :=
  match v with
  | (.error e, events) => ⟨[], events, s, some e⟩
  | (.ok v, events) => let r := k v; { r with events := events ++ r.events }

def write (s : Scope) (v : Value) : Run :=
  match v.toText with
  | .ok t => ⟨[t], [], s, none⟩
  | .error e => ⟨[], [], s, some (.digits e)⟩

def leave (r : Run) : Run :=
  { r with scope := r.scope.leave }

def iterate (item : String) (n : Nat) (body : Scope → Run) : Nat → List Value → Scope → Run
  | _, [], s => nothing s
  | i, v :: vs, s =>
    (body (s.enter item v ⟨i, n⟩)).leave.andThen (iterate item n body (i + 1) vs)

end Run

namespace Node

variable (table : FilterTable)

mutual

def render : Node → Scope → Run
  | .text t, s => ⟨[t], [], s, none⟩
  | .output e filters _, s => .ofValue s (e.evalWith table s filters) fun v => .write s v
  | .set name e filters _, s =>
    .ofValue s (e.evalWith table s filters) fun v => .nothing (s.assign name v)
  | .conditional branches otherwise, s => renderBranches branches (renderElse otherwise) s
  | .loop item iterable body, s =>
    match iterable.resolve s with
    | .sequence _ items => Run.iterate item items.length (renderAll body) 0 items s
    | .null => .nothing s
    | _ => ⟨[], [.notSequence iterable.text], s, none⟩
  | .unknown type, s => ⟨[], [], s, some (.unknownNode type)⟩

def renderAll : List Node → Scope → Run
  | [], s => .nothing s
  | n :: ns, s => (render n s).andThen (renderAll ns)

def renderBranches : List (Expr × List Node) → (Scope → Run) → Scope → Run
  | [], otherwise, s => otherwise s
  | (test, body) :: bs, otherwise, s =>
    match test.eval s with
    | .error e => ⟨[], [], s, some e⟩
    | .ok v => if v.isTruthy then renderAll body s else renderBranches bs otherwise s

def renderElse : Option (List Node) → Scope → Run
  | none, s => .nothing s
  | some ns, s => renderAll ns s

end

end Node

end Stencil
