import Stencil.Filter.Date
import Stencil.Filter.Pure

/-!
The filters that every template may call, and tables of them under other names.
-/

namespace Stencil

inductive Builtin
  | date
  | default
  | upper
  | lower
  | capitalize
  | title
  | trim
  | replace
  | truncate
  | length
  | first
  | last
  | join
  | nl2br
  deriving DecidableEq, Repr

namespace Builtin

def all : List Builtin :=
  [.date, .default, .upper, .lower, .capitalize, .title, .trim, .replace, .truncate, .length,
   .first, .last, .join, .nl2br]

def signature : Builtin → Signature
  | .date => ⟨"date", [], 1⟩
  | .default => ⟨"default", [], 1⟩
  | .upper => ⟨"upper", [], 0⟩
  | .lower => ⟨"lower", [], 0⟩
  | .capitalize => ⟨"capitalize", [], 0⟩
  | .title => ⟨"title", [], 0⟩
  | .trim => ⟨"trim", [], 0⟩
  | .replace => ⟨"replace", ["search", "replacement"], 0⟩
  | .truncate => ⟨"truncate", [], 3⟩
  | .length => ⟨"length", [], 0⟩
  | .first => ⟨"first", [], 0⟩
  | .last => ⟨"last", [], 0⟩
  | .join => ⟨"join", [], 1⟩
  | .nl2br => ⟨"nl2br", [], 0⟩

def name (b : Builtin) : String :=
  b.signature.name

def ofName? (s : String) : Option Builtin :=
  all.find? (·.name == s)

/-- The answer to arguments of the right number; one that is left out has its usual value. -/
def run (g : Calendar.Setting) (b : Builtin) (v : Value) (args : List Value) : FilterAnswer :=
  match b with
  | .date => Filter.date g v (args.getD 0 .null)
  | .default => .ofExcept (.ok (Filter.default v (args.getD 0 (.text ""))))
  | .upper => .ofExcept (.ok (Filter.onText Text.upper v))
  | .lower => .ofExcept (.ok (Filter.onText Text.lower v))
  | .capitalize => .ofExcept (.ok (Filter.onText Text.capitalize v))
  | .title => .ofExcept (.ok (Filter.onText Text.title v))
  | .trim => .ofExcept (.ok (Filter.onText Text.trim v))
  | .replace => .ofExcept (Filter.replace v (args.getD 0 .null) (args.getD 1 .null))
  | .truncate =>
    .ofExcept (Filter.truncate v (args.getD 0 (.int 255)) (args.getD 1 (.bool false))
      (args.getD 2 (.text "...")))
  | .length => .ofExcept (.ok (Filter.length v))
  | .first => .ofExcept (.ok (Filter.first v))
  | .last => .ofExcept (.ok (Filter.last v))
  | .join => .ofExcept (Filter.join v (args.getD 0 (.text "")))
  | .nl2br => .ofExcept (.ok (Filter.onText Filter.breakLines v))

def filter (g : Calendar.Setting) (b : Builtin) : Filter := fun v args =>
  match b.signature.fault? args.length with
  | some e => .ofExcept (.error e)
  | none => b.run g v args

def table (g : Calendar.Setting) : FilterTable := fun s =>
  (ofName? s).map (·.filter g)

def aliases (g : Calendar.Setting) (names : List (String × Builtin)) : FilterTable := fun s =>
  (names.lookup s).map (·.filter g)

end Builtin

end Stencil
