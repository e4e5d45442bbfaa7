import Stencil.Number.Text

/-!
What passes between the engine and the program around it: exceptions of code that is not the
engine's, and events that the engine reports beside its results.
-/

namespace Stencil

inductive ExceptionKind
  | value
  | overflow
  | system
  | other (name : String)
  deriving DecidableEq, Repr

/-- The kinds that reading a date is prepared for. -/
def ExceptionKind.isCaught : ExceptionKind → Bool
  | .other _ => false
  | _ => true

structure Raised where
  kind : ExceptionKind
  message : String
  deriving DecidableEq, Repr

inductive Event
  | parsed (nodes : Nat)
  | invalid (message : String)
  | failed (message : String)
  | notSequence (path : String)
  | unreadableDate (value reason : String)
  deriving DecidableEq, Repr

namespace Event

def isWarning : Event → Bool
  | .failed _ => true
  | _ => false

def message : Event → String
  | .parsed n => "Parsed template into " ++ Number.integerText n ++ " top-level nodes"
  | .invalid m => "Template failed validation: " ++ m
  | .failed m => "Template rendering failed: " ++ m
  | .notSequence path => "for loop target " ++ path ++ " is not a list, skipping"
  | .unreadableDate value reason => "date filter could not parse " ++ value ++ ": " ++ reason

end Event

end Stencil
