import Stencil.Host
import Stencil.Value

/-!
Filters: functions from a value and arguments to a value, which may fail and may report events. A
filter that is not of the engine's own may raise any exception.
-/

namespace Stencil

structure Signature where
  name : String
  required : List String
  optional : Nat
  deriving DecidableEq, Repr

inductive FilterError
  | tooMany (filter : Signature) (given : Nat)
  | missing (filter : Signature) (given : Nat)
  | dateFormat (text : String)
  | dateRange
  | dateOffset
  | replaceArguments
  | truncateLength (shown : String)
  | infiniteLength
  | undefinedLength
  | digits (limit : DigitLimit)
  | raised (r : Raised)
  deriving DecidableEq

namespace Signature

def title (s : Signature) : String :=
  s.name ++ "_filter()"

def least (s : Signature) : Nat :=
  s.required.length + 1

def most (s : Signature) : Nat :=
  s.least + s.optional

def fault? (s : Signature) (args : Nat) : Option FilterError :=
  if s.most < args + 1 then some (.tooMany s (args + 1))
  else if args + 1 < s.least then some (.missing s args)
  else none

end Signature

namespace FilterError

def plural (n : Nat) : String :=
  if n = 1 then "" else "s"

def enumerate : List String → String
  | [] => ""
  | [a] => "'" ++ a ++ "'"
  | [a, b] => "'" ++ a ++ "' and '" ++ b ++ "'"
  | a :: as => "'" ++ a ++ "', " ++ enumerate as

def message : FilterError → String
  | .tooMany s given =>
    let takes :=
      if s.optional = 0 then Number.integerText s.least ++ " positional argument" ++ plural s.least
      else "from " ++ Number.integerText s.least ++ " to " ++ Number.integerText s.most ++
        " positional arguments"
    s.title ++ " takes " ++ takes ++ " but " ++ Number.integerText given ++ " were given"
  | .missing s given =>
    let names := s.required.drop given
    s.title ++ " missing " ++ Number.integerText names.length ++ " required positional argument" ++
      plural names.length ++ ": " ++ enumerate names
  | .dateFormat text => "date format must be a string, got " ++ text
  | .dateRange => "date value out of range"
  | .dateOffset =>
    "offset must be a timedelta strictly between -timedelta(hours=24) and timedelta(hours=24)."
  | .replaceArguments => "replace expects string search and replacement arguments"
  | .truncateLength shown => "truncate length must be a non-negative number: " ++ shown
  | .infiniteLength => "cannot convert float infinity to integer"
  | .undefinedLength => "cannot convert float NaN to integer"
  | .digits limit => limit.message
  | .raised r => r.message

end FilterError

structure FilterAnswer where
  outcome : Except FilterError Value
  events : List Event

namespace FilterAnswer

def ofExcept (r : Except FilterError Value) : FilterAnswer :=
  ⟨r, []⟩

end FilterAnswer

abbrev Filter := Value → List Value → FilterAnswer

abbrev FilterTable := String → Option Filter

end Stencil
