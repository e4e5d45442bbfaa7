import Stencil.Value
import Stencil.Number.Text
import Stencil.Text.Quoted

/-!
The two texts of a value: the one that output directives emit, and the form in which messages show
the value.
-/

namespace Stencil.Value

/-- The text that an output directive emits. Sequences, mappings and host objects have none. -/
def toText : Value → Except DigitLimit String
  | .null => .ok ""
  | .bool b => .ok (if b then "true" else "false")
  | .number n => n.text
  | .text s => .ok s
  | .sequence _ _ => .ok ""
  | .mapping _ => .ok ""
  | .host _ _ => .ok ""

def bracket : SequenceKind → List String → String
  | .list, parts => "[" ++ ", ".intercalate parts ++ "]"
  | .tuple, [part] => "(" ++ part ++ ",)"
  | .tuple, parts => "(" ++ ", ".intercalate parts ++ ")"

mutual

def display : Value → Except DigitLimit String
  | .null => .ok "None"
  | .bool b => .ok (if b then "True" else "False")
  | .number n => n.display
  | .text s => .ok (quoted s)
  | .sequence kind items => (displayItems items).map (bracket kind)
  | .mapping fields =>
    (displayFields fields).map fun parts => "\x7b" ++ ", ".intercalate parts ++ "\x7d"
  | .host _ name => .ok ("<opaque " ++ name ++ ">")

def displayItems : List Value → Except DigitLimit (List String)
  | [] => .ok []
  | v :: vs => do
    let s ← display v
    let ss ← displayItems vs
    return s :: ss

def displayFields : List (String × Value) → Except DigitLimit (List String)
  | [] => .ok []
  | (n, v) :: fs => do
    let s ← display v
    let ss ← displayFields fs
    return (quoted n ++ ": " ++ s) :: ss

end

end Stencil.Value
