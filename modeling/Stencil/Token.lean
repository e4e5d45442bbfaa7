import Stencil.Piece

/-!
Tokens: the pieces of a template that have a meaning, each with the line on which it begins.
-/

namespace Stencil

namespace Token

inductive Kind
  | text
  | output
  | tag
  | other (name : String)
  deriving DecidableEq, Repr

end Token

structure Token where
  kind : Token.Kind
  value : String
  line : Int
  deriving DecidableEq, Repr

namespace Token

def ofPiece? (line : Int) : Piece → Option Token
  | .text cs => some ⟨.text, String.ofList cs, line⟩
  | .directive .output body => some ⟨.output, String.ofList (Text.trim body), line⟩
  | .directive .tag body => some ⟨.tag, String.ofList (Text.trim body), line⟩
  | _ => none

def newlines (cs : List Char) : Int :=
  cs.count '\n'

def ofPieces (line : Int) : List Piece → List Token
  | [] => []
  | p :: ps => (ofPiece? line p).toList ++ ofPieces (line + newlines p.source) ps

def lineAfter (line : Int) (ps : List Piece) : Int :=
  ps.foldl (fun n p => n + newlines p.source) line

def ofSource (source : String) : Except ReadError (List Token) :=
  let c := Cut.ofSource source.toList
  match c.unterminated with
  | some d => .error (.malformed (.unterminated d) (some (lineAfter 1 c.pieces)))
  | none => .ok (ofPieces 1 c.pieces)

end Token

end Stencil
