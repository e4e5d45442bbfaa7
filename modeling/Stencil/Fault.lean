import Stencil.Lexeme
import Stencil.Text.Quoted

/-!
What can be wrong with a template, with the messages that say so.
-/

namespace Stencil

inductive Delimiter
  | output
  | tag
  | comment
  deriving DecidableEq, Repr

namespace Delimiter

/-- The second character of the opening delimiter; the first is a brace. -/
def opener : Delimiter → Char
  | .output => '{'
  | .tag => '%'
  | .comment => '#'

/-- The first character of the closing delimiter; the second is a brace. -/
def closer : Delimiter → Char
  | .output => '}'
  | .tag => '%'
  | .comment => '#'

def opening (d : Delimiter) : List Char :=
  ['{', d.opener]

def closing (d : Delimiter) : List Char :=
  [d.closer, '}']

end Delimiter

inductive Block
  | conditional
  | loop
  deriving DecidableEq, Repr

namespace Block

def keyword : Block → String
  | .conditional => "if"
  | .loop => "for"

def endKeyword (b : Block) : String :=
  "end" ++ b.keyword

end Block

inductive Wanted
  | text (s : String)
  | name
  | property
  | index
  | literal
  | value
  deriving DecidableEq

namespace Wanted

def description : Wanted → String
  | .text s => quoted s
  | .name => "a name"
  | .property => "a property name after '.'"
  | .index => "an integer or string index"
  | .literal => "a literal"
  | .value => "a value"

end Wanted

def Lexeme.describe : Option Lexeme → String
  | some l => Stencil.quoted l.text
  | none => "end of expression"

inductive Fault
  | unterminated (d : Delimiter)
  | strayCharacter (c : Char)
  | expected (wanted : Wanted) (found : Option Lexeme)
  | unexpected (found : Lexeme)
  | missingExpression
  | missingCondition
  | unknownToken (kind : String)
  | emptyTag
  | unknownTag (keyword : String)
  | tooDeep
  | outsideConditional (keyword : String)
  | afterElse (keyword : String)
  | noOpenBlock (block : Block)
  | crossed (block opened : Block) (line : Int)
  | unclosed (block : Block)
  deriving DecidableEq

namespace Fault

def maxDepth : Nat := 100

def message : Fault → String
  | .unterminated d => "Unterminated '" ++ String.ofList d.opening ++ "'"
  | .strayCharacter c => "Unexpected character " ++ quoted (String.singleton c)
  | .expected wanted found =>
    "Expected " ++ wanted.description ++ ", found " ++ Lexeme.describe found
  | .unexpected found => "Unexpected " ++ quoted found.text
  | .missingExpression => "Missing expression"
  | .missingCondition => "Missing condition"
  | .unknownToken kind => "Unexpected token " ++ kind
  | .emptyTag => "Empty tag"
  | .unknownTag keyword => "Unknown tag " ++ quoted keyword
  | .tooDeep =>
    "Blocks nested too deeply (more than " ++ Number.integerText maxDepth ++ " levels)"
  | .outsideConditional keyword => "Unexpected '" ++ keyword ++ "' outside of an 'if' block"
  | .afterElse keyword => "Unexpected '" ++ keyword ++ "' after 'else'"
  | .noOpenBlock block =>
    "Unexpected '" ++ block.endKeyword ++ "' without an open '" ++ block.keyword ++ "' block"
  | .crossed block opened line =>
    "Unexpected '" ++ block.endKeyword ++ "', expected '" ++ opened.endKeyword ++
      "' for the block opened at line " ++ Number.integerText line
  | .unclosed block => "Unclosed '" ++ block.keyword ++ "' block"

end Fault

inductive ReadError
  | malformed (fault : Fault) (line : Option Int)
  | digits (limit : DigitLimit)
  deriving DecidableEq

namespace ReadError

def message : ReadError → String
  | .malformed fault none => fault.message
  | .malformed fault (some line) =>
    "Invalid template syntax at line " ++ Number.integerText line ++ ": " ++ fault.message
  | .digits limit => limit.message

end ReadError

end Stencil
