import Stencil.Fault
import Stencil.Text.Character

/-!
A template cut into pieces: text, directives, and the white space dropped around tags and comments.
The sources of the pieces, one after the other, are the template.
-/

namespace Stencil

inductive Piece
  | text (cs : List Char)
  | directive (d : Delimiter) (body : List Char)
  | indent (cs : List Char)
  | newline (cs : List Char)
  deriving DecidableEq, Repr

namespace Piece

def source : Piece → List Char
  | .text cs => cs
  | .directive d body => d.opening ++ body ++ d.closing
  | .indent cs => cs
  | .newline cs => cs

end Piece

/-- A quotation mark opens a string in outputs and tags; comments are free text. -/
def Delimiter.opensString (d : Delimiter) (c : Char) : Bool :=
  d != .comment && (c == '\'' || c == '"')

/-- The body up to the closing delimiter, and what follows the delimiter. Inside a string, which
`mark` has opened, nothing closes, and a backslash hides the next character. -/
def Delimiter.cut? (d : Delimiter) (mark : Option Char) :
    List Char → Option (List Char × List Char)
  | [] => none
  | c :: cs =>
    match mark with
    | some q =>
      if c = '\\' then
        match cs with
        | [] => none
        | e :: cs => (d.cut? (some q) cs).map fun r => (c :: e :: r.1, r.2)
      else (d.cut? (if c = q then none else some q) cs).map fun r => (c :: r.1, r.2)
    | none =>
      if d.opensString c then (d.cut? (some c) cs).map fun r => (c :: r.1, r.2)
      else if c = d.closer ∧ cs.head? = some '}' then some ([], cs.tail)
      else (d.cut? none cs).map fun r => (c :: r.1, r.2)

theorem Delimiter.eq_of_cut? {d : Delimiter} {mark : Option Char} {cs body rest : List Char}
    (h : d.cut? mark cs = some (body, rest)) : cs = body ++ d.closing ++ rest := by
  fun_induction d.cut? mark cs generalizing body rest with
  | case1 => simp at h
  | case2 => simp at h
  | case3 q e cs ih =>
    obtain ⟨⟨b, r⟩, hc, he⟩ := Option.map_eq_some_iff.1 h
    cases he
    simp [ih hc]
  | case4 c cs q hc ih =>
    obtain ⟨⟨b, r⟩, hr, he⟩ := Option.map_eq_some_iff.1 h
    cases he
    simp [ih hr]
  | case5 c cs hs ih =>
    obtain ⟨⟨b, r⟩, hr, he⟩ := Option.map_eq_some_iff.1 h
    cases he
    simp [ih hr]
  | case6 c cs hs hc =>
    obtain ⟨rfl, hh⟩ := hc
    cases h
    cases cs with
    | nil => simp at hh
    | cons a as =>
      simp only [List.head?_cons, Option.some.injEq] at hh
      simp [Delimiter.closing, hh]
  | case7 c cs hs hc ih =>
    obtain ⟨⟨b, r⟩, hr, he⟩ := Option.map_eq_some_iff.1 h
    cases he
    simp [ih hr]

theorem Delimiter.length_cut? {d : Delimiter} {mark : Option Char} {cs body rest : List Char}
    (h : d.cut? mark cs = some (body, rest)) : rest.length < cs.length := by
  rw [Delimiter.eq_of_cut? h]
  simp [Delimiter.closing]
  omega

def Delimiter.ofOpener? (c : Char) : Option Delimiter :=
  [Delimiter.output, .tag, .comment].find? (·.opener == c)

namespace Piece

def ofRun (run : List Char) : List Piece :=
  if run.isEmpty then [] else [.text run.reverse]

def isIndent (c : Char) : Bool :=
  c == ' ' || c == '\t'

/-- The pieces of the run before a tag or a comment. The spaces and tabs at its end are indentation
if they begin a line; `fresh` tells whether the run itself begins one. -/
def ofRunBefore (fresh : Bool) (run : List Char) : List Piece :=
  let blanks := run.takeWhile isIndent
  let kept := run.dropWhile isIndent
  let beginsLine := match kept with
    | [] => fresh
    | c :: _ => c == '\n'
  if beginsLine then ofRun kept ++ (if blanks.isEmpty then [] else [.indent blanks.reverse])
  else ofRun run

def cutNewline : List Char → List Char × List Char
  | '\r' :: '\n' :: cs => (['\r', '\n'], cs)
  | '\n' :: cs => (['\n'], cs)
  | cs => ([], cs)

theorem cutNewline_append (cs : List Char) : (cutNewline cs).1 ++ (cutNewline cs).2 = cs := by
  unfold cutNewline
  split <;> rfl

def ofNewline (cs : List Char) : List Piece :=
  if cs.isEmpty then [] else [.newline cs]

end Piece

/-- A template cut as far as possible: into all its pieces, or into those before a directive that
is never closed, and that directive's delimiter. -/
structure Cut where
  pieces : List Piece
  unterminated : Option Delimiter

namespace Cut

def prepend (ps : List Piece) (c : Cut) : Cut :=
  ⟨ps ++ c.pieces, c.unterminated⟩

/-- Cuts what follows a run of text. A comment that is never closed is text. -/
def after (fresh : Bool) (run : List Char) : List Char → Cut
  | [] => ⟨Piece.ofRun run, none⟩
  | [c] => ⟨Piece.ofRun (c :: run), none⟩
  | c :: m :: cs =>
    if c = '{' then
      match Delimiter.ofOpener? m with
      | none => after fresh (c :: run) (m :: cs)
      | some d =>
        match h : d.cut? none cs with
        | none =>
          if d = .comment then after fresh (m :: c :: run) cs
          else ⟨Piece.ofRun run, some d⟩
        | some (body, rest) =>
          have := Delimiter.length_cut? h
          if d = .output then
            (after false [] rest).prepend (Piece.ofRun run ++ [.directive d body])
          else
            have : (Piece.cutNewline rest).2.length ≤ rest.length := by
              conv => rhs; rw [← Piece.cutNewline_append rest]
              simp
            (after (!(Piece.cutNewline rest).1.isEmpty) [] (Piece.cutNewline rest).2).prepend
              (Piece.ofRunBefore fresh run ++ .directive d body ::
                Piece.ofNewline (Piece.cutNewline rest).1)
    else after fresh (c :: run) (m :: cs)
termination_by cs => cs.length

def ofSource (cs : List Char) : Cut :=
  after true [] cs

end Cut

end Stencil
