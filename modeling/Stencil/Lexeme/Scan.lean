import Stencil.Fault
import Stencil.Text.Character

/-!
Scanning: the body of a directive as a row of lexemes, with white space between them.
-/

namespace Stencil

def cutDigits? (cs : List Char) : Option (List Char × List Char) :=
  let ds := cs.takeWhile Text.isDigit
  if ds.isEmpty then none else some (ds, cs.dropWhile Text.isDigit)

theorem eq_of_cutDigits? {cs ds rest : List Char} (h : cutDigits? cs = some (ds, rest)) :
    cs = ds ++ rest ∧ ds ≠ [] := by
  simp only [cutDigits?] at h
  split at h
  · simp at h
  · rename_i hne
    cases h
    exact ⟨(List.takeWhile_append_dropWhile).symm, by simpa using hne⟩

namespace Numeral

/-- The digits of a numeral after its sign. A point belongs to it only if a digit follows. -/
def cutUnsigned? (negative : Bool) (cs : List Char) : Option (Numeral × List Char) :=
  match cutDigits? cs with
  | none => none
  | some (whole, '.' :: rest) =>
    match cutDigits? rest with
    | some (fraction, rest) => some (⟨negative, whole, some fraction⟩, rest)
    | none => some (⟨negative, whole, none⟩, '.' :: rest)
  | some (whole, rest) => some (⟨negative, whole, none⟩, rest)

def cut? : List Char → Option (Numeral × List Char)
  | '-' :: cs => cutUnsigned? true cs
  | cs => cutUnsigned? false cs

theorem eq_of_cutUnsigned? {negative : Bool} {cs rest : List Char} {n : Numeral}
    (h : cutUnsigned? negative cs = some (n, rest)) :
    (if negative then ['-'] else []) ++ cs = n.text ++ rest ∧ n.whole ≠ [] := by
  unfold cutUnsigned? at h
  split at h
  · simp at h
  · rename_i whole r hw
    obtain ⟨rfl, hne⟩ := eq_of_cutDigits? hw
    split at h
    · rename_i fraction r' hf
      obtain ⟨rfl, _⟩ := eq_of_cutDigits? hf
      cases h
      simp [text, hne]
    · cases h
      simp [text, hne]
  · rename_i whole r _ hw
    obtain ⟨rfl, hne⟩ := eq_of_cutDigits? hw
    cases h
    simp [text, hne]

theorem eq_of_cut? {cs rest : List Char} {n : Numeral} (h : cut? cs = some (n, rest)) :
    cs = n.text ++ rest ∧ n.whole ≠ [] := by
  unfold cut? at h
  split at h
  · simpa using eq_of_cutUnsigned? h
  · simpa using eq_of_cutUnsigned? h

end Numeral

namespace Lexeme

/-- The body of a string up to the mark that ends it, with its backslash escapes, and the rest. -/
def cutString? (mark : Char) : List Char → Option (List Char × List Char)
  | [] => none
  | c :: cs =>
    if c = mark then some ([], cs)
    else if c = '\\' then
      match cs with
      | [] => none
      | e :: cs => (cutString? mark cs).map fun r => (c :: e :: r.1, r.2)
    else (cutString? mark cs).map fun r => (c :: r.1, r.2)

theorem eq_of_cutString? {mark : Char} {cs body rest : List Char}
    (h : cutString? mark cs = some (body, rest)) : cs = body ++ mark :: rest := by
  fun_induction cutString? mark cs generalizing body rest with
  | case1 => simp at h
  | case2 cs => cases h; rfl
  | case3 => simp at h
  | case4 _ e cs ih =>
    obtain ⟨⟨b, r⟩, hr, he⟩ := Option.map_eq_some_iff.1 h
    cases he
    simp [ih hr]
  | case5 c cs _ _ ih =>
    obtain ⟨⟨b, r⟩, hr, he⟩ := Option.map_eq_some_iff.1 h
    cases he
    simp [ih hr]

/-- The backslash escapes of a string resolved: those of quotation marks and of the backslash
itself. Any other backslash stands for itself. -/
def unescape : List Char → List Char
  | [] => []
  | '\\' :: c :: cs =>
    if c = '\'' ∨ c = '"' ∨ c = '\\' then c :: unescape cs else '\\' :: unescape (c :: cs)
  | c :: cs => c :: unescape cs

def beginsName (c : Char) : Bool :=
  c.isAlpha || c == '_'

def continuesName (c : Char) : Bool :=
  c.isAlphanum || c == '_'

def isPunct (c : Char) : Bool :=
  ['.', '[', ']', '(', ')', ',', '|', '='].contains c

def cutComparison? : List Char → Option (Comparison × List Char)
  | '=' :: '=' :: cs => some (.eq, cs)
  | '!' :: '=' :: cs => some (.ne, cs)
  | '>' :: '=' :: cs => some (.ge, cs)
  | '<' :: '=' :: cs => some (.le, cs)
  | '>' :: cs => some (.gt, cs)
  | '<' :: cs => some (.lt, cs)
  | _ => none

theorem eq_of_cutComparison? {cs rest : List Char} {c : Comparison}
    (h : cutComparison? cs = some (c, rest)) : cs = c.text.toList ++ rest := by
  unfold cutComparison? at h
  split at h <;> first | (cases h; rfl) | simp at h

def cut? (cs : List Char) : Option (Lexeme × List Char) :=
  match Numeral.cut? cs with
  | some (n, rest) => some (.number n, rest)
  | none =>
    match cs with
    | [] => none
    | c :: r =>
      if c = '\'' ∨ c = '"' then (cutString? c r).map fun p => (.quoted c p.1, p.2)
      else
        match cutComparison? cs with
        | some (o, rest) => some (.op o, rest)
        | none =>
          if beginsName c then
            some (.name (String.ofList (c :: r.takeWhile continuesName)), r.dropWhile continuesName)
          else if isPunct c then some (.punct c, r)
          else none

theorem eq_of_cut? {cs rest : List Char} {l : Lexeme} (h : cut? cs = some (l, rest)) :
    cs = l.text.toList ++ rest := by
  unfold cut? at h
  split at h
  · rename_i n r hn
    cases h
    simpa [text] using (Numeral.eq_of_cut? hn).1
  · split at h
    · simp at h
    · rename_i c r _
      split at h
      · obtain ⟨⟨b, r'⟩, hr, he⟩ := Option.map_eq_some_iff.1 h
        cases he
        simp [text, eq_of_cutString? hr]
      · split at h
        · rename_i o r' ho
          cases h
          exact eq_of_cutComparison? ho
        · split at h
          · cases h
            simp [text]
          · split at h
            · cases h
              simp [text]
            · simp at h

theorem text_ne_nil_of_cut? {cs rest : List Char} {l : Lexeme} (h : cut? cs = some (l, rest)) :
    l.text.toList ≠ [] := by
  unfold cut? at h
  split at h
  · rename_i n r hn
    cases h
    simp [text, Numeral.text, (Numeral.eq_of_cut? hn).2]
  · split at h
    · simp at h
    · rename_i c r _
      split at h
      · obtain ⟨⟨b, r'⟩, hr, he⟩ := Option.map_eq_some_iff.1 h
        cases he
        simp [text]
      · split at h
        · rename_i o r' ho
          cases h
          cases o <;> decide
        · split at h
          · cases h
            simp [text]
          · split at h
            · cases h
              simp [text]
            · simp at h

theorem length_cut? {cs rest : List Char} {l : Lexeme} (h : cut? cs = some (l, rest)) :
    rest.length < cs.length := by
  have hn := List.length_pos_iff.2 (text_ne_nil_of_cut? h)
  rw [eq_of_cut? h, List.length_append]
  omega

def scanChars : List Char → Except Char (List Lexeme)
  | [] => .ok []
  | c :: cs =>
    if Text.isBlank c then scanChars cs
    else
      match h : cut? (c :: cs) with
      | none => .error c
      | some (l, rest) =>
        have : rest.length ≤ cs.length := Nat.le_of_lt_succ (length_cut? h)
        (scanChars rest).map (l :: ·)
termination_by cs => cs.length

def scan (line : Option Int) (s : String) : Except ReadError (List Lexeme) :=
  (scanChars s.toList).mapError fun c => .malformed (.strayCharacter c) line

end Lexeme

end Stencil
