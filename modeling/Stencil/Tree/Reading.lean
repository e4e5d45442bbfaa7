import Stencil.Fault
import Stencil.Lexeme.Scan
import Stencil.Tree

/-!
Reading expressions from a row of lexemes. Each reader looks at most one lexeme ahead, and stops
where it succeeds or fails.
-/

namespace Stencil

/-- What a reader found, or why it failed, and the lexemes that it left. -/
structure Reading (α : Type) where
  outcome : Except ReadError α
  rest : List Lexeme

namespace Reading

variable {α β : Type}

def found (a : α) (ls : List Lexeme) : Reading α :=
  ⟨.ok a, ls⟩

def failed (line : Option Int) (f : Fault) (ls : List Lexeme) : Reading α :=
  ⟨.error (.malformed f line), ls⟩

def map (f : α → β) (r : Reading α) : Reading β :=
  ⟨r.outcome.map f, r.rest⟩

def andThen (r : Reading α) (k : α → List Lexeme → Reading β) : Reading β :=
  match r.outcome with
  | .ok a => k a r.rest
  | .error e => ⟨.error e, r.rest⟩

def next : List Lexeme → Option Lexeme × List Lexeme
  | [] => (none, [])
  | l :: ls => (some l, ls)

def accept? (s : String) : List Lexeme → Option (List Lexeme)
  | .punct c :: ls => if String.singleton c = s then some ls else none
  | _ => none

variable (line : Option Int)

def expectPunct (s : String) (ls : List Lexeme) : Reading Unit :=
  match accept? s ls with
  | some ls => found () ls
  | none => failed line (.expected (.text s) ls.head?) ls

def expectName (s : String) : List Lexeme → Reading Unit
  | .name t :: ls =>
    if t = s then found () ls else failed line (.expected (.text s) (some (.name t))) ls
  | ls => failed line (.expected (.text s) ls.head?) ls.tail

def expectEnd : List Lexeme → Reading Unit
  | [] => found () []
  | l :: ls => failed line (.unexpected l) (l :: ls)

def literalWord? : String → Option Value
  | "true" => some (.bool true)
  | "false" => some (.bool false)
  | "none" => some .null
  | "null" => some .null
  | _ => none

def reserved : List String :=
  ["not", "and", "or", "in"]

def identifier : List Lexeme → Reading String
  | .name s :: ls =>
    if (literalWord? s).isSome then failed line (.expected .name (some (.name s))) ls
    else found s ls
  | ls => failed line (.expected .name ls.head?) ls.tail

def bracketed? : Lexeme → Option (Except DigitLimit Segment)
  | .number ⟨negative, whole, none⟩ => some ((Number.readInteger negative whole).map .index)
  | .quoted _ body => some (.ok (.key (String.ofList (Lexeme.unescape body))))
  | _ => none

/-- The steps of a path after its first name. Any name may follow a point. -/
def steps : List Lexeme → Reading (List Segment)
  | .punct '.' :: .name s :: ls => (steps ls).map (.key s :: ·)
  | .punct '.' :: ls => failed line (.expected .property ls.head?) ls.tail
  | .punct '[' :: l :: ls =>
    match bracketed? l with
    | none => failed line (.expected .index (some l)) ls
    | some (.error e) => ⟨.error (.digits e), ls⟩
    | some (.ok s) =>
      match ls with
      | .punct ']' :: ls => (steps ls).map (s :: ·)
      | ls => failed line (.expected (.text "]") ls.head?) ls
  | [.punct '['] => failed line (.expected .index none) []
  | ls => found [] ls

def path (ls : List Lexeme) : Reading Path :=
  (identifier line ls).andThen fun s ls => (steps line ls).map (⟨s, ·⟩)

def literal : List Lexeme → Reading Value
  | .quoted _ body :: ls => found (.text (String.ofList (Lexeme.unescape body))) ls
  | .number n :: ls =>
    match n.value with
    | .ok x => found (.number x) ls
    | .error e => ⟨.error (.digits e), ls⟩
  | .name s :: ls =>
    match literalWord? s with
    | some v => found v ls
    | none => failed line (.expected .literal (some (.name s))) ls
  | ls => failed line (.expected .literal ls.head?) ls.tail

def operand : List Lexeme → Reading Expr
  | .quoted q body :: ls => (literal line (.quoted q body :: ls)).map .literal
  | .number n :: ls => (literal line (.number n :: ls)).map .literal
  | .name s :: ls =>
    if (literalWord? s).isSome then (literal line (.name s :: ls)).map .literal
    else if s ∈ reserved then failed line (.unexpected (.name s)) (.name s :: ls)
    else (path line (.name s :: ls)).map .path
  | ls => failed line (.expected .value ls.head?) ls

theorem length_identifier (ls : List Lexeme) : (identifier line ls).rest.length ≤ ls.length := by
  unfold identifier
  split
  · split <;> simp [failed, found]
  · simp [failed]

theorem length_steps (ls : List Lexeme) : (steps line ls).rest.length ≤ ls.length := by
  fun_induction steps line ls <;> simp_all [failed, found, map] <;> omega

theorem length_path (ls : List Lexeme) : (path line ls).rest.length ≤ ls.length := by
  have h := length_identifier line ls
  unfold path andThen
  split
  · exact Nat.le_trans (length_steps line _) h
  · exact h

theorem length_literal (ls : List Lexeme) : (literal line ls).rest.length ≤ ls.length := by
  unfold literal
  split
  · simp [found]
  · split <;> simp [found]
  · split <;> simp [found, failed]
  · simp [failed]

theorem length_operand (ls : List Lexeme) : (operand line ls).rest.length ≤ ls.length := by
  unfold operand
  split
  · exact length_literal line _
  · exact length_literal line _
  · split
    · exact length_literal line _
    · split
      · simp [failed]
      · exact length_path line _
  · simp [failed]

def moreArguments : List Lexeme → Reading (List Expr)
  | .punct ',' :: ls =>
    have := length_operand line ls
    match h : operand line ls with
    | ⟨.error e, rest⟩ => ⟨.error e, rest⟩
    | ⟨.ok e, rest⟩ =>
      have : rest.length ≤ ls.length := by rwa [h] at this
      (moreArguments rest).map (e :: ·)
  | ls => found [] ls
termination_by ls => ls.length
decreasing_by exact Nat.lt_succ_of_le this

def arguments (ls : List Lexeme) : Reading (List Expr) :=
  match accept? ")" ls with
  | some ls => found [] ls
  | none =>
    (operand line ls).andThen fun e ls =>
      (moreArguments line ls).andThen fun es ls =>
        (expectPunct line ")" ls).map fun _ => e :: es

def filterCall (ls : List Lexeme) : Reading FilterCall :=
  (identifier line ls).andThen fun name ls =>
    match accept? "(" ls with
    | some ls => (arguments line ls).map (⟨name, ·, line⟩)
    | none => found ⟨name, [], line⟩ ls

theorem length_accept? {s : String} {ls rest : List Lexeme} (h : accept? s ls = some rest) :
    rest.length < ls.length := by
  unfold accept? at h
  split at h
  · split at h
    · cases h
      simp
    · simp at h
  · simp at h

theorem length_expectPunct (s : String) (ls : List Lexeme) :
    (expectPunct line s ls).rest.length ≤ ls.length := by
  unfold expectPunct
  split
  · rename_i h
    exact Nat.le_of_lt (length_accept? h)
  · exact Nat.le_refl _

theorem length_moreArguments (ls : List Lexeme) :
    (moreArguments line ls).rest.length ≤ ls.length := by
  fun_induction moreArguments line ls with
  | case1 ls hl e rest h =>
    rw [h] at hl
    simp only [List.length_cons] at *
    omega
  | case2 ls hl e rest h _ ih =>
    rw [h] at hl
    simp only [map, List.length_cons] at *
    omega
  | case3 ls h => exact Nat.le_refl _

theorem length_andThen {r : Reading α} {k : α → List Lexeme → Reading β} {n : Nat}
    (hr : r.rest.length ≤ n) (hk : ∀ a ls, (k a ls).rest.length ≤ ls.length) :
    (r.andThen k).rest.length ≤ n := by
  unfold andThen
  split
  · exact Nat.le_trans (hk _ _) hr
  · exact hr

theorem length_arguments (ls : List Lexeme) : (arguments line ls).rest.length ≤ ls.length := by
  unfold arguments
  split
  · rename_i h
    exact Nat.le_of_lt (length_accept? h)
  · refine length_andThen (length_operand line ls) fun e ls => ?_
    refine length_andThen (length_moreArguments line ls) fun es ls => ?_
    exact length_expectPunct line ")" ls

theorem length_filterCall (ls : List Lexeme) : (filterCall line ls).rest.length ≤ ls.length := by
  refine length_andThen (length_identifier line ls) fun name ls => ?_
  split
  · rename_i h
    exact Nat.le_trans (length_arguments line _) (Nat.le_of_lt (length_accept? h))
  · exact Nat.le_refl _

def filterCalls : List Lexeme → Reading (List FilterCall)
  | .punct '|' :: ls =>
    have := length_filterCall line ls
    match h : filterCall line ls with
    | ⟨.error e, rest⟩ => ⟨.error e, rest⟩
    | ⟨.ok f, rest⟩ =>
      have : rest.length ≤ ls.length := by rwa [h] at this
      (filterCalls rest).map (f :: ·)
  | ls => found [] ls
termination_by ls => ls.length
decreasing_by exact Nat.lt_succ_of_le this

def chain : List Lexeme → Reading (Expr × List FilterCall)
  | [] => failed line .missingExpression []
  | l :: ls =>
    (operand line (l :: ls)).andThen fun e ls => (filterCalls line ls).map (e, ·)

def condition : List Lexeme → Reading Expr
  | [] => failed line .missingCondition []
  | .name "not" :: ls => (operand line ls).map .not
  | l :: ls =>
    (operand line (l :: ls)).andThen fun left ls =>
      match ls with
      | .op c :: ls => (operand line ls).map (.compare c left)
      | ls => found left ls

def complete (r : Reading α) : Except ReadError α :=
  (r.andThen fun a ls => (expectEnd line ls).map fun _ => a).outcome

def wholeCondition (s : String) : Except ReadError Expr := do
  let ls ← Lexeme.scan line s
  complete line (condition line ls)

def wholeChain (s : String) : Except ReadError (Expr × List FilterCall) := do
  let ls ← Lexeme.scan line s
  complete line (chain line ls)

end Reading

end Stencil
