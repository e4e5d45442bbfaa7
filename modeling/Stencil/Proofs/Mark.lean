import Mathlib.Tactic.Lemma
import Stencil.Tree.Builder

/-! Trees written out as rows of marks, one for each token that a tree stands for. -/

namespace Stencil

inductive Mark
  | text (s : String)
  | output (e : Expr) (filters : List FilterCall) (line : Option Int)
  | set (name : String) (e : Expr) (filters : List FilterCall) (line : Option Int)
  | test (e : Expr)
  | orTest (e : Expr)
  | otherwise
  | endConditional
  | loop (item : String) (iterable : Path)
  | endLoop
  | unknown (type : String)

def Token.IsTag (t : Token) (keyword : String) (ls : List Lexeme) : Prop :=
  t.kind = .tag ∧ String.ofList (Text.cutWord t.value.toList).1 = keyword ∧
    Lexeme.scan (some t.line) (String.ofList (Text.cutWord t.value.toList).2) = .ok ls

/-- A token reads as a mark if its body, read to the end, is the header that the mark carries. -/
inductive Mark.Reads : Mark → Token → Prop
  | text {t} : t.kind = .text → Reads (.text t.value) t
  | output {t e filters} : t.kind = .output →
      Reading.wholeChain (some t.line) t.value = .ok (e, filters) →
      Reads (.output e filters (some t.line)) t
  | set {t ls name e filters} : t.IsTag "set" ls →
      Reading.complete (some t.line) (Builder.bindingHeader (some t.line) ls) =
        .ok (name, e, filters) →
      Reads (.set name e filters (some t.line)) t
  | test {t ls e} : t.IsTag "if" ls →
      Reading.complete (some t.line) (Reading.condition (some t.line) ls) = .ok e →
      Reads (.test e) t
  | orTest {t ls e} : t.IsTag "elif" ls →
      Reading.complete (some t.line) (Reading.condition (some t.line) ls) = .ok e →
      Reads (.orTest e) t
  | otherwise {t} : t.IsTag "else" [] → Reads .otherwise t
  | endConditional {t} : t.IsTag "endif" [] → Reads .endConditional t
  | loop {t ls item iterable} : t.IsTag "for" ls →
      Reading.complete (some t.line) (Builder.loopHeader (some t.line) ls) = .ok (item, iterable) →
      Reads (.loop item iterable) t
  | endLoop {t} : t.IsTag "endfor" [] → Reads .endLoop t

namespace Node

mutual

def marks : Node → List Mark
  | .text s => [.text s]
  | .output e filters line => [.output e filters line]
  | .set name e filters line => [.set name e filters line]
  | .conditional branches otherwise =>
    branchMarks .test branches ++ elseMarks otherwise ++ [.endConditional]
  | .loop item iterable body => .loop item iterable :: marksAll body ++ [.endLoop]
  | .unknown type => [.unknown type]

def marksAll : List Node → List Mark
  | [] => []
  | n :: ns => marks n ++ marksAll ns

def branchMarks (head : Expr → Mark) : List (Expr × List Node) → List Mark
  | [] => []
  | (test, body) :: bs => head test :: marksAll body ++ branchMarks .orTest bs

def elseMarks : Option (List Node) → List Mark
  | none => []
  | some ns => .otherwise :: marksAll ns

end

mutual

def height : Node → Nat
  | .conditional branches otherwise => max (branchHeight branches) (elseHeight otherwise) + 1
  | .loop _ _ body => heightAll body + 1
  | _ => 0

def heightAll : List Node → Nat
  | [] => 0
  | n :: ns => max (height n) (heightAll ns)

def branchHeight : List (Expr × List Node) → Nat
  | [] => 0
  | (_, body) :: bs => max (heightAll body) (branchHeight bs)

def elseHeight : Option (List Node) → Nat
  | none => 0
  | some ns => heightAll ns

end

mutual

def Branched : Node → Prop
  | .conditional branches otherwise =>
    branches ≠ [] ∧ BranchedBranches branches ∧ BranchedElse otherwise
  | .loop _ _ body => BranchedAll body
  | _ => True

def BranchedAll : List Node → Prop
  | [] => True
  | n :: ns => Branched n ∧ BranchedAll ns

def BranchedBranches : List (Expr × List Node) → Prop
  | [] => True
  | (_, body) :: bs => BranchedAll body ∧ BranchedBranches bs

def BranchedElse : Option (List Node) → Prop
  | none => True
  | some ns => BranchedAll ns

end

@[simp] lemma marksAll_append (ms ns : List Node) :
    marksAll (ms ++ ns) = marksAll ms ++ marksAll ns := by
  induction ms with
  | nil => rfl
  | cons m ms ih => simp [marksAll, ih]

@[simp] lemma heightAll_append (ms ns : List Node) :
    heightAll (ms ++ ns) = max (heightAll ms) (heightAll ns) := by
  induction ms with
  | nil => simp [heightAll]
  | cons m ms ih => simp [heightAll, ih, Nat.max_assoc]

@[simp] lemma branchedAll_append (ms ns : List Node) :
    BranchedAll (ms ++ ns) ↔ BranchedAll ms ∧ BranchedAll ns := by
  induction ms with
  | nil => simp [BranchedAll]
  | cons m ms ih => simp [BranchedAll, ih, and_assoc]

@[simp] lemma branchHeight_append (bs cs : List (Expr × List Node)) :
    branchHeight (bs ++ cs) = max (branchHeight bs) (branchHeight cs) := by
  induction bs with
  | nil => simp [branchHeight]
  | cons b bs ih => simp [branchHeight, ih, Nat.max_assoc]

@[simp] lemma branchedBranches_append (bs cs : List (Expr × List Node)) :
    BranchedBranches (bs ++ cs) ↔ BranchedBranches bs ∧ BranchedBranches cs := by
  induction bs with
  | nil => simp [BranchedBranches]
  | cons b bs ih => simp [BranchedBranches, ih, and_assoc]

lemma branchMarks_extend (head : Expr → Mark) (bs : List (Expr × List Node)) (test : Expr)
    (body ns : List Node) :
    branchMarks head (bs ++ [(test, body ++ ns)]) =
      branchMarks head (bs ++ [(test, body)]) ++ marksAll ns := by
  induction bs generalizing head with
  | nil => simp [branchMarks]
  | cons b bs ih => simp [branchMarks, ih]

lemma branchMarks_snoc (head : Expr → Mark) (bs : List (Expr × List Node)) (test : Expr)
    (h : bs ≠ []) :
    branchMarks head (bs ++ [(test, [])]) = branchMarks head bs ++ [.orTest test] := by
  induction bs generalizing head with
  | nil => exact (h rfl).elim
  | cons b bs ih =>
    cases bs with
    | nil => simp [branchMarks, marksAll]
    | cons c cs => simpa [branchMarks] using ih .orTest (by simp)

end Node

end Stencil
