import Stencil.Proofs.Mark

/-! The names that a tree reads and binds, and trees with their paths and these names rewritten. -/

namespace Stencil

namespace Expr

def heads : Expr → List String
  | .literal _ => []
  | .path p => [p.head]
  | .not e => e.heads
  | .compare _ left right => left.heads ++ right.heads
  | .unknown _ => []

end Expr

namespace FilterCall

def heads (c : FilterCall) : List String :=
  c.args.flatMap Expr.heads

end FilterCall

namespace Mark

def heads : Mark → List String
  | .output e filters _ => e.heads ++ filters.flatMap FilterCall.heads
  | .set _ e filters _ => e.heads ++ filters.flatMap FilterCall.heads
  | .test e => e.heads
  | .orTest e => e.heads
  | .loop _ iterable => [iterable.head]
  | _ => []

def binders : Mark → List String
  | .set name _ _ _ => [name]
  | .loop item _ => [item]
  | _ => []

end Mark

namespace Node

def heads (ns : List Node) : List String :=
  (marksAll ns).flatMap Mark.heads

def binders (ns : List Node) : List String :=
  (marksAll ns).flatMap Mark.binders

end Node

structure Rewriting where
  path : Path → Path
  name : String → String

variable (ρ : Rewriting)

def Expr.rewrite : Expr → Expr
  | .literal v => .literal v
  | .path p => .path (ρ.path p)
  | .not e => .not e.rewrite
  | .compare op left right => .compare op left.rewrite right.rewrite
  | .unknown type => .unknown type

def FilterCall.rewrite (c : FilterCall) : FilterCall :=
  { c with args := c.args.map (·.rewrite ρ) }

namespace Node

mutual

def rewrite : Node → Node
  | .text s => .text s
  | .output e filters line => .output (e.rewrite ρ) (filters.map (·.rewrite ρ)) line
  | .set name e filters line =>
    .set (ρ.name name) (e.rewrite ρ) (filters.map (·.rewrite ρ)) line
  | .conditional branches otherwise =>
    .conditional (rewriteBranches branches) (rewriteElse otherwise)
  | .loop item iterable body => .loop (ρ.name item) (ρ.path iterable) (rewriteAll body)
  | .unknown type => .unknown type

def rewriteAll : List Node → List Node
  | [] => []
  | n :: ns => rewrite n :: rewriteAll ns

def rewriteBranches : List (Expr × List Node) → List (Expr × List Node)
  | [] => []
  | (test, body) :: bs => (test.rewrite ρ, rewriteAll body) :: rewriteBranches bs

def rewriteElse : Option (List Node) → Option (List Node)
  | none => none
  | some ns => some (rewriteAll ns)

end

end Node

namespace Rewriting

def same : Rewriting where
  path p := p
  name n := n

end Rewriting

open Rewriting

lemma Expr.rewrite_same (e : Expr) : e.rewrite same = e := by
  induction e with
  | not e ih => rw [rewrite, ih]
  | compare op left right ihl ihr => rw [rewrite, ihl, ihr]
  | _ => rfl

lemma FilterCall.rewrite_same (c : FilterCall) : c.rewrite same = c := by
  have hf : (fun e : Expr => e.rewrite same) = id := funext Expr.rewrite_same
  rw [rewrite, hf, List.map_id]

lemma FilterCall.map_rewrite_same (cs : List FilterCall) : cs.map (·.rewrite same) = cs := by
  have hf : (fun c : FilterCall => c.rewrite same) = id := funext rewrite_same
  rw [hf, List.map_id]

namespace Node

mutual

lemma rewrite_same (n : Node) : n.rewrite same = n := by
  cases n with
  | text s => rfl
  | output e filters line => rw [rewrite, e.rewrite_same, FilterCall.map_rewrite_same]
  | set name e filters line =>
    rw [rewrite, e.rewrite_same, FilterCall.map_rewrite_same]
    rfl
  | conditional branches otherwise =>
    rw [rewrite, rewriteBranches_same branches, rewriteElse_same otherwise]
  | loop item iterable body =>
    rw [rewrite, rewriteAll_same body]
    rfl
  | unknown type => rfl

lemma rewriteAll_same (ns : List Node) : rewriteAll same ns = ns := by
  cases ns with
  | nil => rfl
  | cons n ns => rw [rewriteAll, rewrite_same n, rewriteAll_same ns]

lemma rewriteBranches_same (bs : List (Expr × List Node)) : rewriteBranches same bs = bs := by
  rcases bs with _ | ⟨⟨test, body⟩, bs⟩
  · rfl
  · rw [rewriteBranches, test.rewrite_same, rewriteAll_same body, rewriteBranches_same bs]

lemma rewriteElse_same (otherwise : Option (List Node)) :
    rewriteElse same otherwise = otherwise := by
  rcases otherwise with _ | ns
  · rfl
  · rw [rewriteElse, rewriteAll_same ns]

end

end Node

end Stencil
