import Stencil.Proofs.Binding
import Stencil.Proofs.Simulation

/-! A name that is bound to the value of a path may be replaced by the path. -/

namespace Stencil

namespace Rewriting

def inline (y : String) (p : Path) : Rewriting where
  path q := if q.head = y then ⟨p.head, p.steps ++ q.steps⟩ else q
  name n := n

end Rewriting

namespace Scope

open Rewriting

variable {y : String} {p : Path} {s t : Scope}

structure Inlines (y : String) (p : Path) (s t : Scope) : Prop
    extends Corresponds (inline y p).name (· ≠ y) s t where
  value : s.bound? y = some (p.resolve s)

lemma Inlines.resolve (h : Inlines y p s t) (hy : y ≠ p.head) (q : Path) :
    ((inline y p).path q).resolve t = q.resolve s := by
  by_cases hq : q.head = y
  · have hp : p.resolve t = p.resolve s := Path.resolve_congr (h.lookup hy.symm rfl)
    have hv : s.lookup q.head = p.resolve s := by rw [hq, lookup_of_bound h.value]
    calc ((inline y p).path q).resolve t
      _ = Path.resolve ⟨p.head, p.steps ++ q.steps⟩ t := congrArg (Path.resolve · t) (if_pos hq)
      _ = q.steps.foldl (fun v g => g.step v) (p.resolve t) := List.foldl_append
      _ = q.resolve s := by rw [hp, ← hv, Path.resolve]
  · have hi : (inline y p).path q = q := if_neg hq
    rw [hi]
    exact Path.resolve_congr (h.lookup hq rfl)

lemma resolve_assign {name : String} (hp : name ≠ p.head) (v : Value) (s : Scope) :
    p.resolve (s.assign name v) = p.resolve s :=
  Path.resolve_congr (lookup_assign_of_ne hp.symm v s)

lemma resolve_enter {name : String} (hp : name ≠ p.head) (hl : p.head ≠ "loop") (v : Value)
    (i : LoopPosition) (s : Scope) : p.resolve (s.enter name v i) = p.resolve s :=
  Path.resolve_congr (lookup_enter_of_ne hp.symm hl v i s)

lemma inlines_assign (hy : y ≠ p.head) (s : Scope) :
    Inlines y p (s.assign y (p.resolve s)) s where
  loops := rfl
  data := rfl
  bound n hn := by
    rw [bound?_assign, if_neg hn]
    rfl
  value := by rw [bound?_assign, if_pos rfl, resolve_assign hy]

lemma Inlines.assign (h : Inlines y p s t) {name : String} (hy : name ≠ y) (hp : name ≠ p.head)
    (v : Value) : Inlines y p (s.assign name v) (t.assign name v) where
  toCorresponds := h.toCorresponds.assign (fun _ _ => Iff.rfl) hy v
  value := by rw [bound?_assign, if_neg hy.symm, h.value, resolve_assign hp]

lemma Inlines.enter (h : Inlines y p s t) (hl : p.head ≠ "loop") {name : String} (hy : name ≠ y)
    (hp : name ≠ p.head) (v : Value) (i : LoopPosition) :
    Inlines y p (s.enter name v i) (t.enter name v i) where
  toCorresponds := h.toCorresponds.enter (fun _ _ => Iff.rfl) hy v i
  value := by rw [bound?_enter, if_neg hy.symm, h.value, resolve_enter hp hl]

lemma simulation_inlines (hy : y ≠ p.head) (hl : p.head ≠ "loop") :
    Simulation (inline y p) (fun _ => True) (fun n => n ≠ y ∧ n ≠ p.head) (Inlines y p) where
  resolve h _ := h.resolve hy _
  assign v h hn := h.assign hn.1 hn.2 v
  enter v i h hn := h.enter hl hn.1 hn.2 v i

end Scope

namespace Node

open Rewriting

lemma renderAll_set_path (table : FilterTable) (y : String) (p : Path) (line : Option Int)
    (ns : List Node) (s : Scope) :
    renderAll table (.set y (.path p) [] line :: ns) s =
      renderAll table ns (s.assign y (p.resolve s)) := by
  rw [renderAll, render]
  rfl

theorem renderAll_set_inline (table : FilterTable) {p : Path} {y : String} {ns : List Node}
    (hy : y ≠ p.head) (hl : p.head ≠ "loop") (hby : y ∉ binders ns) (hbp : p.head ∉ binders ns)
    (line : Option Int) (s : Scope) :
    let r := renderAll table (.set y (.path p) [] line :: ns) s
    let q := renderAll table (rewriteAll (inline y p) ns) s
    q.output = r.output ∧ q.error = r.error ∧ ∀ n, n ≠ y → q.scope.lookup n = r.scope.lookup n := by
  intro r q
  have hw : Within (fun _ => True) (fun n => n ≠ y ∧ n ≠ p.head) (marksAll ns) := by
    refine within_marksAll (fun _ _ => trivial) fun name hn => ⟨?_, ?_⟩
    · rintro rfl
      exact hby hn
    · rintro rfl
      exact hbp hn
  have ha : Run.Alike (inline y p) (Scope.Inlines y p) r q := by
    simp only [r, q, renderAll_set_path]
    exact alike_renderAll table (Scope.simulation_inlines hy hl) ns (Scope.inlines_assign hy s) hw
  exact ⟨ha.output, ha.error, fun n hn => ha.scope.lookup hn rfl⟩

theorem renderAll_set_inline_scalar :
    let zero : ShortInt := ⟨0, by decide +kernel⟩
    let one : ShortInt := ⟨1, by decide +kernel⟩
    let p : Path := ⟨"a", [.key "b", .index zero]⟩
    let body (y : List Segment → Path) : List Node :=
      [.loop "x" ⟨"xs", []⟩
        [.output (.path (y [.index one])) [] none, .set "z" (.path (y [.key "c", .key "d"])) [] none,
         .output (.path ⟨"z", []⟩) [] none],
       .loop "x" (y []) [.text "e"], .output (.path (y [.key "length"])) [] none,
       .output (.literal .null) [⟨"f", [.path (y [])], none⟩] none]
    let s : Scope := ⟨[("v", .null)], [], [],
      [("a", .mapping [("b", .sequence .list [.text "pq"])]),
       ("xs", .sequence .list [.null, .null])]⟩
    let r := renderAll (fun _ => none) (.set "v" (.path p) [] none :: body (⟨"v", ·⟩)) s
    "v" ∉ binders (body (⟨"v", ·⟩)) ∧ p.head ∉ binders (body (⟨"v", ·⟩)) ∧
      rewriteAll (inline "v" p) (body (⟨"v", ·⟩)) = body (⟨p.head, p.steps ++ ·⟩) ∧
      r.output = ["q", "", "q", "", "2"] ∧ r.error = some (.unknownFilter "f") := by
  intro zero one p body s r
  have hv : "v" ∉ binders (body (⟨"v", ·⟩)) := by decide
  have hp : p.head ∉ binders (body (⟨"v", ·⟩)) := by decide
  obtain ⟨ho, he, -⟩ :=
    renderAll_set_inline (fun _ => none) (p := p) (by decide) (by decide) hv hp none s
  exact ⟨hv, hp, rfl, ho.symm.trans (by decide +kernel), he.symm.trans (by decide +kernel)⟩

end Node

end Stencil
