import Stencil.Proofs.Binding
import Stencil.Proofs.Simulation
import Stencil.Template

/-! Extra variables may stand in the data or in the outermost frame. -/

namespace Stencil

namespace Fields

variable {n : String}

lemma lookup_merge (fs gs : Fields) (n : String) :
    (fs.merge gs).lookup n = ((merge [] gs).lookup n).or (fs.lookup n) := by
  induction gs generalizing fs with
  | nil => rfl
  | cons g gs ih =>
    change ((fs.set g.1 g.2).merge gs).lookup n =
      ((merge (set g.1 g.2 []) gs).lookup n).or (fs.lookup n)
    rw [ih (fs.set g.1 g.2), ih (set g.1 g.2 []), Option.or_assoc, lookup_set, lookup_set]
    split <;> rfl

lemma lookup_merge_of_forall_ne {gs : Fields} (h : ∀ g ∈ gs, g.1 ≠ n) (fs : Fields) :
    (fs.merge gs).lookup n = fs.lookup n := by
  induction gs generalizing fs with
  | nil => rfl
  | cons g gs ih =>
    obtain ⟨hg, hgs⟩ := List.forall_mem_cons.1 h
    change ((fs.set g.1 g.2).merge gs).lookup n = fs.lookup n
    rw [ih hgs, lookup_set, if_neg (Ne.symm hg)]

end Fields

open Rewriting

namespace Scope

variable {context : Fields} {s t : Scope}

def assignAll (context : Fields) (s : Scope) : Scope :=
  context.foldl (fun s f => s.assign f.1 f.2) s

lemma assignAll_eq (context : Fields) (s : Scope) :
    s.assignAll context = { s with inner := s.inner.merge context } := by
  induction context generalizing s with
  | nil => rfl
  | cons f fs ih => exact ih (s.assign f.1 f.2)

structure Layered (context : Fields) (s t : Scope) : Prop where
  loops : t.loops = s.loops
  data : s.data = t.data.merge context
  bound : ∀ n, t.bound? n = (s.bound? n).or ((Fields.merge [] context).lookup n)

lemma layered_ofData (data context : Fields) :
    Layered context (.ofData (data.merge context)) ((ofData data).assignAll context) := by
  rw [assignAll_eq]
  refine ⟨rfl, rfl, fun n => ?_⟩
  rw [bound?_ofData, Option.none_or]
  simp only [bound?, frames, ofData, List.findSome?_cons, List.findSome?_nil]
  cases (Fields.merge [] context).lookup n <;> rfl

lemma Layered.lookup (h : Layered context s t) (hl : ∀ f ∈ context, f.1 ≠ "loop") (n : String) :
    t.lookup n = s.lookup n := by
  have ht := h.bound n
  have hd : s.data.lookup n = ((Fields.merge [] context).lookup n).or (t.data.lookup n) := by
    rw [h.data, Fields.lookup_merge]
  cases hs : s.bound? n with
  | some v =>
    rw [hs, Option.some_or] at ht
    rw [lookup_of_bound hs, lookup_of_bound ht]
  | none =>
    rw [hs, Option.none_or] at ht
    cases hc : (Fields.merge [] context).lookup n with
    | some v =>
      -- An extra variable is found in a frame or in the data; no position of a loop is in between.
      have hn : n ≠ "loop" := by
        rintro rfl
        cases hc.symm.trans (Fields.lookup_merge_of_forall_ne hl [])
      rw [lookup_of_bound (ht.trans hc), lookup_of_unbound hs, if_neg hn, hd, hc]
      rfl
    | none =>
      rw [lookup_of_unbound (ht.trans hc), lookup_of_unbound hs, h.loops, hd, hc, Option.none_or]

lemma Layered.assign (h : Layered context s t) (name : String) (v : Value) :
    Layered context (s.assign name v) (t.assign name v) where
  loops := h.loops
  data := h.data
  bound n := by
    rw [bound?_assign, bound?_assign, h.bound n]
    split <;> rfl

lemma Layered.enter (h : Layered context s t) (name : String) (v : Value) (p : LoopPosition) :
    Layered context (s.enter name v p) (t.enter name v p) where
  loops := congrArg (p :: ·) h.loops
  data := h.data
  bound n := by
    rw [bound?_enter, bound?_enter, h.bound n]
    split <;> rfl

lemma simulation_layered (hl : ∀ f ∈ context, f.1 ≠ "loop") :
    Simulation same (fun _ => True) (fun _ => True) (Layered context) where
  resolve h _ := Path.resolve_congr (h.lookup hl _)
  assign v h _ := h.assign _ v
  enter v p h _ := h.enter _ v p

end Scope

namespace Template

open Node

lemma addContext_mapping (data : Fields) {context : Fields} (h : ∀ f ∈ context, f.1 ∉ reserved) :
    addContext (.mapping data) context = .ok (.mapping (data.merge context)) := by
  have hf : context.find? (fun f => reserved.contains f.1) = none :=
    List.find?_eq_none.2 fun f hf => by simpa using h f hf
  rw [addContext, hf]

/-- Extra variables do the same in the data, where they win over it, as in the outermost frame,
whatever the template binds. The name `loop` is left out, since the position in a loop stands
between the frames and the data. -/
theorem render_context (table : FilterTable) (t : Template) (data : Fields) {context : Fields}
    (hl : ∀ f ∈ context, f.1 ≠ "loop") :
    let r := renderNodes table t.nodes (.mapping (data.merge context))
    let q := renderAll table t.nodes ((Scope.ofData data).assignAll context)
    q.visible = r.visible ∧
      ((∀ f ∈ context, f.1 ∉ reserved) → t.render table (.mapping data) context = .ok r) := by
  intro r q
  have hw : Within (fun _ => True) (fun _ => True) (marksAll t.nodes) :=
    within_marksAll (fun _ _ => trivial) fun _ _ => trivial
  have ha : Run.Alike same (Scope.Layered context) r q := by
    have h := alike_renderAll table (Scope.simulation_layered hl) t.nodes
      (Scope.layered_ofData data context) hw
    rwa [rewriteAll_same] at h
  constructor
  · exact ha.visible fun _ => rfl
  · intro hc
    rw [render, addContext_mapping data hc]
    rfl

theorem render_context_overwritten :
    let t : Template := ⟨"",
      [.set "a" (.path ⟨"b", []⟩) [] none,
       .loop "b" ⟨"xs", []⟩
         [.output (.path ⟨"loop", [.key "index"]⟩) [] none, .output (.path ⟨"a", []⟩) [] none,
          .set "a" (.path ⟨"b", []⟩) [] none, .output (.path ⟨"a", []⟩) [] none],
       .output (.path ⟨"a", []⟩) [⟨"f", [], none⟩] none]⟩
    let data : Fields := [("a", .text "p"), ("xs", .null)]
    let context : Fields :=
      [("b", .text "q"), ("xs", .sequence .list [.text "r"]), ("a", .text "s")]
    let q := renderAll (fun _ => none) t.nodes ((Scope.ofData data).assignAll context)
    (∀ f ∈ context, f.1 ≠ "loop") ∧ (∀ f ∈ context, f.1 ∉ reserved) ∧
      (t.render (fun _ => none) (.mapping data) context).map Run.visible = .ok q.visible ∧
      q.visible = (["1", "q", "r"], [], some (.unknownFilter "f")) := by
  intro t data context q
  have hl : ∀ f ∈ context, f.1 ≠ "loop" := by decide
  have hc : ∀ f ∈ context, f.1 ∉ reserved := by decide
  obtain ⟨hv, hr⟩ := render_context (fun _ => none) t data hl
  refine ⟨hl, hc, ?_, by decide +kernel⟩
  rw [hr hc, hv]
  rfl

example :
    let nodes : List Node :=
      [.loop "x" ⟨"xs", []⟩ [.output (.path ⟨"loop", [.key "index"]⟩) [] none]]
    let data : Fields := [("xs", .sequence .list [.null])]
    let context : Fields := [("loop", .null)]
    (renderNodes (fun _ => none) nodes (.mapping (data.merge context))).output = ["1"] ∧
      (renderAll (fun _ => none) nodes ((Scope.ofData data).assignAll context)).output = [""] := by
  decide +kernel

end Template

end Stencil
