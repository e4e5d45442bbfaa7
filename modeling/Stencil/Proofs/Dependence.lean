import Stencil.Proofs.Simulation
import Stencil.Template

/-! A template depends on its data only through the names that begin its paths: under other names
the data may hold anything. -/

namespace Stencil

namespace Fields

variable {names : List String} {d d' : Fields}

def Agree (names : List String) (d d' : Fields) : Prop :=
  ∀ name ∈ names, (d.lookup name).getD .null = (d'.lookup name).getD .null

lemma Agree.set (h : Agree names d d') (name : String) (v : Value) :
    Agree names (d.set name v) (d'.set name v) := by
  intro n hn
  rw [lookup_set, lookup_set]
  split
  · rfl
  · exact h n hn

lemma Agree.merge (h : Agree names d d') (context : Fields) :
    Agree names (d.merge context) (d'.merge context) := by
  unfold Fields.merge
  induction context generalizing d d' with
  | nil => exact h
  | cons f fs ih => exact ih (h.set f.1 f.2)

end Fields

namespace Scope

open Rewriting

def onData (d : Fields) (s : Scope) : Scope :=
  { s with data := d }

variable {names : List String} {s : Scope} {d : Fields} {name : String}

lemma lookup_onData (h : Fields.Agree names s.data d) (hn : name ∈ names) :
    (s.onData d).lookup name = s.lookup name := by
  have hd : (d.lookup name).getD .null = (s.data.lookup name).getD .null := (h name hn).symm
  simp only [lookup, lookup?, onData, frames]
  cases (s.inner :: s.outer).findSome? (·.lookup name) with
  | some v => rfl
  | none =>
    cases (if name = "loop" then s.loops.head?.map (·.toValue) else none) with
    | some v => rfl
    | none => exact hd

def OverAgreeing (names : List String) (s t : Scope) : Prop :=
  ∃ d, t = s.onData d ∧ Fields.Agree names s.data d

lemma simulation_overAgreeing (names : List String) :
    Simulation same (· ∈ names) (fun _ => True) (OverAgreeing names) where
  resolve := by
    rintro s _ p ⟨d, rfl, h⟩ hp
    exact Path.resolve_congr (lookup_onData h hp)
  assign := by
    rintro s _ name v ⟨d, rfl, h⟩ -
    exact ⟨d, rfl, h⟩
  enter := by
    rintro s _ item v p ⟨d, rfl, h⟩ -
    exact ⟨d, rfl, h⟩

end Scope

namespace Template

open Node

lemma visible_renderNodes (table : FilterTable) (nodes : List Node) {d d' : Fields}
    (h : Fields.Agree (heads nodes) d d') :
    (renderNodes table nodes (.mapping d)).visible =
      (renderNodes table nodes (.mapping d')).visible := by
  have hw : Within (· ∈ heads nodes) (fun _ => True) (marksAll nodes) :=
    within_marksAll (fun _ hn => hn) fun _ _ => trivial
  have hd : Scope.OverAgreeing (heads nodes) (.ofData d) (.ofData d') := ⟨d', rfl, h⟩
  have ha := alike_renderAll table (Scope.simulation_overAgreeing _) nodes hd hw
  rw [rewriteAll_same] at ha
  exact (ha.visible fun _ => rfl).symm

end Template

theorem render_eq_of_agree {source : String} {d d' : Fields}
    (h : ∀ t, Template.ofSource source = .ok t → Fields.Agree (Node.heads t.nodes) d d') :
    (∀ t table context, Template.ofSource source = .ok t →
        (t.render table (.mapping d) context).map Run.visible =
          (t.render table (.mapping d') context).map Run.visible) ∧
      ∀ g, render g source (.mapping d) = render g source (.mapping d') := by
  constructor
  · intro t table context ht
    rw [Template.render, Template.render, Template.addContext, Template.addContext]
    cases context.find? fun f => Template.reserved.contains f.1 with
    | some f => rfl
    | none =>
      exact congrArg Except.ok (Template.visible_renderNodes table t.nodes ((h t ht).merge context))
  · intro g
    rw [render, render]
    cases ht : Template.ofSource source with
    | error e => rfl
    | ok t =>
      have hv := Template.visible_renderNodes (Builtin.table g) t.nodes (h t ht)
      simp only [Run.visible, Prod.mk.injEq] at hv
      simp only [hv, Run.text]

theorem render_eq_of_agree_null :
    let source := "\x7b% for x in xs %\x7d\x7b% set loop = x %\x7d" ++
      "\x7b\x7b loop \x7d\x7d\x7b\x7b y \x7d\x7d\x7b% endfor %\x7d"
    let d : Fields := [("xs", .sequence .list [.int 1]), ("y", .null), ("secret", .int 1)]
    let d' : Fields := [("secret", .int 2), ("xs", .sequence .list [.int 1])]
    (∀ t, Template.ofSource source = .ok t → Fields.Agree (Node.heads t.nodes) d d') ∧
      ∀ g, render g source (.mapping d) = render g source (.mapping d') := by
  intro source d d'
  have hs : Node.ofSource source = .ok
      [.loop "x" ⟨"xs", []⟩
        [.set "loop" (.path ⟨"x", []⟩) [] (some 1), .output (.path ⟨"loop", []⟩) [] (some 1),
         .output (.path ⟨"y", []⟩) [] (some 1)]] := by
    have ht : Token.ofSource source = .ok
        [⟨.tag, "for x in xs", 1⟩, ⟨.tag, "set loop = x", 1⟩, ⟨.output, "loop", 1⟩,
         ⟨.output, "y", 1⟩, ⟨.tag, "endfor", 1⟩] := by
      decide +kernel
    rw [Node.ofSource, ht]
    with_unfolding_all rfl
  have ha : ∀ t, Template.ofSource source = .ok t → Fields.Agree (Node.heads t.nodes) d d' := by
    intro t ht
    rw [Template.ofSource, hs] at ht
    cases ht
    intro name hn
    have hm : name = "xs" ∨ name = "x" ∨ name = "loop" ∨ name = "y" := by
      simpa [Node.heads, Node.marksAll, Node.marks, Mark.heads, Expr.heads] using hn
    rcases hm with rfl | rfl | rfl | rfl <;> rfl
  exact ⟨ha, (render_eq_of_agree ha).2⟩

end Stencil
