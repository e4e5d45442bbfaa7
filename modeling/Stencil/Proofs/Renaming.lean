import Stencil.Proofs.Binding
import Stencil.Proofs.Simulation

/-! The item variable of a loop may have any name that the body of the loop does not use. -/

namespace Stencil

namespace Rewriting

def rename (x y : String) : Rewriting where
  path p := { p with head := if p.head = x then y else p.head }
  name n := if n = x then y else n

variable {x y m n : String}

lemma name_rename_inj (hm : m ≠ y) (hn : n ≠ y) :
    (rename x y).name m = (rename x y).name n ↔ m = n := by
  simp only [rename]
  split <;> split <;> simp_all [eq_comm]

end Rewriting

namespace Scope

open Rewriting

variable {x y : String} {s t : Scope}

/-- The second scope binds under new names what the first binds under the old ones, which include
`x`. What it has under the old name is not seen from a tree in which the name is replaced. -/
structure Renamed (x y : String) (s t : Scope) : Prop
    extends Corresponds (rename x y).name (· ≠ y) s t where
  item : ∃ v, s.bound? x = some v

lemma renamed_enter (x y : String) (v : Value) (p : LoopPosition) (s : Scope) :
    Renamed x y (s.enter x v p) (s.enter y v p) where
  loops := rfl
  data := rfl
  bound n hn := by
    rw [bound?_enter, bound?_enter]
    by_cases h : n = x
    · simp [rename, h]
    · simp [rename, h, hn]
  item := ⟨v, by rw [bound?_enter, if_pos rfl]⟩

lemma Renamed.resolve (h : Renamed x y s t) {p : Path} (hp : p.head ≠ y) :
    ((rename x y).path p).resolve t = p.resolve s := by
  apply Path.resolve_congr
  change t.lookup ((rename x y).name p.head) = s.lookup p.head
  by_cases hx : p.head = x
  · obtain ⟨v, hv⟩ := h.item
    rw [← hx] at hv
    rw [lookup_of_bound hv, lookup_of_bound ((h.bound _ hp).trans hv)]
  · have hn : (rename x y).name p.head = p.head := if_neg hx
    rw [hn]
    exact h.lookup hp hn

lemma Renamed.assign (h : Renamed x y s t) {name : String} (hn : name ≠ y) (v : Value) :
    Renamed x y (s.assign name v) (t.assign ((rename x y).name name) v) where
  toCorresponds := h.toCorresponds.assign name_rename_inj hn v
  item := by
    obtain ⟨w, hw⟩ := h.item
    rw [bound?_assign, hw]
    split <;> exact ⟨_, rfl⟩

lemma Renamed.enter (h : Renamed x y s t) {name : String} (hn : name ≠ y) (v : Value)
    (p : LoopPosition) :
    Renamed x y (s.enter name v p) (t.enter ((rename x y).name name) v p) where
  toCorresponds := h.toCorresponds.enter name_rename_inj hn v p
  item := by
    obtain ⟨w, hw⟩ := h.item
    rw [bound?_enter, hw]
    split <;> exact ⟨_, rfl⟩

lemma simulation_renamed (x y : String) :
    Simulation (rename x y) (· ≠ y) (· ≠ y) (Renamed x y) where
  resolve h hp := h.resolve hp
  assign v h hn := h.assign hn v
  enter v p h hn := h.enter hn v p

end Scope

namespace Node

open Rewriting

theorem render_loop_rename (table : FilterTable) {x y : String} {body : List Node}
    (hr : y ∉ heads body) (hb : y ∉ binders body) (iterable : Path) (s : Scope) :
    let r := render table (.loop x iterable body) s
    let q := render table (.loop y iterable (rewriteAll (rename x y) body)) s
    q.output = r.output ∧ q.error = r.error ∧ q.scope = r.scope := by
  intro r q
  have hw : Within (· ≠ y) (· ≠ y) (marksAll body) :=
    within_marksAll (fun name hn h => hr (h ▸ hn)) fun name hn h => hb (h ▸ hn)
  have hbody : ∀ v p, Run.Alike (rename x y) (Scope.Renamed x y)
      (renderAll table body (s.enter x v p))
      (renderAll table (rewriteAll (rename x y) body) (s.enter y v p)) := fun v p =>
    alike_renderAll table (Scope.simulation_renamed x y) body (Scope.renamed_enter x y v p s) hw
  have ha : Run.Alike (rename x y) Eq r q := by
    simp only [r, q, render]
    cases iterable.resolve s with
    | sequence kind items =>
      exact Run.alike_iterate (leave_renderAll table body x)
        (leave_renderAll table (rewriteAll (rename x y) body) y) rfl hbody 0 items
    | _ => exact ⟨rfl, rfl, rfl, fun _ => rfl⟩
  exact ⟨ha.output, ha.error, ha.scope.symm⟩

theorem render_loop_rename_rebound :
    let body (x : String) : List Node :=
      [.loop x ⟨x, []⟩
        [.set x (.path ⟨x, [.key "x"]⟩) [] none, .output (.path ⟨x, []⟩) [] none],
       .output (.path ⟨x, [.key "length"]⟩) [⟨"f", [.path ⟨x, []⟩], none⟩] none]
    let rows : Value := .sequence .list
      [.sequence .list [.mapping [("x", .text "a")], .mapping [("x", .text "b")]]]
    let s : Scope := ⟨[("x", .null)], [], [], [("y", rows)]⟩
    let q := render (fun _ => none) (.loop "y" ⟨"y", []⟩ (body "y")) s
    "y" ∉ heads (body "x") ∧ "y" ∉ binders (body "x") ∧
      rewriteAll (rename "x" "y") (body "x") = body "y" ∧
      q.output = ["a", "b"] ∧ q.error = some (.unknownFilter "f") ∧ q.scope = s := by
  intro body rows s q
  have hr : "y" ∉ heads (body "x") := by decide
  have hb : "y" ∉ binders (body "x") := by decide
  have hq := render_loop_rename (fun _ => none) (x := "x") hr hb ⟨"y", []⟩ s
  exact ⟨hr, hb, rfl, hq⟩

end Node

end Stencil
