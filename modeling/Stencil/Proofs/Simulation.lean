import Mathlib.Data.List.Basic
import Stencil.Proofs.Frame
import Stencil.Proofs.Rewriting

/-! A run of a rewritten tree does what a run of the tree itself does, as long as the scopes of the
two runs stay related. -/

namespace Stencil

variable (ρ : Rewriting)

lemma Path.resolve_congr {p : Path} {head : String} {s t : Scope}
    (h : t.lookup head = s.lookup p.head) : Path.resolve ⟨head, p.steps⟩ t = p.resolve s := by
  rw [resolve, resolve, h]

/-- A relation of scopes under which paths that begin with a name of `reads` have the same values,
and which bindings and iterations keep as long as they bind names of `binds`. -/
structure Simulation (reads binds : String → Prop) (R : Scope → Scope → Prop) : Prop where
  resolve : ∀ {s t} {p : Path}, R s t → reads p.head → (ρ.path p).resolve t = p.resolve s
  assign : ∀ {s t name} (v : Value), R s t → binds name →
    R (s.assign name v) (t.assign (ρ.name name) v)
  enter : ∀ {s t item} (v : Value) (p : LoopPosition), R s t → binds item →
    R (s.enter item v p) (t.enter (ρ.name item) v p)

structure Mark.Within (reads binds : String → Prop) (m : Mark) : Prop where
  heads : ∀ name ∈ m.heads, reads name
  binders : ∀ name ∈ m.binders, binds name

namespace Run

structure Alike (R : Scope → Scope → Prop) (r q : Run) : Prop where
  output : q.output = r.output
  error : q.error = r.error
  scope : R r.scope q.scope
  events : (∀ p, ρ.path p = p) → q.events = r.events

def visible (r : Run) : List String × List Event × Option RenderError :=
  (r.output, r.events, r.error)

variable {ρ} {R S : Scope → Scope → Prop} {s t : Scope}

lemma Alike.visible {r q : Run} (h : Alike ρ R r q) (hp : ∀ p, ρ.path p = p) :
    q.visible = r.visible := by
  rw [Run.visible, Run.visible, h.output, h.error, h.events hp]

lemma alike_nothing (h : R s t) : Alike ρ R (nothing s) (nothing t) :=
  ⟨rfl, rfl, h, fun _ => rfl⟩

lemma alike_write (h : R s t) (v : Value) : Alike ρ R (write s v) (write t v) := by
  rw [write, write]
  cases v.toText with
  | ok x => exact ⟨rfl, rfl, h, fun _ => rfl⟩
  | error limit => exact ⟨rfl, rfl, h, fun _ => rfl⟩

lemma alike_ofValue {v : Except RenderError Value × List Event} {k l : Value → Run} (h : R s t)
    (hk : ∀ w, Alike ρ R (k w) (l w)) : Alike ρ R (ofValue s v k) (ofValue t v l) := by
  rcases v with ⟨_ | w, events⟩
  · exact ⟨rfl, rfl, h, fun _ => rfl⟩
  · obtain ⟨ho, he, hs, hv⟩ := hk w
    exact ⟨ho, he, hs, fun hp => congrArg (events ++ ·) (hv hp)⟩

lemma Alike.andThen {r q : Run} {k l : Scope → Run} (h : Alike ρ R r q)
    (hk : Alike ρ R (k r.scope) (l q.scope)) : Alike ρ R (r.andThen k) (q.andThen l) := by
  have he := h.error
  cases hr : r.error with
  | some e =>
    rw [hr] at he
    simpa only [Run.andThen, hr, he] using h
  | none =>
    rw [hr] at he
    simp only [Run.andThen, hr, he]
    refine ⟨?_, hk.error, hk.scope, fun hp => ?_⟩
    · rw [h.output, hk.output]
    · rw [h.events hp, hk.events hp]

lemma alike_iterate {item item' : String} {n : Nat} {body body' : Scope → Run}
    (hb : ∀ v p s, (body (s.enter item v p)).scope.leave = s)
    (hb' : ∀ v p s, (body' (s.enter item' v p)).scope.leave = s) (h : R s t)
    (hr : ∀ v p, Alike ρ S (body (s.enter item v p)) (body' (t.enter item' v p))) (i : Nat)
    (vs : List Value) : Alike ρ R (iterate item n body i vs s) (iterate item' n body' i vs t) := by
  -- Both bodies give their scopes back, so the next elements start from related scopes again.
  induction vs generalizing i with
  | nil => exact alike_nothing h
  | cons v vs ih =>
    obtain ⟨ho, he, -, hv⟩ := hr v ⟨i, n⟩
    have hs : (body (s.enter item v ⟨i, n⟩)).leave.scope = s := hb v ⟨i, n⟩ s
    have ht : (body' (t.enter item' v ⟨i, n⟩)).leave.scope = t := hb' v ⟨i, n⟩ t
    have hl : Alike ρ R (body (s.enter item v ⟨i, n⟩)).leave
        (body' (t.enter item' v ⟨i, n⟩)).leave := ⟨ho, he, by rwa [hs, ht], hv⟩
    rw [iterate, iterate]
    refine hl.andThen ?_
    rw [hs, ht]
    exact ih (i + 1)

end Run

namespace Simulation

variable {ρ} {reads binds : String → Prop} {R : Scope → Scope → Prop} {s t : Scope}

lemma eval (h : Simulation ρ reads binds R) (hs : R s t) (e : Expr)
    (he : ∀ name ∈ e.heads, reads name) : (e.rewrite ρ).eval t = e.eval s := by
  induction e with
  | literal v => rfl
  | path p => rw [Expr.rewrite, Expr.eval, Expr.eval, h.resolve hs (he _ List.mem_cons_self)]
  | not e ih => rw [Expr.rewrite, Expr.eval, Expr.eval, ih he]
  | compare op left right ihl ihr =>
    obtain ⟨hl, hr⟩ := List.forall_mem_append.1 he
    rw [Expr.rewrite, Expr.eval, Expr.eval, ihl hl, ihr hr]
  | unknown type => rfl

lemma evalArgs (h : Simulation ρ reads binds R) (hs : R s t) (args : List Expr)
    (ha : ∀ name ∈ args.flatMap Expr.heads, reads name) :
    (args.map (·.rewrite ρ)).mapM (·.eval t) = args.mapM (·.eval s) := by
  induction args with
  | nil => rfl
  | cons a as ih =>
    rw [List.flatMap_cons, List.forall_mem_append] at ha
    rw [List.map_cons, List.mapM_cons, List.mapM_cons, h.eval hs a ha.1, ih ha.2]

lemma applyAll (h : Simulation ρ reads binds R) (hs : R s t) (table : FilterTable)
    (cs : List FilterCall) (v : Value) (hc : ∀ name ∈ cs.flatMap FilterCall.heads, reads name) :
    FilterCall.applyAll table t (cs.map (·.rewrite ρ)) v = FilterCall.applyAll table s cs v := by
  induction cs generalizing v with
  | nil => rfl
  | cons c cs ih =>
    rw [List.flatMap_cons, List.forall_mem_append] at hc
    have hn : (c.rewrite ρ).name = c.name := rfl
    have ha : (c.rewrite ρ).args.mapM (·.eval t) = c.args.mapM (·.eval s) :=
      h.evalArgs hs c.args hc.1
    have hcs := fun w => ih w hc.2
    simp only [List.map_cons, FilterCall.applyAll, hn, ha, hcs]

lemma evalWith (h : Simulation ρ reads binds R) (hs : R s t) (table : FilterTable) (e : Expr)
    (filters : List FilterCall)
    (he : ∀ name ∈ e.heads ++ filters.flatMap FilterCall.heads, reads name) :
    (e.rewrite ρ).evalWith table t (filters.map (·.rewrite ρ)) = e.evalWith table s filters := by
  obtain ⟨he, hf⟩ := List.forall_mem_append.1 he
  have ha := fun v => h.applyAll hs table filters v hf
  simp only [Expr.evalWith, h.eval hs e he, ha]

end Simulation

namespace Node

variable {ρ} {reads binds : String → Prop} {R : Scope → Scope → Prop} {s t : Scope}

def Within (reads binds : String → Prop) (ms : List Mark) : Prop :=
  ∀ m ∈ ms, m.Within reads binds

lemma within_append {ms ns : List Mark} :
    Within reads binds (ms ++ ns) ↔ Within reads binds ms ∧ Within reads binds ns :=
  List.forall_mem_append

lemma within_cons {m : Mark} {ms : List Mark} :
    Within reads binds (m :: ms) ↔ m.Within reads binds ∧ Within reads binds ms :=
  List.forall_mem_cons

variable (table : FilterTable)

mutual

lemma alike_render (h : Simulation ρ reads binds R) (n : Node) {s t : Scope} (hs : R s t)
    (hn : Within reads binds n.marks) :
    Run.Alike ρ R (n.render table s) ((n.rewrite ρ).render table t) := by
  cases n with
  | text x => exact ⟨rfl, rfl, hs, fun _ => rfl⟩
  | output e filters line =>
    obtain ⟨⟨he, -⟩, -⟩ := within_cons.1 hn
    rw [rewrite, render, render, h.evalWith hs table e filters he]
    exact Run.alike_ofValue hs (Run.alike_write hs)
  | set name e filters line =>
    obtain ⟨⟨he, hb⟩, -⟩ := within_cons.1 hn
    rw [rewrite, render, render, h.evalWith hs table e filters he]
    refine Run.alike_ofValue hs fun w => Run.alike_nothing ?_
    exact h.assign w hs (hb name List.mem_cons_self)
  | conditional branches otherwise =>
    obtain ⟨hn, -⟩ := within_append.1 hn
    obtain ⟨hb, ho⟩ := within_append.1 hn
    rw [rewrite, render, render]
    refine alike_renderBranches h branches .test (fun e => rfl) hs hb ?_
    exact alike_renderElse h otherwise hs ho
  | loop item iterable body =>
    obtain ⟨⟨hi, hb⟩, hn⟩ := within_cons.1 hn
    obtain ⟨hbody, -⟩ := within_append.1 hn
    rw [rewrite, render, render, h.resolve hs (hi _ List.mem_cons_self)]
    have hr : ∀ v p, Run.Alike ρ R (renderAll table body (s.enter item v p))
        (renderAll table (rewriteAll ρ body) (t.enter (ρ.name item) v p)) := fun v p =>
      alike_renderAll h body (h.enter v p hs (hb item List.mem_cons_self)) hbody
    cases iterable.resolve s with
    | sequence kind items =>
      exact Run.alike_iterate (leave_renderAll table body item)
        (leave_renderAll table (rewriteAll ρ body) (ρ.name item)) hs hr 0 items
    | null => exact Run.alike_nothing hs
    | _ => exact ⟨rfl, rfl, hs, fun hp => by rw [hp]⟩
  | unknown type => exact ⟨rfl, rfl, hs, fun _ => rfl⟩

lemma alike_renderAll (h : Simulation ρ reads binds R) (ns : List Node) {s t : Scope} (hs : R s t)
    (hn : Within reads binds (marksAll ns)) :
    Run.Alike ρ R (renderAll table ns s) (renderAll table (rewriteAll ρ ns) t) := by
  cases ns with
  | nil => exact Run.alike_nothing hs
  | cons n ns =>
    obtain ⟨hn, hns⟩ := within_append.1 hn
    have hr := alike_render h n hs hn
    rw [rewriteAll, renderAll, renderAll]
    exact hr.andThen (alike_renderAll h ns hr.scope hns)

lemma alike_renderBranches (h : Simulation ρ reads binds R) (bs : List (Expr × List Node))
    (head : Expr → Mark) (hm : ∀ e, (head e).heads = e.heads) {k l : Scope → Run} {s t : Scope}
    (hs : R s t) (hb : Within reads binds (branchMarks head bs)) (hk : Run.Alike ρ R (k s) (l t)) :
    Run.Alike ρ R (renderBranches table bs k s)
      (renderBranches table (rewriteBranches ρ bs) l t) := by
  rcases bs with _ | ⟨⟨test, body⟩, bs⟩
  · exact hk
  obtain ⟨⟨ht, -⟩, hb⟩ := within_cons.1 hb
  obtain ⟨hbody, hbs⟩ := within_append.1 hb
  rw [hm] at ht
  rw [rewriteBranches, renderBranches, renderBranches, h.eval hs test ht]
  cases test.eval s with
  | error e => exact ⟨rfl, rfl, hs, fun _ => rfl⟩
  | ok v =>
    cases hv : v.isTruthy with
    | true => simpa [hv] using alike_renderAll h body hs hbody
    | false => simpa [hv] using alike_renderBranches h bs .orTest (fun e => rfl) hs hbs hk

lemma alike_renderElse (h : Simulation ρ reads binds R) (otherwise : Option (List Node))
    {s t : Scope} (hs : R s t) (ho : Within reads binds (elseMarks otherwise)) :
    Run.Alike ρ R (renderElse table otherwise s)
      (renderElse table (rewriteElse ρ otherwise) t) := by
  rcases otherwise with _ | ns
  · exact Run.alike_nothing hs
  · obtain ⟨-, hn⟩ := within_cons.1 ho
    exact alike_renderAll h ns hs hn

end

lemma within_marksAll {ns : List Node} (hr : ∀ name ∈ heads ns, reads name)
    (hb : ∀ name ∈ binders ns, binds name) : Within reads binds (marksAll ns) := by
  intro m hm
  refine ⟨fun name hn => hr name ?_, fun name hn => hb name ?_⟩
  · exact List.mem_flatMap.2 ⟨m, hm, hn⟩
  · exact List.mem_flatMap.2 ⟨m, hm, hn⟩

end Node

end Stencil
