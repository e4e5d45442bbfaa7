import Stencil.Proofs.Frame

/-! What holds of every scope that a run comes to: whatever its bindings and the elements that its
loops enter leave true. -/

namespace Stencil.Node

variable {table : FilterTable} {ns ms : List Node} {s t u : Scope} {m : Node} {I : Scope → Prop}

lemma Reaches.cons {n : Node} (h : Reaches table [n] s m t) (ns : List Node) :
    Reaches table (n :: ns) s m t := by
  cases h with
  | here => exact .here
  | next _ h => cases h
  | branch ht h => exact .branch ht h
  | iteration hi hn h => exact .iteration hi hn h

structure Invariant (table : FilterTable) (ns : List Node) (s : Scope) (I : Scope → Prop) :
    Prop where
  assign : ∀ {name e filters line t v}, Reaches table ns s (.set name e filters line) t → I t →
    (e.evalWith table t filters).1 = .ok v → I (t.assign name v)
  enter : ∀ {item iterable body t kind items v} {i : Nat},
    Reaches table ns s (.loop item iterable body) t → I t →
    iterable.resolve t = .sequence kind items → items[i]? = some v →
    I (t.enter item v ⟨i, items.length⟩)

lemma Invariant.within (h : Invariant table ns s I)
    (hr : ∀ m t, Reaches table ms u m t → Reaches table ns s m t) : Invariant table ms u I where
  assign hm := h.assign (hr _ _ hm)
  enter hm := h.enter (hr _ _ hm)

lemma scope_iterate_renderAll (item : String) (n i : Nat) (body : List Node) (vs : List Value)
    (s : Scope) : (Run.iterate item n (renderAll table body) i vs s).scope = s :=
  Run.scope_iterate (leave_renderAll table body item) i vs s

lemma Reaches.iteration_of_resolve {item : String} {iterable : Path} {body : List Node}
    {kind : SequenceKind} {before after : List Value} {v : Value}
    (hi : iterable.resolve s = .sequence kind (before ++ v :: after))
    (hn : (Run.iterate item (before ++ v :: after).length (renderAll table body) 0 before s).error =
      none)
    (h : Reaches table body (s.enter item v ⟨before.length, (before ++ v :: after).length⟩) m t) :
    Reaches table (.loop item iterable body :: ns) s m t := by
  refine .iteration hi hn ?_
  rw [scope_iterate_renderAll]
  exact h

mutual

lemma invariant_render (n : Node) {s : Scope} (h : Invariant table [n] s I) (hs : I s) :
    I (n.render table s).scope := by
  cases n with
  | text t => exact hs
  | output e filters line =>
    rw [render]
    rcases hv : e.evalWith table s filters with ⟨_ | v, events⟩
    · exact hs
    · simp only [Run.ofValue, Run.scope_write]
      exact hs
  | set name e filters line =>
    rw [render]
    rcases hv : e.evalWith table s filters with ⟨_ | v, events⟩
    · exact hs
    · exact h.assign .here hs (by rw [hv])
  | conditional branches otherwise =>
    rw [render]
    refine invariant_renderBranches branches (fun body hb => ?_) hs fun ho => ?_
    · exact h.within fun m t hr => .branch hb hr
    · exact invariant_renderElse otherwise (fun ns hns => ho ns (hns ▸ .otherwise)) hs
  | loop item iterable body =>
    rw [render]
    split
    · rw [scope_iterate_renderAll]
      exact hs
    · exact hs
    · exact hs
  | unknown type => exact hs

lemma invariant_renderAll (ns : List Node) {s : Scope} (h : Invariant table ns s I) (hs : I s) :
    I (renderAll table ns s).scope := by
  cases ns with
  | nil => exact hs
  | cons n ns =>
    have hn : I (n.render table s).scope :=
      invariant_render n (h.within fun m t hr => hr.cons ns) hs
    rw [renderAll]
    cases he : (n.render table s).error with
    | some e =>
      rw [Run.andThen, he]
      exact hn
    | none =>
      rw [Run.scope_andThen he]
      exact invariant_renderAll ns (h.within fun m t hr => .next he hr) hn

lemma invariant_renderBranches (bs : List (Expr × List Node)) {otherwise : Option (List Node)}
    {s : Scope} (h : ∀ body, Takes s bs otherwise body → Invariant table body s I) (hs : I s)
    (ho : (∀ body, Takes s [] otherwise body → Invariant table body s I) →
      I (renderElse table otherwise s).scope) :
    I (renderBranches table bs (renderElse table otherwise) s).scope := by
  rcases bs with _ | ⟨⟨test, body⟩, bs⟩
  · exact ho h
  rw [renderBranches]
  split
  · exact hs
  · rename_i v he
    cases hv : v.isTruthy with
    | true => exact invariant_renderAll body (h body (.test he hv)) hs
    | false => exact invariant_renderBranches bs (fun body hb => h body (.later he hv hb)) hs ho

lemma invariant_renderElse (otherwise : Option (List Node)) {s : Scope}
    (h : ∀ ns, otherwise = some ns → Invariant table ns s I) (hs : I s) :
    I (renderElse table otherwise s).scope := by
  rcases otherwise with _ | ns
  · exact hs
  · exact invariant_renderAll ns (h ns rfl) hs

end

lemma Invariant.reaches (h : Invariant table ns s I) (hs : I s) (hr : Reaches table ns s m t) :
    I t := by
  induction hr with
  | here => exact hs
  | @next n ns s m t hn _ ih =>
    have hi : I (n.render table s).scope :=
      invariant_render n (h.within fun m t hr => hr.cons ns) hs
    exact ih (h.within fun m t hr => .next hn hr) hi
  | branch ht _ ih => exact ih (h.within fun m t hr => .branch ht hr) hs
  | @iteration item iterable body ns s kind before v after m t hi hn _ ih =>
    rw [scope_iterate_renderAll] at ih
    refine ih (h.within fun m t hr => .iteration_of_resolve hi hn hr) ?_
    exact h.enter .here hs hi (by simp)

end Stencil.Node
