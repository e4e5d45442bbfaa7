import Mathlib.Tactic.Lemma
import Stencil.Render

/-! The nodes that a run comes to. An error ends it exactly if one of them fails in itself. -/

namespace Stencil

namespace Run

lemma andThen_of_none {r : Run} {k : Scope → Run} (h : r.error = none) :
    (r.andThen k).error = (k r.scope).error := by
  rw [andThen, h]

lemma andThen_of_some {r : Run} {k : Scope → Run} {e : RenderError} (h : r.error = some e) :
    (r.andThen k).error = some e := by
  rw [andThen, h]
  exact h

lemma andThen_eq_some {r : Run} {k : Scope → Run} {e : RenderError} :
    (r.andThen k).error = some e ↔
      r.error = some e ∨ r.error = none ∧ (k r.scope).error = some e := by
  cases h : r.error with
  | none => simp [andThen_of_none h]
  | some e' => simp [andThen_of_some h]

lemma andThen_eq_none {r : Run} {k : Scope → Run} :
    (r.andThen k).error = none ↔ r.error = none ∧ (k r.scope).error = none := by
  cases h : r.error with
  | none => simp [andThen_of_none h]
  | some e => simp [andThen_of_some h]

lemma scope_andThen {r : Run} {k : Scope → Run} (h : r.error = none) :
    (r.andThen k).scope = (k r.scope).scope := by
  rw [andThen, h]

lemma ofValue_eq_some {s : Scope} {v : Except RenderError Value × List Event} {k : Value → Run}
    {e : RenderError} :
    (ofValue s v k).error = some e ↔ v.1 = .error e ∨ ∃ w, v.1 = .ok w ∧ (k w).error = some e := by
  rcases v with ⟨_ | w, events⟩ <;> simp [ofValue]

lemma write_eq_some {s : Scope} {v : Value} {e : RenderError} :
    (write s v).error = some e ↔ ∃ limit, v.toText = .error limit ∧ e = .digits limit := by
  rw [write]
  cases v.toText with
  | ok t => simp
  | error limit => simp [eq_comm]

lemma iterate_eq_some {item : String} {n i : Nat} {body : Scope → Run} {vs : List Value} {s : Scope}
    {e : RenderError} :
    (iterate item n body i vs s).error = some e ↔
      ∃ before v after, vs = before ++ v :: after ∧ (iterate item n body i before s).error = none ∧
        (body ((iterate item n body i before s).scope.enter item v
          ⟨(i + before.length : Nat), n⟩)).error = some e := by
  -- The elements before the failing one are rendered from the same index and scope.
  induction vs generalizing i s with
  | nil => simp [iterate, nothing]
  | cons v vs ih =>
    have hi : ∀ before : List Value, i + 1 + before.length = i + (v :: before).length := by
      intro before
      simp only [List.length_cons]
      omega
    rw [iterate, andThen_eq_some]
    constructor
    · rintro (h | ⟨hn, h⟩)
      · exact ⟨[], v, vs, rfl, rfl, h⟩
      · obtain ⟨before, w, after, rfl, hb, he⟩ := ih.1 h
        refine ⟨v :: before, w, after, rfl, ?_, ?_⟩
        · rw [iterate, andThen_eq_none]
          exact ⟨hn, hb⟩
        · rw [iterate, scope_andThen hn, ← hi]
          exact he
    · rintro ⟨before, w, after, hv, hb, he⟩
      cases before with
      | nil =>
        cases hv
        exact .inl he
      | cons x before =>
        cases hv
        rw [iterate, andThen_eq_none] at hb
        rw [iterate, scope_andThen hb.1, ← hi] at he
        exact .inr ⟨hb.1, ih.2 ⟨before, w, after, rfl, hb.2, he⟩⟩

end Run

namespace Node

inductive Takes (s : Scope) : List (Expr × List Node) → Option (List Node) → List Node → Prop
  | test {test body bs otherwise v} : test.eval s = .ok v → v.isTruthy = true →
      Takes s ((test, body) :: bs) otherwise body
  | later {test body bs otherwise v ns} : test.eval s = .ok v → v.isTruthy = false →
      Takes s bs otherwise ns → Takes s ((test, body) :: bs) otherwise ns
  | otherwise {ns} : Takes s [] (some ns) ns

inductive Stuck (s : Scope) (e : RenderError) : List (Expr × List Node) → Prop
  | test {test body bs} : test.eval s = .error e → Stuck s e ((test, body) :: bs)
  | later {test body bs v} : test.eval s = .ok v → v.isTruthy = false → Stuck s e bs →
      Stuck s e ((test, body) :: bs)

variable (table : FilterTable)

/-- A run of nodes in a scope comes to a node, which it renders in a scope of its own. -/
inductive Reaches : List Node → Scope → Node → Scope → Prop
  | here {n ns s} : Reaches (n :: ns) s n s
  | next {n ns s m t} : (n.render table s).error = none →
      Reaches ns (n.render table s).scope m t → Reaches (n :: ns) s m t
  | branch {branches otherwise body ns s m t} : Takes s branches otherwise body →
      Reaches body s m t → Reaches (.conditional branches otherwise :: ns) s m t
  | iteration {item iterable body ns s kind before v after m t} :
      iterable.resolve s = .sequence kind (before ++ v :: after) →
      (Run.iterate item (before ++ v :: after).length (renderAll table body) 0 before s).error = none →
      Reaches body
        ((Run.iterate item (before ++ v :: after).length (renderAll table body) 0 before s).scope.enter
          item v ⟨before.length, (before ++ v :: after).length⟩) m t →
      Reaches (.loop item iterable body :: ns) s m t

inductive Fails (s : Scope) : Node → RenderError → Prop
  | output {e filters line err} : (e.evalWith table s filters).1 = .error err →
      Fails s (.output e filters line) err
  | text {e filters line v limit} : (e.evalWith table s filters).1 = .ok v →
      v.toText = .error limit → Fails s (.output e filters line) (.digits limit)
  | set {name e filters line err} : (e.evalWith table s filters).1 = .error err →
      Fails s (.set name e filters line) err
  | conditional {branches otherwise err} : Stuck s err branches →
      Fails s (.conditional branches otherwise) err
  | unknown {type} : Fails s (.unknown type) (.unknownNode type)

variable {table} {s : Scope} {e : RenderError}

lemma renderBranches_of_takes {branches : List (Expr × List Node)} {otherwise : Option (List Node)}
    {body : List Node} (h : Takes s branches otherwise body) :
    renderBranches table branches (renderElse table otherwise) s = renderAll table body s := by
  induction h with
  | test he hv => simp [renderBranches, he, hv]
  | later he hv _ ih => simp [renderBranches, he, hv, ih]
  | otherwise => simp [renderBranches, renderElse]

lemma renderBranches_of_stuck {branches : List (Expr × List Node)} {otherwise : Scope → Run}
    (h : Stuck s e branches) : (renderBranches table branches otherwise s).error = some e := by
  induction h with
  | test he => simp [renderBranches, he]
  | later he hv _ ih => simpa [renderBranches, he, hv] using ih

lemma renderAll_cons {n : Node} {ns : List Node} (h : (n.render table s).error = some e) :
    (renderAll table (n :: ns) s).error = some e := by
  rw [renderAll]
  exact Run.andThen_of_some h

lemma render_of_fails {n : Node} (h : Fails table s n e) : (n.render table s).error = some e := by
  cases h with
  | output h =>
    rw [render]
    exact Run.ofValue_eq_some.2 (.inl h)
  | text h ht =>
    rw [render]
    exact Run.ofValue_eq_some.2 (.inr ⟨_, h, Run.write_eq_some.2 ⟨_, ht, rfl⟩⟩)
  | set h =>
    rw [render]
    exact Run.ofValue_eq_some.2 (.inl h)
  | conditional h =>
    rw [render]
    exact renderBranches_of_stuck h
  | unknown => rw [render]

lemma renderAll_of_reaches {ns : List Node} {n : Node} {t : Scope} (hr : Reaches table ns s n t)
    (hf : Fails table t n e) : (renderAll table ns s).error = some e := by
  induction hr with
  | here => exact renderAll_cons (render_of_fails hf)
  | next hn _ ih =>
    rw [renderAll, Run.andThen_of_none hn]
    exact ih hf
  | branch ht _ ih =>
    apply renderAll_cons
    rw [render, renderBranches_of_takes ht]
    exact ih hf
  | @iteration item iterable body ns s kind before v after m t hi hn _ ih =>
    apply renderAll_cons
    simp only [render, hi]
    refine Run.iterate_eq_some.2 ⟨before, v, after, rfl, hn, ?_⟩
    simpa using ih hf

mutual

lemma render_fails (n : Node) {s : Scope} (h : (n.render table s).error = some e) :
    ∃ m t, (∀ ns, Reaches table (n :: ns) s m t) ∧ Fails table t m e := by
  cases n with
  | text _ =>
    rw [render] at h
    cases h
  | output x filters line =>
    rw [render] at h
    refine ⟨_, s, fun ns => .here, ?_⟩
    rcases Run.ofValue_eq_some.1 h with he | ⟨v, hv, hw⟩
    · exact .output he
    · obtain ⟨limit, ht, rfl⟩ := Run.write_eq_some.1 hw
      exact .text hv ht
  | set name x filters line =>
    rw [render] at h
    refine ⟨_, s, fun ns => .here, ?_⟩
    rcases Run.ofValue_eq_some.1 h with h | ⟨v, -, hn⟩
    · exact .set h
    · cases hn
  | conditional branches otherwise =>
    rw [render] at h
    rcases renderBranches_fails branches otherwise h (renderElse_fails otherwise) with
      h | ⟨body, m, t, ht, hr, hf⟩
    · exact ⟨_, s, fun ns => .here, .conditional h⟩
    · exact ⟨m, t, fun ns => .branch ht hr, hf⟩
  | loop item iterable body =>
    rw [render] at h
    split at h
    · rename_i kind items hi
      obtain ⟨before, v, after, rfl, hn, he⟩ := Run.iterate_eq_some.1 h
      obtain ⟨m, t, hr, hf⟩ := renderAll_fails body he
      rw [Nat.zero_add] at hr
      exact ⟨m, t, fun ns => .iteration hi hn hr, hf⟩
    · cases h
    · cases h
  | unknown type =>
    rw [render] at h
    cases h
    exact ⟨_, s, fun ns => .here, .unknown⟩

lemma renderAll_fails (ns : List Node) {s : Scope} (h : (renderAll table ns s).error = some e) :
    ∃ m t, Reaches table ns s m t ∧ Fails table t m e := by
  cases ns with
  | nil =>
    rw [renderAll] at h
    cases h
  | cons n ns =>
    rw [renderAll] at h
    rcases Run.andThen_eq_some.1 h with h | ⟨hn, h⟩
    · obtain ⟨m, t, hr, hf⟩ := render_fails n h
      exact ⟨m, t, hr ns, hf⟩
    · obtain ⟨m, t, hr, hf⟩ := renderAll_fails ns h
      exact ⟨m, t, .next hn hr, hf⟩

lemma renderBranches_fails (bs : List (Expr × List Node)) (otherwise : Option (List Node))
    {s : Scope} (h : (renderBranches table bs (renderElse table otherwise) s).error = some e)
    (ho : (renderElse table otherwise s).error = some e →
      ∃ ns m t, otherwise = some ns ∧ Reaches table ns s m t ∧ Fails table t m e) :
    Stuck s e bs ∨
      ∃ body m t, Takes s bs otherwise body ∧ Reaches table body s m t ∧ Fails table t m e := by
  rcases bs with _ | ⟨⟨test, body⟩, bs⟩
  · rw [renderBranches] at h
    obtain ⟨ns, m, t, rfl, hr, hf⟩ := ho h
    exact .inr ⟨ns, m, t, .otherwise, hr, hf⟩
  rw [renderBranches] at h
  split at h
  · rename_i err he
    cases h
    exact .inl (.test he)
  · rename_i v he
    split at h
    · rename_i hv
      obtain ⟨m, t, hr, hf⟩ := renderAll_fails body h
      exact .inr ⟨body, m, t, .test he hv, hr, hf⟩
    · rename_i hv
      rw [Bool.not_eq_true] at hv
      rcases renderBranches_fails bs otherwise h ho with h | ⟨ns, m, t, ht, hr, hf⟩
      · exact .inl (.later he hv h)
      · exact .inr ⟨ns, m, t, .later he hv ht, hr, hf⟩

lemma renderElse_fails (otherwise : Option (List Node)) {s : Scope}
    (h : (renderElse table otherwise s).error = some e) :
    ∃ ns m t, otherwise = some ns ∧ Reaches table ns s m t ∧ Fails table t m e := by
  rcases otherwise with _ | ns
  · rw [renderElse] at h
    cases h
  · rw [renderElse] at h
    obtain ⟨m, t, hr, hf⟩ := renderAll_fails ns h
    exact ⟨ns, m, t, rfl, hr, hf⟩

end

lemma renderAll_eq_some {ns : List Node} :
    (renderAll table ns s).error = some e ↔ ∃ m t, Reaches table ns s m t ∧ Fails table t m e := by
  constructor
  · exact renderAll_fails ns
  · rintro ⟨m, t, hr, hf⟩
    exact renderAll_of_reaches hr hf

end Node

end Stencil
