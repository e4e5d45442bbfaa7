import Stencil.Proofs.Frame

/-! A loop is its iterations, each of them run by itself from the scope of the loop. -/

namespace Stencil

namespace Scope

lemma lookup_loop {s : Scope} {p : LoopPosition} {ps : List LoopPosition}
    (hf : ∀ f ∈ s.frames, f.lookup "loop" = none) (hp : s.loops = p :: ps) :
    s.lookup "loop" = p.toValue := by
  have hn : s.frames.findSome? (·.lookup "loop") = none := List.findSome?_eq_none_iff.2 hf
  rw [lookup, lookup?, hn, hp]
  rfl

lemma toValue_position (i n : Nat) :
    (LoopPosition.mk i n).toValue = .mapping
      [("index", .int (i + 1)), ("index0", .int i), ("first", .bool (i = 0)),
       ("last", .bool (i + 1 = n)), ("length", .int n)] := by
  have hf : ((i : Int) == 0) = decide (i = 0) := by
    rw [Bool.eq_iff_iff, beq_iff_eq, decide_eq_true_iff]
    omega
  have hl : ((i : Int) == (n : Int) - 1) = decide (i + 1 = n) := by
    rw [Bool.eq_iff_iff, beq_iff_eq, decide_eq_true_iff]
    omega
  rw [LoopPosition.toValue, hf, hl]

end Scope

namespace Run

variable {s : Scope}

def inTurn (s : Scope) : List Run → Run
  | [] => nothing s
  | r :: rs => andThen { r with scope := s } fun _ => inTurn s rs

lemma inTurn_cons_of_none {r : Run} (rs : List Run) (h : r.error = none) :
    inTurn s (r :: rs) =
      ⟨r.output ++ (inTurn s rs).output, r.events ++ (inTurn s rs).events, (inTurn s rs).scope,
        (inTurn s rs).error⟩ := by
  rw [inTurn, andThen, h]

lemma inTurn_of_none {rs : List Run} (h : ∀ q ∈ rs, q.error = none) :
    inTurn s rs = ⟨rs.flatMap output, rs.flatMap events, s, none⟩ := by
  induction rs with
  | nil => rfl
  | cons r rs ih =>
    have hr : r.error = none := h r List.mem_cons_self
    rw [inTurn_cons_of_none rs hr, ih fun q hq => h q (List.mem_cons_of_mem r hq)]
    rfl

lemma inTurn_of_some {before after : List Run} {q : Run} {e : RenderError}
    (h : ∀ p ∈ before, p.error = none) (hq : q.error = some e) :
    inTurn s (before ++ q :: after) =
      ⟨before.flatMap output ++ q.output, before.flatMap events ++ q.events, s, some e⟩ := by
  induction before with
  | nil =>
    rw [List.nil_append, inTurn, andThen, hq]
    rfl
  | cons p before ih =>
    have hp : p.error = none := h p List.mem_cons_self
    rw [List.cons_append, inTurn_cons_of_none _ hp, ih fun r hr => h r (List.mem_cons_of_mem p hr)]
    simp only [List.flatMap_cons, List.append_assoc]

lemma exists_first_failing (rs : List Run) :
    (∀ q ∈ rs, q.error = none) ∨
      ∃ before q after e, rs = before ++ q :: after ∧ (∀ p ∈ before, p.error = none) ∧
        q.error = some e := by
  induction rs with
  | nil => exact .inl nofun
  | cons r rs ih =>
    cases hr : r.error with
    | some e => exact .inr ⟨[], r, rs, e, rfl, nofun, hr⟩
    | none =>
      rcases ih with h | ⟨before, q, after, e, rfl, hb, hq⟩
      · exact .inl (List.forall_mem_cons.2 ⟨hr, h⟩)
      · exact .inr ⟨r :: before, q, after, e, rfl, List.forall_mem_cons.2 ⟨hr, hb⟩, hq⟩

lemma iterate_eq_inTurn {item : String} {n : Nat} {body : Scope → Run}
    (hb : ∀ v p s, (body (s.enter item v p)).scope.leave = s) (i : Nat) (vs : List Value)
    (s : Scope) :
    iterate item n body i vs s =
      inTurn s (vs.mapIdx fun j v => body (s.enter item v ⟨(i + j : Nat), n⟩)) := by
  -- A body gives the scope back as it found it, so the rest of the loop starts from `s` again.
  induction vs generalizing i with
  | nil => rfl
  | cons v vs ih =>
    have hl : (body (s.enter item v ⟨i, n⟩)).leave =
        { body (s.enter item v ⟨i, n⟩) with scope := s } := by
      rw [leave, hb]
    have hi : ∀ j, i + 1 + j = i + (j + 1) := by
      intro j
      omega
    rw [iterate, hl, List.mapIdx_cons, inTurn]
    simp only [andThen, ih (i + 1), hi, Nat.add_zero]

end Run

namespace Node

lemma render_loop_eq_inTurn (table : FilterTable) {s : Scope} {iterable : Path}
    {kind : SequenceKind} {items : List Value} (item : String) (body : List Node)
    (h : iterable.resolve s = .sequence kind items) :
    render table (.loop item iterable body) s =
      Run.inTurn s (items.mapIdx fun i v =>
        renderAll table body (s.enter item v ⟨i, items.length⟩)) := by
  have hb : ∀ v p s, (renderAll table body (s.enter item v p)).scope.leave = s :=
    fun v p s => leave_renderAll table body item v p s
  simp only [render, h, Run.iterate_eq_inTurn hb, Nat.zero_add]

/-- A loop over a sequence writes what its body writes for the elements, each time from the scope
of the loop with one more frame and one more position; it fails as the first body that fails by
itself, and leaves the scope as it was. -/
theorem render_loop (table : FilterTable) {s : Scope} {iterable : Path} {kind : SequenceKind}
    {items : List Value} (item : String) (body : List Node)
    (h : iterable.resolve s = .sequence kind items) :
    let within (i : Nat) (v : Value) : Scope := s.enter item v ⟨i, items.length⟩
    let alone : List Run := items.mapIdx fun i v => renderAll table body (within i v)
    let r := render table (.loop item iterable body) s
    (r.error = none → (∀ q ∈ alone, q.error = none) ∧
        r = ⟨alone.flatMap Run.output, alone.flatMap Run.events, s, none⟩) ∧
      (∀ e, r.error = some e → ∃ before q after, alone = before ++ q :: after ∧
        (∀ p ∈ before, p.error = none) ∧ q.error = some e ∧
        r = ⟨before.flatMap Run.output ++ q.output, before.flatMap Run.events ++ q.events, s,
          some e⟩) ∧
      ∀ i v, (∀ f ∈ (within i v).frames, f.lookup "loop" = none) →
        (within i v).lookup "loop" = .mapping
          [("index", .int (i + 1)), ("index0", .int i), ("first", .bool (i = 0)),
           ("last", .bool (i + 1 = items.length)), ("length", .int items.length)] := by
  intro within alone r
  have hr : r = Run.inTurn s alone := render_loop_eq_inTurn table item body h
  refine ⟨fun hn => ?_, fun e he => ?_, fun i v hf => ?_⟩
  · rcases Run.exists_first_failing alone with ha | ⟨before, q, after, e, ha, hb, hq⟩
    · exact ⟨ha, hr.trans (Run.inTurn_of_none ha)⟩
    · rw [hr, ha, Run.inTurn_of_some hb hq] at hn
      cases hn
  · rcases Run.exists_first_failing alone with ha | ⟨before, q, after, e', ha, hb, hq⟩
    · rw [hr, Run.inTurn_of_none ha] at he
      cases he
    · rw [hr, ha, Run.inTurn_of_some hb hq] at he
      cases he
      refine ⟨before, q, after, ha, hb, hq, ?_⟩
      rw [hr, ha, Run.inTurn_of_some hb hq]
  · rw [Scope.lookup_loop hf rfl]
    exact Scope.toValue_position i items.length

theorem render_loop_failing_second :
    let x : Expr := .path ⟨"x", []⟩
    let test : Expr := .compare .eq x (.literal (.text "q"))
    let body : List Node :=
      [.conditional [(test, [.set "b" x [] none])] none, .output (.path ⟨"b", []⟩) [] none,
       .conditional [(test, [.output x [⟨"f", [], none⟩] none])] none]
    let items : List Value := [.text "p", .text "q", .text "r"]
    let s : Scope := ⟨[("b", .text "o")], [], [], [("xs", .sequence .list items)]⟩
    let alone := items.mapIdx fun i v =>
      renderAll (fun _ => none) body (s.enter "x" v ⟨i, items.length⟩)
    let r := render (fun _ => none) (.loop "x" ⟨"xs", []⟩ body) s
    Path.resolve ⟨"xs", []⟩ s = .sequence .list items ∧
      r.error = some (.unknownFilter "f") ∧ r.output = ["o", "q"] ∧
      ∃ before q after, alone = before ++ q :: after ∧ (∀ p ∈ before, p.error = none) ∧
        q.error = some (.unknownFilter "f") ∧
        r = ⟨before.flatMap Run.output ++ q.output, before.flatMap Run.events ++ q.events, s,
          some (.unknownFilter "f")⟩ := by
  intro x test body items s alone r
  have hi : Path.resolve ⟨"xs", []⟩ s = .sequence .list items := rfl
  have he : r.error = some (.unknownFilter "f") := by decide
  exact ⟨hi, he, by decide, (render_loop (fun _ => none) "x" body hi).2.1 _ he⟩

end Node

end Stencil
