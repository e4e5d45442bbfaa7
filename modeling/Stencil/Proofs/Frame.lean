import Stencil.Proofs.Reaching

/-! What a run leaves of the scope in which it starts: all but the names that it binds outside
loops. -/

namespace Stencil

namespace Scope

variable {names more : List String} {s t u : Scope}

structure Keeps (names : List String) (s t : Scope) : Prop where
  outer : t.outer = s.outer
  loops : t.loops = s.loops
  data : t.data = s.data
  inner : ∀ name, name ∉ names → t.inner.lookup name = s.inner.lookup name

lemma Keeps.refl (names : List String) (s : Scope) : s.Keeps names s :=
  ⟨rfl, rfl, rfl, fun _ _ => rfl⟩

lemma Keeps.trans (h : s.Keeps names t) (h' : t.Keeps names u) : s.Keeps names u where
  outer := h'.outer.trans h.outer
  loops := h'.loops.trans h.loops
  data := h'.data.trans h.data
  inner name hn := (h'.inner name hn).trans (h.inner name hn)

lemma Keeps.mono (h : s.Keeps names t) (hs : names ⊆ more) : s.Keeps more t where
  outer := h.outer
  loops := h.loops
  data := h.data
  inner name hn := h.inner name fun hm => hn (hs hm)

lemma keeps_assign (name : String) (v : Value) (s : Scope) : s.Keeps [name] (s.assign name v) where
  outer := rfl
  loops := rfl
  data := rfl
  inner n hn := by
    have hne : n ≠ name := fun h => hn (List.mem_singleton.2 h)
    change (Fields.set name v s.inner).lookup n = s.inner.lookup n
    rw [Fields.lookup_set, if_neg hne]

lemma Keeps.leave {item : String} {v : Value} {p : LoopPosition}
    (h : (s.enter item v p).Keeps names t) : t.leave = s := by
  rcases t with ⟨inner, outer, loops, data⟩
  obtain ⟨ho, hl, hd, -⟩ := h
  cases ho
  cases hl
  cases hd
  rfl

end Scope

namespace Run

variable {names more : List String} {s : Scope}

lemma keeps_andThen {r : Run} {k : Scope → Run} (hr : s.Keeps names r.scope)
    (hk : ∀ t : Scope, t.Keeps more (k t).scope) : s.Keeps (names ++ more) (r.andThen k).scope := by
  have hr' : s.Keeps (names ++ more) r.scope := hr.mono (List.subset_append_left names more)
  cases he : r.error with
  | some e =>
    rw [andThen, he]
    exact hr'
  | none =>
    rw [scope_andThen he]
    exact hr'.trans ((hk r.scope).mono (List.subset_append_right names more))

lemma keeps_ofValue {v : Except RenderError Value × List Event} {k : Value → Run}
    (hk : ∀ w, s.Keeps names (k w).scope) : s.Keeps names (ofValue s v k).scope := by
  rcases v with ⟨_ | w, events⟩
  · exact .refl names s
  · exact hk w

lemma scope_write (s : Scope) (v : Value) : (write s v).scope = s := by
  rw [write]
  cases v.toText <;> rfl

lemma scope_iterate {item : String} {n : Nat} {body : Scope → Run}
    (hb : ∀ v p s, (body (s.enter item v p)).scope.leave = s) (i : Nat) (vs : List Value)
    (s : Scope) : (iterate item n body i vs s).scope = s := by
  induction vs generalizing i s with
  | nil => rfl
  | cons v vs ih =>
    have hs : (body (s.enter item v ⟨i, n⟩)).leave.scope = s := hb v ⟨i, n⟩ s
    rw [iterate]
    cases he : (body (s.enter item v ⟨i, n⟩)).leave.error with
    | some e =>
      rw [andThen, he]
      exact hs
    | none =>
      rw [scope_andThen he, hs]
      exact ih (i + 1) s

lemma prefix_output_andThen (r : Run) (k : Scope → Run) : r.output <+: (r.andThen k).output := by
  rw [andThen]
  cases r.error with
  | some e => exact List.prefix_refl r.output
  | none => exact List.prefix_append r.output (k r.scope).output

lemma andThen_assoc (r : Run) (k l : Scope → Run) :
    (r.andThen k).andThen l = r.andThen fun s => (k s).andThen l := by
  rcases r with ⟨output, events, s, _ | e⟩
  · cases h : (k s).error <;> simp [andThen, h, List.append_assoc]
  · rfl

end Run

namespace Node

mutual

/-- The names that a node binds in the innermost frame, so not those bound inside a loop. -/
def bound : Node → List String
  | .set name _ _ _ => [name]
  | .conditional branches otherwise => boundBranches branches ++ boundElse otherwise
  | _ => []

def boundAll : List Node → List String
  | [] => []
  | n :: ns => bound n ++ boundAll ns

def boundBranches : List (Expr × List Node) → List String
  | [] => []
  | (_, body) :: bs => boundAll body ++ boundBranches bs

def boundElse : Option (List Node) → List String
  | none => []
  | some ns => boundAll ns

end

variable (table : FilterTable)

mutual

lemma keeps_render (n : Node) (s : Scope) : s.Keeps n.bound (n.render table s).scope := by
  cases n with
  | text t => exact .refl _ s
  | output e filters line =>
    rw [render]
    refine Run.keeps_ofValue fun w => ?_
    rw [Run.scope_write]
    exact .refl _ s
  | set name e filters line =>
    rw [render]
    exact Run.keeps_ofValue fun w => Scope.keeps_assign name w s
  | conditional branches otherwise =>
    rw [render]
    exact keeps_renderBranches branches (keeps_renderElse otherwise s)
  | loop item iterable body =>
    rw [render]
    split
    · rename_i items _
      have hb : ∀ v p s, (renderAll table body (s.enter item v p)).scope.leave = s :=
        fun v p s => (keeps_renderAll body (s.enter item v p)).leave
      rw [Run.scope_iterate hb]
      exact .refl _ s
    · exact .refl _ s
    · exact .refl _ s
  | unknown type => exact .refl _ s

lemma keeps_renderAll (ns : List Node) (s : Scope) :
    s.Keeps (boundAll ns) (renderAll table ns s).scope := by
  cases ns with
  | nil => exact .refl _ s
  | cons n ns =>
    rw [renderAll]
    exact Run.keeps_andThen (keeps_render n s) (keeps_renderAll ns)

lemma keeps_renderBranches (bs : List (Expr × List Node)) {otherwise : Scope → Run}
    {names : List String} {s : Scope} (ho : s.Keeps names (otherwise s).scope) :
    s.Keeps (boundBranches bs ++ names) (renderBranches table bs otherwise s).scope := by
  rcases bs with _ | ⟨⟨test, body⟩, bs⟩
  · exact ho
  rw [renderBranches, boundBranches, List.append_assoc]
  split
  · exact .refl _ s
  · split
    · exact (keeps_renderAll body s).mono (List.subset_append_left _ _)
    · exact (keeps_renderBranches bs ho).mono (List.subset_append_right _ _)

lemma keeps_renderElse (otherwise : Option (List Node)) (s : Scope) :
    s.Keeps (boundElse otherwise) (renderElse table otherwise s).scope := by
  rcases otherwise with _ | ns
  · exact .refl _ s
  · exact keeps_renderAll ns s

end

lemma renderAll_append (ns ms : List Node) (s : Scope) :
    renderAll table (ns ++ ms) s = (renderAll table ns s).andThen (renderAll table ms) := by
  induction ns generalizing s with
  | nil => rfl
  | cons n ns ih =>
    rw [List.cons_append, renderAll, renderAll, Run.andThen_assoc]
    exact congrArg _ (funext ih)

lemma prefix_output_renderAll (ns ms : List Node) (s : Scope) :
    (renderAll table ns s).output <+: (renderAll table (ns ++ ms) s).output := by
  rw [renderAll_append]
  exact Run.prefix_output_andThen _ _

lemma leave_renderAll (body : List Node) (item : String) (v : Value) (p : LoopPosition)
    (s : Scope) : (renderAll table body (s.enter item v p)).scope.leave = s :=
  (keeps_renderAll table body (s.enter item v p)).leave

lemma render_set_of_error {table : FilterTable} {e : Expr} {filters : List FilterCall} {s : Scope}
    {err : RenderError} (name : String) (line : Option Int)
    (h : (e.evalWith table s filters).1 = .error err) :
    (render table (.set name e filters line) s).error = some err ∧
      (render table (.set name e filters line) s).scope = s := by
  rw [render]
  rcases hv : e.evalWith table s filters with ⟨v, events⟩
  rw [hv] at h
  cases h
  exact ⟨rfl, rfl⟩

/-- A run, whether it ends or fails, only adds to what had been written when it came to any of its
nodes. Afterwards only the names that nodes outside loops bind may have changed, in the innermost
frame. A binding whose value fails changes nothing. -/
theorem renderAll_frame (nodes : List Node) (s : Scope) (written : List String)
    (events : List Event) :
    let r := Run.andThen ⟨written, events, s, none⟩ (renderAll table nodes)
    (∀ first rest, nodes = first ++ rest →
        written ++ (renderAll table first s).output <+: r.output) ∧
      r.scope.loops = s.loops ∧ r.scope.data = s.data ∧
      r.scope.frames.length = s.frames.length ∧ r.scope.frames.tail = s.frames.tail ∧
      (∀ name, name ∉ boundAll nodes → r.scope.inner.lookup name = s.inner.lookup name) ∧
      ∀ name e filters line t err, (e.evalWith table t filters).1 = .error err →
        (render table (.set name e filters line) t).error = some err ∧
          (render table (.set name e filters line) t).scope = t := by
  intro r
  have hk : s.Keeps (boundAll nodes) r.scope := keeps_renderAll table nodes s
  have hf : r.scope.frames.tail = s.frames.tail := hk.outer
  have hl : r.scope.frames.length = s.frames.length := by
    change (r.scope.inner :: r.scope.outer).length = (s.inner :: s.outer).length
    rw [hk.outer, List.length_cons, List.length_cons]
  have hw : ∀ first rest, nodes = first ++ rest →
      written ++ (renderAll table first s).output <+: r.output := by
    rintro first rest rfl
    exact (List.prefix_append_right_inj written).2 (prefix_output_renderAll table first rest s)
  refine ⟨hw, hk.loops, hk.data, hl, hf, hk.inner, ?_⟩
  intro name e filters line t err h
  exact render_set_of_error name line h

theorem renderAll_frame_nested_loops :
    let bind (filters : List FilterCall) : Node := .set "b" (.path ⟨"y", []⟩) filters none
    let body : List Node := [bind [], .output (.path ⟨"b", []⟩) [] none, bind [⟨"twice", [], none⟩]]
    let nodes : List Node :=
      [.set "a" (.literal (.int 1)) [] none, .loop "x" ⟨"xs", []⟩ [.loop "y" ⟨"x", []⟩ body]]
    let s : Scope :=
      ⟨[("b", .bool true)], [], [], [("xs", .sequence .list [.sequence .list [.text "t"]])]⟩
    let r := Run.andThen ⟨["w"], [], s, none⟩ (renderAll (fun _ => none) nodes)
    r.error = some (.unknownFilter "twice") ∧ r.output = ["w", "t"] ∧ "b" ∉ boundAll nodes ∧
      r.scope.inner.lookup "b" = s.inner.lookup "b" ∧ r.scope.loops = s.loops ∧
      ((Expr.path ⟨"y", []⟩).evalWith (fun _ => none) s [⟨"twice", [], none⟩]).1 =
        .error (.unknownFilter "twice") ∧
      (render (fun _ => none) (bind [⟨"twice", [], none⟩]) s).scope = s := by
  intro bind body nodes s r
  have hb : "b" ∉ boundAll nodes := by decide
  have he : ((Expr.path ⟨"y", []⟩).evalWith (fun _ => none) s [⟨"twice", [], none⟩]).1 =
      .error (.unknownFilter "twice") := rfl
  obtain ⟨-, hl, -, -, -, hi, hs⟩ := renderAll_frame (fun _ => none) nodes s ["w"] []
  exact ⟨rfl, rfl, hb, hi "b" hb, hl, he, (hs "b" _ _ none s _ he).2⟩

end Node

end Stencil
