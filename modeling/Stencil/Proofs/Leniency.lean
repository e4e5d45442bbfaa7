import Stencil.Proofs.Invariant
import Stencil.Proofs.Written

/-! What ends the rendering of a template: a filter that the table lacks, or that fails. Data that
is missing or of the wrong kind never does. -/

namespace Stencil

open Outcome

namespace FilterCall

structure Runs (table : FilterTable) (s : Scope) (c : FilterCall) (f : Filter) (args : List Value) :
    Prop where
  known : table c.name = some f
  args : c.args.mapM (·.eval s) = .ok args

def Faults (table : FilterTable) (s : Scope) (c : FilterCall) (v : Value) (e : RenderError) :
    Prop :=
  (table c.name = none ∧ e = .unknownFilter c.name ∧
      e.message = "Unknown filter '" ++ c.name ++ "'") ∨
    ∃ f args cause, c.Runs table s f args ∧ (f v args).outcome = .error cause ∧
      e = .filterFailed c.name cause ∧
        e.message = "Filter '" ++ c.name ++ "' failed: " ++ cause.message

inductive Comes (table : FilterTable) (s : Scope) :
    List FilterCall → Value → FilterCall → Value → Prop
  | here {c cs v} : Comes table s (c :: cs) v c v
  | next {b cs v f args w c u} : b.Runs table s f args → (f v args).outcome = .ok w →
      Comes table s cs w c u → Comes table s (b :: cs) v c u

variable {table : FilterTable} {s : Scope} {c : FilterCall} {cs : List FilterCall} {f : Filter}
  {args : List Value} {u v w : Value} {e : RenderError}

lemma Comes.mem (h : Comes table s cs v c u) : c ∈ cs := by
  induction h with
  | here => exact List.mem_cons_self
  | next _ _ _ ih => exact List.mem_cons_of_mem _ ih

lemma applyAll_of_runs (h : c.Runs table s f args) (hw : (f v args).outcome = .ok w)
    (cs : List FilterCall) : (applyAll table s (c :: cs) v).1 = (applyAll table s cs w).1 := by
  simp only [applyAll, h.known, h.args, hw]

lemma applyAll_of_faults (h : c.Faults table s v e) (cs : List FilterCall) :
    (applyAll table s (c :: cs) v).1 = .error e := by
  rcases h with ⟨hn, rfl, -⟩ | ⟨f, args, cause, hr, ho, rfl, -⟩
  · simp only [applyAll, hn]
  · simp only [applyAll, hr.known, hr.args, ho]

lemma Comes.applyAll_eq_error (h : Comes table s cs v c u) (hf : c.Faults table s u e) :
    (applyAll table s cs v).1 = .error e := by
  induction h with
  | here => exact applyAll_of_faults hf _
  | next hr hw _ ih =>
    rw [applyAll_of_runs hr hw]
    exact ih hf

lemma runs_of_short (hf : table c.name = some f) (ha : ∀ a ∈ c.args, a.Short) (hs : s.Short) :
    ∃ args, c.Runs table s f args ∧ ∀ a ∈ args, a.Short := by
  cases he : c.args.mapM (·.eval s) with
  | ok args =>
    refine ⟨args, ⟨hf, he⟩, fun v hv => ?_⟩
    obtain ⟨a, ham, hav⟩ := exists_of_mapM_eq_ok he hv
    obtain ⟨w, hw, hs⟩ := (ha a ham).eval hs
    cases hw.symm.trans hav
    exact hs
  | error e =>
    obtain ⟨a, ham, hae⟩ := mapM_eq_error he
    obtain ⟨v, hv, -⟩ := (ha a ham).eval hs
    cases hae.symm.trans hv

lemma applyAll_cases (ha : ∀ c ∈ cs, ∀ a ∈ c.args, a.Short) (hs : s.Short) (hv : v.Short)
    (hw : ∀ c u f args w, Comes table s cs v c u → c.Runs table s f args → u.Short →
      (∀ a ∈ args, a.Short) → (f u args).outcome = .ok w → w.Short) :
    (∃ w, (applyAll table s cs v).1 = .ok w ∧ w.Short) ∨
      ∃ c u e, Comes table s cs v c u ∧ c.Faults table s u e ∧
        (applyAll table s cs v).1 = .error e := by
  -- The value that the calls start from is whatever the calls before them have returned.
  induction cs generalizing v with
  | nil => exact .inl ⟨v, rfl, hv⟩
  | cons c cs ih =>
    obtain ⟨hc, hcs⟩ := List.forall_mem_cons.1 ha
    have hfault : ∀ e, c.Faults table s v e → ∃ c' u e', Comes table s (c :: cs) v c' u ∧
        c'.Faults table s u e' ∧ (applyAll table s (c :: cs) v).1 = .error e' := fun e he =>
      ⟨c, v, e, .here, he, applyAll_of_faults he cs⟩
    cases hf : table c.name with
    | none => exact .inr (hfault _ (.inl ⟨hf, rfl, rfl⟩))
    | some f =>
      obtain ⟨args, hr, hshort⟩ := runs_of_short hf hc hs
      cases ho : (f v args).outcome with
      | error cause => exact .inr (hfault _ (.inr ⟨f, args, cause, hr, ho, rfl, rfl⟩))
      | ok w =>
        rw [applyAll_of_runs hr ho]
        have hs' : w.Short := hw c v f args w .here hr hv hshort ho
        rcases ih hcs hs' fun c u f args x hx => hw c u f args x (.next hr ho hx) with
          h | ⟨c', u, e, hx, he, heq⟩
        · exact .inl h
        · exact .inr ⟨c', u, e, .next hr ho hx, he, heq⟩

end FilterCall

def Mark.calls : Mark → List FilterCall
  | .output _ filters _ => filters
  | .set _ _ filters _ => filters
  | _ => []

namespace Node

variable {table : FilterTable} {ns : List Node} {s t : Scope} {m : Node} {e : Expr}
  {filters : List FilterCall} {err : RenderError}

def calls (ns : List Node) : List FilterCall :=
  (marksAll ns).flatMap Mark.calls

inductive Evaluates (e : Expr) (filters : List FilterCall) : Node → Prop
  | output {line} : Evaluates e filters (.output e filters line)
  | set {name line} : Evaluates e filters (.set name e filters line)

/-- A run of nodes comes to a call, with the value that it is applied to and the scope of its
arguments. -/
def Applies (table : FilterTable) (ns : List Node) (s : Scope) (c : FilterCall) (u : Value)
    (t : Scope) : Prop :=
  ∃ m e filters v, Reaches table ns s m t ∧ Evaluates e filters m ∧ e.eval t = .ok v ∧
    FilterCall.Comes table t filters v c u

lemma Takes.marks_subset {bs : List (Expr × List Node)} {otherwise : Option (List Node)}
    {body : List Node} (h : Takes s bs otherwise body) (head : Expr → Mark) :
    marksAll body ⊆ branchMarks head bs ++ elseMarks otherwise := by
  induction h generalizing head with
  | test _ _ =>
    intro x hx
    simp [branchMarks, hx]
  | later _ _ _ ih =>
    intro x hx
    have hm := ih .orTest hx
    simp only [List.mem_append] at hm
    simp only [branchMarks, List.mem_append, or_assoc]
    exact .inr hm
  | otherwise => exact List.subset_append_of_subset_right _ (List.subset_cons_self _ _)

lemma Reaches.marks_subset (h : Reaches table ns s m t) : m.marks ⊆ marksAll ns := by
  induction h with
  | here => exact List.subset_append_left _ _
  | next _ _ ih => exact List.subset_append_of_subset_right _ ih
  | branch ht _ ih =>
    have hb := ht.marks_subset .test
    refine List.subset_append_of_subset_left _ fun x hx => ?_
    exact List.mem_append_left _ (hb (ih hx))
  | iteration _ _ _ ih =>
    refine List.subset_append_of_subset_left _ fun x hx => ?_
    exact List.mem_append_left _ (List.mem_cons_of_mem _ (ih hx))

lemma Evaluates.calls_subset (h : Evaluates e filters m) (hr : Reaches table ns s m t) :
    filters ⊆ calls ns := by
  intro c hc
  have hm : ∃ k ∈ m.marks, c ∈ k.calls := by
    cases h with
    | output => exact ⟨_, List.mem_singleton_self _, hc⟩
    | set => exact ⟨_, List.mem_singleton_self _, hc⟩
  obtain ⟨k, hk, hck⟩ := hm
  exact List.mem_flatMap.2 ⟨k, hr.marks_subset hk, hck⟩

lemma Applies.mem_calls {c : FilterCall} {u : Value} (h : Applies table ns s c u t) :
    c ∈ calls ns := by
  obtain ⟨m, e, filters, v, hr, he, -, hc⟩ := h
  exact he.calls_subset hr hc.mem

lemma Evaluates.fails (h : Evaluates e filters m)
    (he : (e.evalWith table t filters).1 = .error err) : Fails table t m err := by
  cases h with
  | output => exact .output he
  | set => exact .set he

lemma error_of_applies {c : FilterCall} {u : Value} (h : Applies table ns s c u t)
    (hf : c.Faults table t u err) : (renderAll table ns s).error = some err := by
  obtain ⟨m, e, filters, v, hr, he, hv, hc⟩ := h
  refine renderAll_of_reaches hr (he.fails ?_)
  rw [Expr.evalWith, hv]
  exact hc.applyAll_eq_error hf

lemma not_stuck {branches : List (Expr × List Node)} (head : Expr → Mark)
    (hh : ∀ x, (head x).Short → x.Short) (hb : ∀ k ∈ branchMarks head branches, k.Short)
    (ht : t.Short) : ¬ Stuck t err branches := by
  intro h
  induction h generalizing head with
  | @test test body bs he =>
    have hs : test.Short := hh test (hb _ List.mem_cons_self)
    obtain ⟨v, hv, -⟩ := hs.eval ht
    cases he.symm.trans hv
  | later _ _ _ ih =>
    exact ih .orTest (fun x hx => hx) fun k hk => hb k (List.mem_append_right _ hk)

/-- Where the run applies a filter that the table has, what the filter returns is without long
numbers. -/
def ReturnsShort (table : FilterTable) (ns : List Node) (s : Scope) : Prop :=
  ∀ c u t f args w, Applies table ns s c u t → c.Runs table t f args →
    (f u args).outcome = .ok w → w.Short

def KeepsShort (table : FilterTable) (ns : List Node) (s : Scope) : Prop :=
  ∀ c u t f args w, Applies table ns s c u t → c.Runs table t f args → u.Short →
    (∀ a ∈ args, a.Short) → (f u args).outcome = .ok w → w.Short

lemma ReturnsShort.keeps (h : ReturnsShort table ns s) : KeepsShort table ns s :=
  fun c u t f args w ha hr _ _ => h c u t f args w ha hr

section Short

variable (hw : KeepsShort table ns s) (hm : ∀ k ∈ marksAll ns, k.Short)

include hm

lemma Evaluates.short (h : Evaluates e filters m) (hr : Reaches table ns s m t) :
    e.Short ∧ ∀ c ∈ filters, ∀ a ∈ c.args, a.Short := by
  cases h with
  | output => exact hm _ (hr.marks_subset (List.mem_singleton_self _))
  | set => exact hm _ (hr.marks_subset (List.mem_singleton_self _))

include hw

lemma Evaluates.cases (h : Evaluates e filters m) (hr : Reaches table ns s m t) (ht : t.Short) :
    (∃ v, (e.evalWith table t filters).1 = .ok v ∧ v.Short) ∨
      ∃ c u err, Applies table ns s c u t ∧ c.Faults table t u err ∧
        (e.evalWith table t filters).1 = .error err := by
  obtain ⟨he, ha⟩ := h.short hm hr
  obtain ⟨v, hv, hs⟩ := he.eval ht
  have happlies : ∀ c u, FilterCall.Comes table t filters v c u → Applies table ns s c u t :=
    fun c u hc => ⟨m, e, filters, v, hr, h, hv, hc⟩
  have hwith : (e.evalWith table t filters).1 = (FilterCall.applyAll table t filters v).1 := by
    rw [Expr.evalWith, hv]
  rw [hwith]
  have hreturns : ∀ c u f args w, FilterCall.Comes table t filters v c u →
      c.Runs table t f args → u.Short → (∀ a ∈ args, a.Short) → (f u args).outcome = .ok w →
        w.Short :=
    fun c u f args w hc => hw c u t f args w (happlies c u hc)
  rcases FilterCall.applyAll_cases ha ht hs hreturns with h | ⟨c, u, err, hc, hf, heq⟩
  · exact .inl h
  · exact .inr ⟨c, u, err, happlies c u hc, hf, heq⟩

lemma invariant_short : Invariant table ns s Scope.Short where
  assign hr ht hv := by
    rcases Evaluates.set.cases hw hm hr ht with ⟨w, hw', hs⟩ | ⟨c, u, err, -, -, he⟩
    · cases hv.symm.trans hw'
      exact ht.assign _ hs
    · cases hv.symm.trans he
  enter {item iterable body t kind items v i} hr ht hi hv := by
    have hs : (iterable.resolve t).Short := iterable.short_resolve ht
    rw [hi] at hs
    cases hs with
    | sequence hl hx =>
      obtain ⟨hlt, -⟩ := List.getElem?_eq_some_iff.1 hv
      exact ht.enter item (hx v (List.mem_of_getElem? hv)) hlt hl

lemma KeepsShort.error_of_reaches (hs : s.Short) (hr : Reaches table ns s m t)
    (hf : Fails table t m err) :
    ∃ c ∈ calls ns, ∃ u t, Applies table ns s c u t ∧ c.Faults table t u err := by
  have ht : t.Short := (invariant_short hw hm).reaches hs hr
  -- Tests have values, and the builder makes no node of an unknown type: what is left are the
  -- values of outputs and bindings.
  have heval : ∀ {e filters}, Evaluates e filters m → (e.evalWith table t filters).1 = .error err →
      ∃ c ∈ calls ns, ∃ u t, Applies table ns s c u t ∧ c.Faults table t u err := by
    intro e filters he herr
    rcases he.cases hw hm hr ht with ⟨v, hv, -⟩ | ⟨c, u, err', ha, hf, heq⟩
    · cases herr.symm.trans hv
    · cases herr.symm.trans heq
      exact ⟨c, ha.mem_calls, u, t, ha, hf⟩
  cases hf with
  | output he => exact heval .output he
  | set he => exact heval .set he
  | text he hl =>
    rcases Evaluates.output.cases hw hm hr ht with ⟨v, hv, hs⟩ | ⟨c, u, err', -, -, heq⟩
    · cases he.symm.trans hv
      exact (hs.toText _ hl).elim
    · cases he.symm.trans heq
  | conditional h =>
    have hb : ∀ k ∈ branchMarks .test _, k.Short := fun k hk =>
      hm k (hr.marks_subset (List.mem_append_left _ (List.mem_append_left _ hk)))
    exact (not_stuck .test (fun x hx => hx) hb ht h).elim
  | unknown => exact (hm _ (hr.marks_subset (List.mem_singleton_self _))).elim

end Short

lemma error_of_reaches (hw : ReturnsShort table ns s) (hm : ∀ k ∈ marksAll ns, k.Short)
    (hs : s.Short) (hr : Reaches table ns s m t) (hf : Fails table t m err) :
    ∃ c ∈ calls ns, ∃ u t, Applies table ns s c u t ∧ c.Faults table t u err :=
  hw.keeps.error_of_reaches hm hs hr hf

end Node

/-- A template that can be read renders against any data, unless a call that the run comes to names
a filter that the table lacks, or one that fails. The lengths of texts and sequences count among the
whole numbers, since a path may read them off. -/
theorem renderNodes_lenient (table : FilterTable) {source : String} {nodes : List Node}
    {data : Value} (hsource : Node.ofSource source = .ok nodes)
    (hlength : ¬ Number.TooLong source.toList.length) (hdata : data.Short) :
    (Node.ReturnsShort table nodes (.ofData data.fields) → ∀ e,
        (Template.renderNodes table nodes data).error = some e ↔
          ∃ c ∈ Node.calls nodes, ∃ u t, Node.Applies table nodes (.ofData data.fields) c u t ∧
            c.Faults table t u e) ∧
      (Node.calls nodes = [] → (Template.renderNodes table nodes data).error = none) := by
  have hmarks := Node.short_marks hsource hlength
  have hscope : (Scope.ofData data.fields).Short := .ofData hdata
  have hfaults : Node.ReturnsShort table nodes (.ofData data.fields) → ∀ e,
      (Template.renderNodes table nodes data).error = some e →
        ∃ c ∈ Node.calls nodes, ∃ u t, Node.Applies table nodes (.ofData data.fields) c u t ∧
          c.Faults table t u e := by
    intro hreturns e he
    obtain ⟨m, t, hr, hf⟩ := Node.renderAll_eq_some.1 he
    exact Node.error_of_reaches hreturns hmarks hscope hr hf
  constructor
  · intro hreturns e
    constructor
    · exact hfaults hreturns e
    · rintro ⟨c, -, u, t, ha, hf⟩
      exact Node.error_of_applies ha hf
  · intro hnone
    have hreturns : Node.ReturnsShort table nodes (.ofData data.fields) := by
      intro c u t f args w ha
      have hc := ha.mem_calls
      rw [hnone] at hc
      cases hc
    cases he : (Template.renderNodes table nodes data).error with
    | none => rfl
    | some e =>
      obtain ⟨c, hc, -⟩ := hfaults hreturns e he
      rw [hnone] at hc
      cases hc

lemma Node.ofSource_output {source value : String} {line : Int} (c : Grammar.Chain)
    (ht : Token.ofSource source = .ok [⟨.output, value, line⟩])
    (hs : Lexeme.scan (some line) value = .ok c.lexemes) :
    ofSource source =
      .ok [.output (c.value (some line)).1 (c.value (some line)).2 (some line)] := by
  have hb : Builder.token Builder.empty ⟨.output, value, line⟩ =
      .ok ⟨[.output (c.value (some line)).1 (c.value (some line)).2 (some line)], []⟩ := by
    rw [Builder.token, Grammar.wholeChain_of_scan c hs]
    rfl
  exact bind_eq_ok.2 ⟨_, ht, bind_eq_ok.2 ⟨_, foldlM_cons_eq_ok.2 ⟨_, hb, rfl⟩, rfl⟩⟩

def sevens (name : String) : Option Filter :=
  if name = "f" then some fun _ _ => ⟨.ok (.int 7), []⟩ else none

lemma short_sevens (nodes : List Node) (s : Scope) : Node.ReturnsShort sevens nodes s := by
  intro c u t f args w _ hr hw
  have hf := hr.known
  rw [sevens] at hf
  split at hf
  · cases hf
    cases hw
    exact .int (Number.not_tooLong_of_le_most (n := 7) (by decide))
  · cases hf

theorem renderNodes_lenient_opaque :
    let data : Value := .mapping [("n", .host 0 "Opaque")]
    let n : Expr := .path ⟨"n", [.key "a"]⟩
    let calls : List FilterCall := [⟨"f", [], some 1⟩, ⟨"g", [], some 1⟩]
    Node.ofSource "\x7b\x7b n.a|f|g \x7d\x7d" = .ok [.output n calls (some 1)] ∧
      (Template.renderNodes sevens [.output n calls (some 1)] data).error =
        some (.unknownFilter "g") ∧
      Node.ofSource "\x7b\x7b n.a \x7d\x7d" = .ok [.output n [] (some 1)] ∧
      (Template.renderNodes sevens [.output n [] (some 1)] data).error = none := by
  intro data n calls
  let a : Grammar.Operand := .path ⟨⟨"n", by decide⟩, [.property "a"]⟩ (by decide)
  let f : Grammar.Call := ⟨⟨"f", by decide⟩, .absent⟩
  let g : Grammar.Call := ⟨⟨"g", by decide⟩, .absent⟩
  have hcalls : Node.ofSource "\x7b\x7b n.a|f|g \x7d\x7d" = .ok [.output n calls (some 1)] := by
    have ht : Token.ofSource "\x7b\x7b n.a|f|g \x7d\x7d" = .ok [⟨.output, "n.a|f|g", 1⟩] := by
      decide +kernel
    exact Node.ofSource_output ⟨a, [f, g]⟩ ht (by decide +kernel)
  have hplain : Node.ofSource "\x7b\x7b n.a \x7d\x7d" = .ok [.output n [] (some 1)] := by
    have ht : Token.ofSource "\x7b\x7b n.a \x7d\x7d" = .ok [⟨.output, "n.a", 1⟩] := by
      decide +kernel
    exact Node.ofSource_output ⟨a, []⟩ ht (by decide +kernel)
  have hdata : data.Short := .mapping (List.forall_mem_singleton.2 (.host 0 "Opaque"))
  have hlength : ∀ m : Nat, m ≤ 100 → ¬ Number.TooLong m := fun m hm =>
    Number.not_tooLong_of_le_most (Nat.le_trans hm (by decide))
  refine ⟨hcalls, ?_, hplain, ?_⟩
  · have hf : FilterCall.Runs sevens (.ofData data.fields) ⟨"f", [], some 1⟩
        (fun _ _ => ⟨.ok (.int 7), []⟩) [] := ⟨rfl, rfl⟩
    have ha : Node.Applies sevens [.output n calls (some 1)] (.ofData data.fields)
        ⟨"g", [], some 1⟩ (.int 7) (.ofData data.fields) :=
      ⟨_, n, calls, .null, .here, .output, rfl, .next hf rfl .here⟩
    have h := renderNodes_lenient sevens hcalls (hlength _ (by decide)) hdata
    exact (h.1 (short_sevens _ _) _).2 ⟨_, ha.mem_calls, _, _, ha, .inl ⟨rfl, rfl, rfl⟩⟩
  · exact (renderNodes_lenient sevens hplain (hlength _ (by decide)) hdata).2 rfl

end Stencil
