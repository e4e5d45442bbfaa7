import Mathlib.Data.List.Forall2
import Stencil.Proofs.BuilderStep

/-! The builder accepts exactly the rows of tokens that read as the marks of a tree whose
conditionals have branches and whose blocks are nested within the limit. -/

namespace Stencil

open Outcome

namespace OpenBlock

def marks : OpenBlock → List Mark
  | .conditional c => Node.branchMarks .test c.branches ++ Node.elseMarks c.otherwise
  | .loop l => .loop l.item l.iterable :: Node.marksAll l.body

def endMark : OpenBlock → Mark
  | .conditional _ => .endConditional
  | .loop _ => .endLoop

def height : OpenBlock → Nat
  | .conditional c => max (Node.branchHeight c.branches) (Node.elseHeight c.otherwise)
  | .loop l => Node.heightAll l.body

def Branched : OpenBlock → Prop
  | .conditional c => Node.BranchedBranches c.branches ∧ Node.BranchedElse c.otherwise
  | .loop l => Node.BranchedAll l.body

lemma marks_add (n : Node) (o : OpenBlock) : (o.add n).marks = o.marks ++ n.marks := by
  rcases o with ⟨line, before, test, body, otherwise⟩ | l
  · cases otherwise <;>
      simp [marks, add, OpenConditional.add, OpenConditional.branches, Node.elseMarks,
        Node.branchMarks_extend, Node.marksAll]
  · simp [marks, add, Node.marksAll]

lemma height_add (n : Node) (o : OpenBlock) : (o.add n).height = max o.height n.height := by
  rcases o with ⟨line, before, test, body, otherwise⟩ | l
  · cases otherwise <;>
      simp [height, add, OpenConditional.add, OpenConditional.branches, Node.branchHeight,
        Node.elseHeight, Node.heightAll, Nat.max_assoc]
  · simp [height, add, Node.heightAll]

lemma branched_add (n : Node) (o : OpenBlock) : (o.add n).Branched ↔ o.Branched ∧ n.Branched := by
  rcases o with ⟨line, before, test, body, otherwise⟩ | l
  · cases otherwise <;>
      simp [Branched, add, OpenConditional.add, OpenConditional.branches, Node.BranchedBranches,
        Node.BranchedElse, Node.BranchedAll, and_assoc]
  · simp [Branched, add, Node.BranchedAll]

lemma marks_close (o : OpenBlock) : o.close.marks = o.marks ++ [o.endMark] := by
  cases o <;> simp [close, marks, endMark, Node.marks]

lemma height_close (o : OpenBlock) : o.close.height = o.height + 1 := by
  cases o <;> rfl

lemma branched_close {o : OpenBlock} (h : o.Branched) : o.close.Branched := by
  rcases o with c | l
  · exact ⟨by simp [OpenConditional.branches], h⟩
  · exact h

end OpenBlock

namespace Builder

def blockMarks : List OpenBlock → List Mark
  | [] => []
  | o :: os => blockMarks os ++ o.marks

def marks (b : Builder) : List Mark :=
  Node.marksAll b.nodes ++ blockMarks b.blocks

lemma marks_add (n : Node) (b : Builder) : (b.add n).marks = b.marks ++ n.marks := by
  rcases b with ⟨nodes, _ | ⟨o, os⟩⟩
  · simp [add, marks, blockMarks, Node.marksAll]
  · simp [add, marks, blockMarks, OpenBlock.marks_add]

lemma marks_close (nodes : List Node) (o : OpenBlock) (os : List OpenBlock) :
    (add o.close ⟨nodes, os⟩).marks = marks ⟨nodes, o :: os⟩ ++ [o.endMark] := by
  rw [marks_add, OpenBlock.marks_close]
  simp [marks, blockMarks]

lemma marks_step {line : Int} {m : Mark} {b b' : Builder} (h : Step line m b b') :
    b'.marks = b.marks ++ [m] := by
  cases h with
  | text => exact marks_add _ b
  | output => exact marks_add _ b
  | set => exact marks_add _ b
  | test _ =>
    simp [marks, blockMarks, OpenBlock.marks, OpenConditional.branches, Node.branchMarks,
      Node.elseMarks, Node.marksAll]
  | @orTest nodes c os e hc =>
    have hne : c.branches ≠ [] := by simp [OpenConditional.branches]
    have hb : (c.branch e).branches = c.branches ++ [(e, [])] := rfl
    have ho : (c.branch e).otherwise = none := hc
    simp [marks, blockMarks, OpenBlock.marks, hb, ho, hc, Node.elseMarks,
      Node.branchMarks_snoc _ _ _ hne]
  | otherwise hc =>
    simp [marks, blockMarks, OpenBlock.marks, hc, OpenConditional.branches, Node.elseMarks,
      Node.marksAll]
  | @endConditional nodes c os => exact marks_close nodes (.conditional c) os
  | loop _ => simp [marks, blockMarks, OpenBlock.marks, Node.marksAll]
  | @endLoop nodes l os => exact marks_close nodes (.loop l) os

def BlocksFit : List OpenBlock → Prop
  | [] => True
  | o :: os => o.height + os.length < Fault.maxDepth ∧ o.Branched ∧ BlocksFit os

structure Fits (b : Builder) : Prop where
  height : Node.heightAll b.nodes ≤ Fault.maxDepth
  branched : Node.BranchedAll b.nodes
  blocks : BlocksFit b.blocks

lemma fits_add {n : Node} {b : Builder} (hn : n.Branched)
    (hh : n.height + b.blocks.length ≤ Fault.maxDepth) (hb : b.Fits) : (b.add n).Fits := by
  rcases b with ⟨nodes, _ | ⟨o, os⟩⟩
  · have hn' : n.height ≤ Fault.maxDepth := hh
    refine ⟨?_, ?_, trivial⟩
    · simpa [add, Node.heightAll, Nat.max_le] using And.intro hb.height hn'
    · simpa [add, Node.BranchedAll] using And.intro hb.branched hn
  · obtain ⟨ho, hbr, hos⟩ := hb.blocks
    refine ⟨hb.height, hb.branched, ?_, ?_, hos⟩
    · rw [OpenBlock.height_add]
      simp only [List.length_cons] at hh
      omega
    · exact (OpenBlock.branched_add n o).2 ⟨hbr, hn⟩

lemma fits_close {nodes : List Node} {o : OpenBlock} {os : List OpenBlock}
    (h : Fits ⟨nodes, o :: os⟩) : (add o.close ⟨nodes, os⟩).Fits := by
  obtain ⟨ho, hbr, hos⟩ := h.blocks
  refine fits_add (OpenBlock.branched_close hbr) ?_ ⟨h.height, h.branched, hos⟩
  rw [OpenBlock.height_close]
  change o.height + 1 + os.length ≤ Fault.maxDepth
  omega

lemma Fits.length_le {b : Builder} (h : b.Fits) : b.blocks.length ≤ Fault.maxDepth := by
  rcases b with ⟨nodes, _ | ⟨o, os⟩⟩
  · exact Nat.zero_le _
  · have ho := h.blocks.1
    simp only [List.length_cons]
    omega

lemma fits_step {line : Int} {m : Mark} {b b' : Builder} (h : Step line m b b') (hb : b.Fits) :
    b'.Fits := by
  have hl : 0 + b.blocks.length ≤ Fault.maxDepth := by simpa using hb.length_le
  cases h with
  | text => exact fits_add trivial hl hb
  | output => exact fits_add trivial hl hb
  | set => exact fits_add trivial hl hb
  | test hd =>
    refine ⟨hb.height, hb.branched, ?_, ⟨⟨trivial, trivial⟩, trivial⟩, hb.blocks⟩
    simpa [OpenBlock.height, OpenConditional.branches, Node.branchHeight, Node.elseHeight,
      Node.heightAll] using hd
  | orTest hc =>
    obtain ⟨ho, hbr, hos⟩ := hb.blocks
    refine ⟨hb.height, hb.branched, ?_, ?_, hos⟩
    · simpa [OpenBlock.height, OpenConditional.branch, OpenConditional.branches,
        Node.branchHeight, Node.heightAll] using ho
    · simpa [OpenBlock.Branched, OpenConditional.branch, OpenConditional.branches,
        Node.BranchedBranches, Node.BranchedAll] using hbr
  | otherwise hc =>
    obtain ⟨ho, hbr, hos⟩ := hb.blocks
    refine ⟨hb.height, hb.branched, ?_, ⟨hbr.1, trivial⟩, hos⟩
    simpa [OpenBlock.height, OpenConditional.branches, hc, Node.elseHeight, Node.heightAll] using ho
  | endConditional => exact fits_close hb
  | loop hd =>
    refine ⟨hb.height, hb.branched, ?_, trivial, hb.blocks⟩
    simpa [OpenBlock.height, Node.heightAll] using hd
  | endLoop => exact fits_close hb

lemma marks_foldlM {ts : List Token} {b b' : Builder} (hb : b.Fits)
    (h : ts.foldlM token b = .ok b') :
    b'.Fits ∧ ∃ ms, List.Forall₂ Mark.Reads ms ts ∧ b'.marks = b.marks ++ ms := by
  induction ts generalizing b with
  | nil =>
    cases h
    exact ⟨hb, [], .nil, by simp⟩
  | cons t ts ih =>
    obtain ⟨c, hc, h⟩ := foldlM_cons_eq_ok.1 h
    obtain ⟨m, hm, hs⟩ := step_of_token hc
    obtain ⟨hf, ms, hms, he⟩ := ih (fits_step hs hb) h
    refine ⟨hf, m :: ms, .cons hm hms, ?_⟩
    rw [he, marks_step hs]
    simp

def Consumes (ms : List Mark) (b b' : Builder) : Prop :=
  ∀ ts, List.Forall₂ Mark.Reads ms ts → ts.foldlM token b = .ok b'

lemma Consumes.nil (b : Builder) : Consumes [] b b := by
  intro ts h
  cases h
  rfl

lemma Consumes.cons {m : Mark} {ms : List Mark} {b c : Builder} (f : Int → Builder)
    (hs : ∀ line, Step line m b (f line)) (h : ∀ line, Consumes ms (f line) c) :
    Consumes (m :: ms) b c := by
  intro ts hts
  obtain ⟨t, ts', hm, hts', rfl⟩ := List.forall₂_cons_left_iff.1 hts
  exact foldlM_cons_eq_ok.2 ⟨_, token_of_step hm (hs t.line), h t.line ts' hts'⟩

lemma Consumes.single {m : Mark} {b c : Builder} (hs : ∀ line, Step line m b c) :
    Consumes [m] b c :=
  .cons (fun _ => c) hs fun _ => .nil c

lemma Consumes.append {ms ns : List Mark} {b c d : Builder} (h : Consumes ms b c)
    (h' : Consumes ns c d) : Consumes (ms ++ ns) b d := by
  intro ts hts
  have ht := List.forall₂_take ms.length hts
  have hd := List.forall₂_drop ms.length hts
  rw [List.take_left] at ht
  rw [List.drop_left] at hd
  rw [← List.take_append_drop ms.length ts, List.foldlM_append]
  exact bind_eq_ok.2 ⟨c, h _ ht, h' _ hd⟩

def addAll (ns : List Node) (b : Builder) : Builder :=
  ns.foldl (fun b n => b.add n) b

lemma addAll_nil (nodes ns : List Node) : addAll ns ⟨nodes, []⟩ = ⟨nodes ++ ns, []⟩ := by
  induction ns generalizing nodes with
  | nil => simp [addAll]
  | cons n ns ih =>
    change addAll ns ⟨nodes ++ [n], []⟩ = _
    rw [ih]
    simp

lemma addAll_conditional (nodes : List Node) (c : OpenConditional) (os : List OpenBlock)
    (ns : List Node) (hc : c.otherwise = none) :
    addAll ns ⟨nodes, .conditional c :: os⟩ =
      ⟨nodes, .conditional { c with body := c.body ++ ns } :: os⟩ := by
  induction ns generalizing c with
  | nil => simp [addAll]
  | cons n ns ih =>
    have hn : c.add n = { c with body := c.body ++ [n] } := by simp [OpenConditional.add, hc]
    change addAll ns ⟨nodes, .conditional (c.add n) :: os⟩ = _
    rw [hn, ih { c with body := c.body ++ [n] } hc]
    simp

lemma addAll_else (nodes : List Node) (c : OpenConditional) (os : List OpenBlock)
    (ms ns : List Node) :
    addAll ns ⟨nodes, .conditional { c with otherwise := some ms } :: os⟩ =
      ⟨nodes, .conditional { c with otherwise := some (ms ++ ns) } :: os⟩ := by
  induction ns generalizing ms with
  | nil => simp [addAll]
  | cons n ns ih =>
    change addAll ns ⟨nodes, .conditional { c with otherwise := some (ms ++ [n]) } :: os⟩ = _
    rw [ih]
    simp

lemma addAll_loop (nodes : List Node) (l : OpenLoop) (os : List OpenBlock) (ns : List Node) :
    addAll ns ⟨nodes, .loop l :: os⟩ = ⟨nodes, .loop { l with body := l.body ++ ns } :: os⟩ := by
  induction ns generalizing l with
  | nil => simp [addAll]
  | cons n ns ih =>
    change addAll ns ⟨nodes, .loop { l with body := l.body ++ [n] } :: os⟩ = _
    rw [ih]
    simp

lemma length_blocks_add (n : Node) (b : Builder) :
    (b.add n).blocks.length = b.blocks.length := by
  rcases b with ⟨nodes, _ | ⟨o, os⟩⟩ <;> rfl

mutual

lemma consumes_node (n : Node) (hn : n.Branched) {b : Builder}
    (hb : n.height + b.blocks.length ≤ Fault.maxDepth) : Consumes n.marks b (b.add n) := by
  cases n with
  | text s => exact .single fun _ => .text
  | output e filters line => exact .single fun _ => .output
  | set name e filters line => exact .single fun _ => .set
  | conditional branches otherwise =>
    obtain ⟨hne, hbs, ho⟩ := hn
    rcases b with ⟨nodes, os⟩
    rcases branches with _ | ⟨⟨test, body⟩, bs⟩
    · exact (hne rfl).elim
    -- The first branch opens the block; the others and `else` go on within it.
    simp only [Node.height, Node.branchHeight] at hb
    simp only [Node.marks, Node.branchMarks, List.cons_append, List.append_assoc]
    refine .cons (fun line => ⟨nodes, .conditional ⟨line, [], test, [], none⟩ :: os⟩)
      (fun line => .test (by omega)) fun line => ?_
    have hbody := consumes_all body hbs.1
      (b := ⟨nodes, .conditional ⟨line, [], test, [], none⟩ :: os⟩)
      (by simp only [List.length_cons]; omega)
    rw [addAll_conditional _ _ _ _ rfl] at hbody
    obtain ⟨c, hc, hcb, hbranches⟩ := consumes_branches bs hbs.2 nodes
      ⟨line, [], test, body, none⟩ os rfl (by omega)
    have helse := consumes_else otherwise ho nodes c os hc (by omega)
    have hend : Consumes [.endConditional]
        ⟨nodes, .conditional { c with otherwise := otherwise } :: os⟩
        (add (.conditional c.branches otherwise) ⟨nodes, os⟩) := .single fun _ => .endConditional
    rw [hcb] at hend
    exact hbody.append (hbranches.append (helse.append hend))
  | loop item iterable body =>
    rcases b with ⟨nodes, os⟩
    simp only [Node.height] at hb
    simp only [Node.marks, List.cons_append]
    refine .cons (fun line => ⟨nodes, .loop ⟨line, item, iterable, []⟩ :: os⟩)
      (fun line => .loop (by omega)) fun line => ?_
    have hbody := consumes_all body hn (b := ⟨nodes, .loop ⟨line, item, iterable, []⟩ :: os⟩)
      (by simp only [List.length_cons]; omega)
    rw [addAll_loop] at hbody
    exact hbody.append (.single fun _ => .endLoop)
  | unknown type =>
    intro ts hts
    cases hts with
    | cons hm _ => cases hm

lemma consumes_all (ns : List Node) (hn : Node.BranchedAll ns) {b : Builder}
    (hb : Node.heightAll ns + b.blocks.length ≤ Fault.maxDepth) :
    Consumes (Node.marksAll ns) b (addAll ns b) := by
  cases ns with
  | nil => exact .nil b
  | cons n ns =>
    simp only [Node.heightAll] at hb
    refine (consumes_node n hn.1 (by omega)).append (consumes_all ns hn.2 ?_)
    rw [length_blocks_add]
    omega

lemma consumes_branches (bs : List (Expr × List Node)) (hn : Node.BranchedBranches bs)
    (nodes : List Node) (c : OpenConditional) (os : List OpenBlock) (hc : c.otherwise = none)
    (hb : Node.branchHeight bs + os.length < Fault.maxDepth) :
    ∃ c' : OpenConditional, c'.otherwise = none ∧ c'.branches = c.branches ++ bs ∧
      Consumes (Node.branchMarks .orTest bs) ⟨nodes, .conditional c :: os⟩
        ⟨nodes, .conditional c' :: os⟩ := by
  rcases bs with _ | ⟨⟨test, body⟩, bs⟩
  · exact ⟨c, hc, by simp, .nil _⟩
  simp only [Node.branchHeight] at hb
  have hbody := consumes_all body hn.1 (b := ⟨nodes, .conditional (c.branch test) :: os⟩)
    (by simp only [List.length_cons]; omega)
  rw [addAll_conditional _ (c.branch test) _ _ hc] at hbody
  obtain ⟨c', hc', hcb, hbranches⟩ := consumes_branches bs hn.2 nodes
    { c.branch test with body := body } os hc (by omega)
  refine ⟨c', hc', ?_, ?_⟩
  · simpa [OpenConditional.branches, OpenConditional.branch] using hcb
  · exact .cons _ (fun _ => .orTest hc) fun _ => hbody.append hbranches

lemma consumes_else (otherwise : Option (List Node)) (hn : Node.BranchedElse otherwise)
    (nodes : List Node) (c : OpenConditional) (os : List OpenBlock) (hc : c.otherwise = none)
    (hb : Node.elseHeight otherwise + os.length < Fault.maxDepth) :
    Consumes (Node.elseMarks otherwise) ⟨nodes, .conditional c :: os⟩
      ⟨nodes, .conditional { c with otherwise := otherwise } :: os⟩ := by
  rcases otherwise with _ | ns
  · have he : { c with otherwise := none } = c := by
      cases c
      cases hc
      rfl
    rw [he]
    exact .nil _
  simp only [Node.elseHeight] at hb
  have hbody := consumes_all ns hn
    (b := ⟨nodes, .conditional { c with otherwise := some [] } :: os⟩)
    (by simp only [List.length_cons]; omega)
  rw [addAll_else] at hbody
  exact .cons _ (fun _ => .otherwise hc) fun _ => hbody

end

end Builder

namespace Node

theorem ofTokens_eq_ok_iff (ts : List Token) (ns : List Node) :
    ofTokens ts = .ok ns ↔
      List.Forall₂ Mark.Reads (marksAll ns) ts ∧ BranchedAll ns ∧ heightAll ns ≤ 100 := by
  constructor
  · intro h
    obtain ⟨b, hb, hf⟩ := bind_eq_ok.1 h
    obtain ⟨hfits, ms, hms, he⟩ :=
      Builder.marks_foldlM (b := Builder.empty) ⟨Nat.zero_le _, trivial, trivial⟩ hb
    rcases b with ⟨nodes, _ | ⟨o, os⟩⟩
    · cases hf
      have he' : marksAll nodes = ms := by
        simpa [Builder.marks, Builder.blockMarks, Builder.empty, marksAll] using he
      exact ⟨he' ▸ hms, hfits.branched, hfits.height⟩
    · cases hf
  · rintro ⟨hr, hb, hh⟩
    have hc := Builder.consumes_all ns hb (b := Builder.empty) hh ts hr
    refine bind_eq_ok.2 ⟨_, hc, ?_⟩
    rw [Builder.empty, Builder.addAll_nil]
    rfl

end Node

end Stencil
