import Stencil.Proofs.Tokenizing
import Stencil.Template

/-! Text in which nothing opens passes through unchanged. -/

namespace Stencil

/-- Neither an output nor a tag opens in the text, nor a comment that is closed behind it. -/
structure Text.IsPlain (cs : List Char) : Prop where
  output : ¬ Delimiter.output.opening <:+: cs
  tag : ¬ Delimiter.tag.opening <:+: cs
  comment : ∀ u v, cs = u ++ (Delimiter.comment.opening ++ v) → ¬ Delimiter.comment.closing <:+: v

namespace Piece

lemma plain_iff_isPlain {cs : List Char} : Plain cs [] ↔ Text.IsPlain cs := by
  constructor
  · intro h
    have hs : ∀ (d : Delimiter) u v, cs = u ++ (d.opening ++ v) →
        d = .comment ∧ ¬ d.closing <:+: v := by
      intro d u v hu
      have hd := h u (d.opening ++ v) hu (by simp [Delimiter.opening])
      exact hd d v (List.append_nil _)
    have ho : ∀ d : Delimiter, d ≠ .comment → ¬ d.opening <:+: cs := by
      rintro d hd ⟨u, v, hu⟩
      exact hd (hs d u v (by rw [← hu, List.append_assoc])).1
    exact ⟨ho .output (by decide), ho .tag (by decide), fun u v hu => (hs .comment u v hu).2⟩
  · rintro ⟨ho, ht, hc⟩ u v rfl - d w hw
    rw [List.append_nil] at hw
    subst hw
    have hi : d.opening <:+: u ++ (d.opening ++ w) := ⟨u, w, List.append_assoc _ _ _⟩
    cases d with
    | output => exact (ho hi).elim
    | tag => exact (ht hi).elim
    | comment => exact ⟨rfl, hc u w rfl⟩

end Piece

lemma Cut.ofSource_of_isPlain {cs : List Char} (h : Text.IsPlain cs) :
    ofSource cs = ⟨Piece.ofRun cs.reverse, none⟩ := by
  have hp := after_plain true [] (Piece.plain_iff_isPlain.2 h)
  rwa [List.append_nil, List.append_nil, after_nil] at hp

namespace Token

def whole (source : String) : List Token :=
  if source = "" then [] else [⟨.text, source, 1⟩]

lemma ofPieces_ofRun (source : String) :
    ofPieces 1 (Piece.ofRun source.toList.reverse) = whole source := by
  by_cases hs : source = ""
  · subst hs
    rfl
  · simp [whole, hs, Piece.ofRun, ofPieces, ofPiece?]

lemma isPlain_of_mem_ofPieces {ps : List Piece} {m n : Int} (hl : Piece.LaidOut [] ps)
    (h : ⟨.text, String.ofList (Piece.sources ps), m⟩ ∈ ofPieces n ps) :
    Text.IsPlain (Piece.sources ps) := by
  obtain ⟨_, p, hp, ht⟩ := of_mem_ofPieces h
  obtain ⟨u, v, rfl⟩ := List.append_of_mem hp
  cases p with
  | text cs =>
    have hcs : cs = Piece.sources (u ++ .text cs :: v) :=
      String.ofList_injective (congrArg Token.value (Option.some.inj ht))
    have hlen := congrArg List.length hcs
    simp only [Piece.sources_append, Piece.sources_cons, Piece.source, List.length_append] at hlen
    have hv : Piece.sources v = [] := List.length_eq_zero_iff.1 (by omega)
    rw [← hcs, ← Piece.plain_iff_isPlain, ← hv]
    exact (hl u _ v rfl).2.2
  | directive d body => cases d <;> cases ht
  | indent cs => cases ht
  | newline cs => cases ht

lemma ofSource_eq_whole_iff {source : String} :
    ofSource source = .ok (whole source) ↔ Text.IsPlain source.toList := by
  rw [ofSource_ok]
  constructor
  · rintro ⟨ps, hps, ht⟩
    obtain ⟨hl, hs⟩ := Cut.ofSource_eq_iff.1 hps
    by_cases he : source = ""
    · subst he
      exact Piece.plain_iff_isPlain.1 (Piece.plain_nil [])
    · rw [← hs]
      apply isPlain_of_mem_ofPieces hl (m := 1) (n := 1)
      rw [← ht, hs, String.ofList_toList, whole, if_neg he]
      exact List.mem_cons_self
  · intro h
    exact ⟨_, Cut.ofSource_of_isPlain h, (ofPieces_ofRun source).symm⟩

end Token

lemma Node.ofTokens_whole (source : String) :
    ofTokens (Token.whole source) = .ok (if source = "" then [] else [.text source]) := by
  rw [Token.whole]
  split <;> rfl

theorem render_isPlain (source : String) :
    (Token.ofSource source = .ok (if source = "" then [] else [⟨.text, source, 1⟩]) ↔
        Text.IsPlain source.toList) ∧
      (Text.IsPlain source.toList → (validate source).outcome = .ok .valid ∧
        ∀ g data, (render g source data).outcome = .ok source) := by
  refine ⟨Token.ofSource_eq_whole_iff, fun h => ?_⟩
  have hn : Node.ofSource source = .ok (if source = "" then [] else [.text source]) := by
    rw [Node.ofSource, Token.ofSource_eq_whole_iff.2 h]
    exact Node.ofTokens_whole source
  constructor
  · rw [validate, hn]
  · intro g data
    rw [render, Template.ofSource, hn]
    by_cases hs : source = ""
    · subst hs
      rfl
    · rw [if_neg hs]
      simp [Except.map, Template.renderNodes, Node.renderAll, Node.render, Run.andThen, Run.nothing,
        Run.text]

theorem render_isPlain_stray :
    Text.IsPlain "#\x7d\x7b # \x7b#\x7d \x7b".toList ∧
      (validate "#\x7d\x7b # \x7b#\x7d \x7b").outcome = .ok .valid ∧
        (render (.international ⟨0⟩) "#\x7d\x7b # \x7b#\x7d \x7b" .null).outcome =
          .ok "#\x7d\x7b # \x7b#\x7d \x7b" := by
  obtain ⟨h, hr⟩ := render_isPlain "#\x7d\x7b # \x7b#\x7d \x7b"
  have hp := h.1 (by decide +kernel)
  exact ⟨hp, (hr hp).1, (hr hp).2 (.international ⟨0⟩) .null⟩

end Stencil
