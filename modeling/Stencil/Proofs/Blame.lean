import Stencil.Proofs.Lines
import Stencil.Proofs.Nesting
import Stencil.Proofs.Refusal

/-! A template is refused on the line of the directive that is at fault. -/

namespace Stencil

open Outcome

namespace ReadError

lemma Placed.onLine {line : Int} {e : ReadError} (h : e.Placed line) : e.OnLine (some line) := by
  obtain ⟨f, rfl, hf, -⟩ := h
  exact ⟨rfl, hf⟩

lemma onLine_of_bind {α β : Type} {x : Except ReadError α} {k : α → Except ReadError β}
    {line : Option Int} {e : ReadError} (h : x >>= k = .error e)
    (hx : x = .error e → e.OnLine line) (hk : ∀ a, k a = .error e → e.OnLine line) :
    e.OnLine line := by
  rcases bind_eq_error.1 h with h | ⟨a, -, h⟩
  · exact hx h
  · exact hk a h

end ReadError

namespace Builder

open Reading ReadError

lemma failsOn_loopHeader (line : Option Int) (ls : List Lexeme) :
    FailsOn line (loopHeader line ls) :=
  (failsOn_identifier line ls).andThen fun _ =>
    (failsOn_expectName line "in" _).andThen fun _ => (failsOn_path line _).map _

lemma failsOn_bindingHeader (line : Option Int) (ls : List Lexeme) :
    FailsOn line (bindingHeader line ls) :=
  (failsOn_identifier line ls).andThen fun _ =>
    (failsOn_expectPunct line "=" _).andThen fun _ => (failsOn_chain line _).map _

lemma tag_onLine {line : Int} {keyword : String} {ls : List Lexeme} {b : Builder} {e : ReadError}
    (h : b.tag line keyword ls = .error e) : e.OnLine (some line) := by
  unfold tag at h
  split at h
  · refine onLine_of_bind h ((failsOn_condition _ ls).complete _) fun test h => ?_
    exact (enter_placed h).onLine
  · refine onLine_of_bind h (fun h => (openBranch_placed h).onLine) fun p h => ?_
    exact onLine_of_bind h ((failsOn_condition _ ls).complete _) nofun
  · exact (bind_found_placed openBranch_placed h nofun).onLine
  · exact (bind_found_placed leave_placed h nofun).onLine
  · refine onLine_of_bind h ((failsOn_loopHeader _ ls).complete _) fun p h => ?_
    exact (enter_placed h).onLine
  · exact (bind_found_placed leave_placed h nofun).onLine
  · exact onLine_of_bind h ((failsOn_bindingHeader _ ls).complete _) nofun
  · cases h
    exact ⟨rfl, trivial⟩
  · cases h
    exact ⟨rfl, trivial⟩

lemma read_onLine {b : Builder} {t : Token} {ls : List Lexeme} {e : ReadError}
    (h : b.read t ls = .error e) : e.OnLine (some t.line) := by
  unfold read at h
  split at h
  · exact onLine_of_bind h ((failsOn_chain _ ls).complete _) nofun
  · exact tag_onLine h
  · cases h
  · cases h
    exact ⟨rfl, trivial⟩

lemma token_onLine {b : Builder} {t : Token} {e : ReadError} (h : b.token t = .error e) :
    e.OnLine (some t.line) := by
  rw [token_eq_read] at h
  exact onLine_of_bind h (fun h => (Token.row_placed h).onLine) fun ls => read_onLine

lemma kind_of_token {b : Builder} {t : Token} {e : ReadError} (h : b.token t = .error e) :
    t.kind ≠ .text := by
  intro hk
  rw [token, hk] at h
  cases h

end Builder

/-- The directive that the fault is of begins on the line. It is the one that is never closed, the
tag of the innermost open block, or the first one that is refused. -/
def Fault.Blames (source : String) (line : Int) : Fault → Prop
  | .unterminated d =>
    ∃ ps rest, Cut.Stops source.toList ps d rest ∧
      line = lineAt source.toList (Piece.sources ps).length
  | .unclosed block =>
    ∃ ts t us, Token.ofSource source = .ok (ts ++ t :: us) ∧ t.Opens block ∧ Token.Balanced us ∧
      line = t.line
  | f =>
    ∃ ts t us b, Token.ofSource source = .ok (ts ++ t :: us) ∧
      ts.foldlM Builder.token .empty = .ok b ∧
      b.token t = .error (.malformed f (some line)) ∧ t.kind ≠ .text ∧ line = t.line

lemma Fault.OfToken.blames {source : String} {line : Int} {f : Fault} {ts us : List Token}
    {t : Token} {b : Builder} (h : f.OfToken) (hs : Token.ofSource source = .ok (ts ++ t :: us))
    (hb : ts.foldlM Builder.token .empty = .ok b)
    (ht : b.token t = .error (.malformed f (some line))) (hl : line = t.line) :
    f.Blames source line := by
  have hk := Builder.kind_of_token ht
  cases f with
  | unterminated d => exact h.elim
  | unclosed block => exact h.elim
  | _ => exact ⟨ts, t, us, b, hs, hb, ht, hk, hl⟩

namespace Node

lemma ofTokens_blames {source : String} {ts : List Token} {f : Fault} {line : Option Int}
    (hs : Token.ofSource source = .ok ts) (h : ofTokens ts = .error (.malformed f line)) :
    ∃ n, line = some n ∧ f.Blames source n := by
  rcases bind_eq_error.1 h with h | ⟨b, hb, h⟩
  · obtain ⟨us, t, vs, b, rfl, hb, ht⟩ := foldlM_eq_error.1 h
    obtain ⟨rfl, hf⟩ := Builder.token_onLine ht
    exact ⟨t.line, rfl, hf.blames hs hb ht rfl⟩
  · obtain ⟨o, os, ho, he⟩ := Builder.finish_eq_error h
    cases he
    have hl := Builder.leavesOpen_foldlM hb (.none .nil)
    rw [List.nil_append, Builder.openings, ho] at hl
    obtain ⟨us, t, vs, rfl, ht, hv, hline⟩ := hl.innermost
    exact ⟨o.line, rfl, us, t, vs, hs, ht, hv, hline⟩

/-- Each token begins on the line that its place in the source is on, so the lines of tokens never
decrease, and a template is refused on the line where the directive at fault opens. -/
theorem ofSource_line (source : String) :
    (∀ ts, Token.ofSource source = .ok ts →
      (∃ ps, Piece.sources ps = source.toList ∧ Piece.LaidOut [] ps ∧
        ts = (ps.mapIdx fun i p =>
          Token.ofPiece? (lineAt source.toList (Piece.offset ps i)) p).filterMap id) ∧
      ts.Pairwise (·.line ≤ ·.line)) ∧
    ∀ f line, ofSource source = .error (.malformed f line) →
      ∃ n, line = some n ∧ f.Blames source n := by
  constructor
  · intro ts h
    obtain ⟨ps, hc, rfl⟩ := Token.ofSource_ok.1 h
    obtain ⟨hl, hs⟩ := Cut.ofSource_eq_iff.1 hc
    refine ⟨⟨ps, hs, hl, ?_⟩, Token.pairwise_ofPieces 1 ps⟩
    rw [← hs]
    exact Token.ofPieces_eq_mapIdx ps
  · intro f line h
    rcases bind_eq_error.1 h with h | ⟨ts, hs, h⟩
    · obtain ⟨ps, d, rest, hstop, he⟩ := Token.stops_of_ofSource h
      cases he
      exact ⟨_, rfl, ps, rest, hstop, rfl⟩
    · exact ofTokens_blames hs h

theorem ofSource_line_comment_unclosed :
    let source := "\x7b# a\n  \x7b% if b\n%\x7d\n\x7b\x7b c \x7d\x7d"
    let ts : List Token := [⟨.text, "\x7b# a\n", 1⟩, ⟨.tag, "if b", 2⟩, ⟨.output, "c", 4⟩]
    Token.ofSource source = .ok ts ∧ ts.Pairwise (·.line ≤ ·.line) ∧
      ofSource source = .error (.malformed (.unclosed .conditional) (some 2)) ∧
      Fault.Blames source 2 (.unclosed .conditional) := by
  intro source ts
  have ht : Token.ofSource source = .ok ts := by decide +kernel
  have he : ofSource source = .error (.malformed (.unclosed .conditional) (some 2)) := by
    rw [ofSource, ht]
    cbv
  obtain ⟨hl, hb⟩ := ofSource_line source
  obtain ⟨n, hn, hf⟩ := hb _ _ he
  cases hn
  exact ⟨ht, (hl ts ht).2, he, hf⟩

end Node

end Stencil
