import Stencil.Proofs.Building
import Stencil.Proofs.Quotation
import Stencil.Proofs.Spacing

/-! Templates that are rows of directives, written with a blank on either side of their bodies. -/

namespace Stencil

open Text

def Delimiter.enclose (d : Delimiter) (body : String) : String :=
  String.ofList d.opening ++ " " ++ body ++ " " ++ String.ofList d.closing

def Piece.enclosed (d : Delimiter) (body : String) : Piece :=
  .directive d (' ' :: (body.toList ++ [' ']))

namespace Cut

lemma ofRunBefore_nil (fresh : Bool) : Piece.ofRunBefore fresh [] = [] := by
  cases fresh <;> rfl

lemma cutNewline_sources {ps : List Piece} (h : ∀ p ∈ ps, ∃ d body, p = .directive d body) :
    Piece.cutNewline (Piece.sources ps) = ([], Piece.sources ps) := by
  cases ps with
  | nil => rfl
  | cons p ps =>
    obtain ⟨d, body, rfl⟩ := h p List.mem_cons_self
    rfl

lemma ofSource_directives {ps : List Piece}
    (h : ∀ p ∈ ps, ∃ d body, p = .directive d body ∧ Delimiter.Closes d body) :
    ofSource (Piece.sources ps) = ⟨ps, none⟩ := by
  suffices ∀ fresh, after fresh [] (Piece.sources ps) = ⟨ps, none⟩ from this true
  induction ps with
  | nil =>
    intro fresh
    exact after_nil fresh []
  | cons p ps ih =>
    intro fresh
    obtain ⟨⟨d, body, rfl, hc⟩, hps⟩ := List.forall_mem_cons.1 h
    have hs : Piece.sources (.directive d body :: ps) =
        d.opening ++ (body ++ (d.closing ++ Piece.sources ps)) := by
      simp [Piece.source]
    rw [hs]
    by_cases hd : d = .output
    · subst hd
      rw [after_output _ _ _ hc, ih hps]
      rfl
    · have hn := cutNewline_sources fun p hp =>
        (hps p hp).imp fun d => Exists.imp fun body => And.left
      rw [after_block _ _ _ hd hc, hn, ih hps, ofRunBefore_nil]
      rfl

end Cut

namespace Lexeme

lemma isSpace_blank : IsSpace [' '] := by
  intro c hc
  rw [List.mem_singleton.1 hc]
  decide

lemma trim_enclosed (cs : List Char) : trim (' ' :: (cs ++ [' '])) = trim cs :=
  trim_space isSpace_blank isSpace_blank cs

lemma closes_enclosed {d : Delimiter} {cs : List Char} {ls : List Lexeme} (hd : d ≠ .comment)
    (h : scanChars cs = .ok ls) : d.Closes (' ' :: (cs ++ [' '])) := by
  have hs : scanChars (' ' :: (cs ++ [' '])) = .ok ls := by
    rw [scanChars_blank (by decide), scanChars_append_space isSpace_blank, h]
  exact closes_of_scanChars hd hs

lemma scan_trim (line : Option Int) (cs : List Char) :
    scan line (String.ofList (trim cs)) = scan line (String.ofList cs) := by
  simp only [scan, String.toList_ofList, scanChars_trim]

lemma scanChars_words {cs ds : List Char} {ls ms : List Lexeme} (hc : scanChars cs = .ok ls)
    (hd : scanChars ds = .ok ms) : scanChars (cs ++ ' ' :: ds) = .ok (ls ++ ms) := by
  rw [scanChars_append hc (gap_cons ds (by decide)), scanChars_blank (by decide), hd]
  rfl

end Lexeme

namespace Token

open Lexeme

def enclosed (kind : Kind) (body : String) (line : Int) : Token :=
  ⟨kind, String.ofList (trim (' ' :: (body.toList ++ [' ']))), line⟩

lemma ofSource_enclosed {source : String} {l : List (Delimiter × String)}
    (hs : source = String.join (l.map fun x => x.1.enclose x.2))
    (h : l.Forall fun x => x.1 ≠ .comment ∧ ∃ ls, scanChars x.2.toList = .ok ls) :
    ofSource source = .ok (ofPieces 1 (l.map fun x => .enclosed x.1 x.2)) := by
  have hc : ∀ p ∈ l.map fun x => Piece.enclosed x.1 x.2,
      ∃ d body, p = .directive d body ∧ Delimiter.Closes d body := by
    intro p hp
    obtain ⟨x, hx, rfl⟩ := List.mem_map.1 hp
    obtain ⟨hd, ls, hls⟩ := List.forall_iff_forall_mem.1 h x hx
    exact ⟨x.1, _, rfl, closes_enclosed hd hls⟩
  have hl : source.toList = Piece.sources (l.map fun x => .enclosed x.1 x.2) := by
    simp [hs, Piece.sources, List.flatMap_map, Delimiter.enclose, Piece.enclosed, Piece.source]
  refine ofSource_ok.2 ⟨_, ?_, rfl⟩
  rw [hl]
  exact Cut.ofSource_directives hc

lemma isTag_enclosed {keyword body : String} {cs : List Char} {ls : List Lexeme}
    (hb : body.toList = keyword.toList ++ cs) (hk : IsName keyword) (hg : Gap cs)
    (hs : scanChars cs = .ok ls) (line : Int) : (enclosed .tag body line).IsTag keyword ls := by
  have hc := cutWord_trim hk.not_isBlank hk.toList_ne_nil hg
  refine ⟨rfl, ?_, ?_⟩
  · simp only [enclosed, String.toList_ofList, trim_enclosed, hb, hc, String.ofList_toList]
  · simp only [enclosed, String.toList_ofList, trim_enclosed, hb, hc]
    rw [scan_trim, scan, String.toList_ofList, hs]
    rfl

lemma wholeChain_enclosed (kind : Kind) (body : String) (line : Int) :
    Reading.wholeChain (some (enclosed kind body line).line) (enclosed kind body line).value =
      Reading.wholeChain (some line) body := by
  rw [Reading.wholeChain, enclosed, trim_enclosed, scan_trim, String.ofList_toList]
  rfl

end Token

namespace Node

lemma ofTokens_of_reads {ts : List Token} {ns : List Node}
    (hr : List.Forall₂ Mark.Reads (marksAll ns) ts) (hb : BranchedAll ns)
    (hh : heightAll ns ≤ Fault.maxDepth) : ofTokens ts = .ok ns := by
  have hc := Builder.consumes_all ns hb (b := Builder.empty) hh ts hr
  refine Outcome.bind_eq_ok.2 ⟨_, hc, ?_⟩
  rw [Builder.empty, Builder.addAll_nil]
  rfl

end Node

end Stencil
