import Stencil.Proofs.Tokenizing

/-! The line on which a token begins, and the line of a directive that is never closed. -/

namespace Stencil

def lineAt (cs : List Char) (n : Nat) : Int :=
  1 + (cs.take n).count '\n'

lemma lineAt_append (cs ds : List Char) : lineAt (cs ++ ds) cs.length = 1 + cs.count '\n' := by
  rw [lineAt, List.take_left]

namespace Piece

def offset (ps : List Piece) (i : Nat) : Nat :=
  (sources (ps.take i)).length

lemma lineAt_offset (ps : List Piece) (i : Nat) :
    lineAt (sources ps) (offset ps i) = 1 + (sources (ps.take i)).count '\n' := by
  have h := lineAt_append (sources (ps.take i)) (sources (ps.drop i))
  rwa [← sources_append, List.take_append_drop] at h

def Whole (rest : List Char) : List Piece → Prop
  | [] => True
  | .text cs :: ps => Plain cs (sources ps ++ rest) ∧ Whole rest ps
  | .directive d body :: ps => d.Closes body ∧ Whole rest ps
  | .indent cs :: ps => cs.all isIndent ∧ Whole rest ps
  | .newline cs :: ps => (cs = ['\n'] ∨ cs = ['\r', '\n']) ∧ Whole rest ps

lemma sources_ofRun_eq (run : List Char) : sources (ofRun run) = run.reverse := by
  simpa using sources_ofRun run.reverse

lemma whole_append {rest : List Char} {ps qs : List Piece} (hp : Whole (sources qs ++ rest) ps)
    (hq : Whole rest qs) : Whole rest (ps ++ qs) := by
  induction ps with
  | nil => exact hq
  | cons p ps ih =>
    cases p with
    | text cs =>
      refine ⟨?_, ih hp.2⟩
      rw [List.append_eq, sources_append, List.append_assoc]
      exact hp.1
    | directive d body => exact ⟨hp.1, ih hp.2⟩
    | indent cs => exact ⟨hp.1, ih hp.2⟩
    | newline cs => exact ⟨hp.1, ih hp.2⟩

lemma whole_ofRun {rest run : List Char} (h : Plain run.reverse rest) : Whole rest (ofRun run) := by
  cases run with
  | nil => exact trivial
  | cons c run => exact ⟨by simpa using h, trivial⟩

lemma whole_ofNewline (rest cs : List Char) : Whole rest (ofNewline (cutNewline cs).1) := by
  rcases cutNewline_fst cs with h | h | h <;> simp [h, ofNewline, Whole]

lemma whole_lead {rest t i : List Char} (h : Plain (t ++ i) rest) (hi : i.all isIndent) :
    Whole rest (lead t i) := by
  refine whole_append (whole_ofRun ?_) ?_
  · rw [sources_ofIndent, List.reverse_reverse]
    exact (plain_append.1 h).1
  · cases i with
    | nil => exact trivial
    | cons c i => exact ⟨hi, trivial⟩

lemma exists_lead_ofRunBefore (fresh : Bool) (run : List Char) :
    ∃ t i, run.reverse = t ++ i ∧ i.all isIndent ∧ ofRunBefore fresh run = lead t i := by
  rw [ofRunBefore_eq]
  split
  · refine ⟨_, _, ?_, by simp, rfl⟩
    rw [← List.reverse_append, List.takeWhile_append_dropWhile]
  · exact ⟨run.reverse, [], by simp, rfl, rfl⟩

lemma sources_ofRunBefore (fresh : Bool) (run : List Char) :
    sources (ofRunBefore fresh run) = run.reverse := by
  obtain ⟨t, i, ht, -, hl⟩ := exists_lead_ofRunBefore fresh run
  rw [hl, sources_lead, ht]

lemma whole_ofRunBefore {rest run : List Char} (fresh : Bool) (h : Plain run.reverse rest) :
    Whole rest (ofRunBefore fresh run) := by
  obtain ⟨t, i, ht, hi, hl⟩ := exists_lead_ofRunBefore fresh run
  rw [ht] at h
  rw [hl]
  exact whole_lead h hi

end Piece

namespace Cut

open Piece

structure Stops (cs : List Char) (ps : List Piece) (d : Delimiter) (rest : List Char) : Prop where
  source : cs = sources ps ++ (d.opening ++ rest)
  whole : Whole (d.opening ++ rest) ps
  ne_comment : d ≠ .comment
  unclosed : ∀ body tail, d.Closes body → rest ≠ body ++ d.closing ++ tail

lemma Stops.prepend {cs rest : List Char} {ps qs : List Piece} {d : Delimiter}
    (h : Stops cs qs d rest) (hp : Whole cs ps) : Stops (sources ps ++ cs) (ps ++ qs) d rest where
  source := by rw [sources_append, List.append_assoc, ← h.source]
  whole := by
    refine whole_append ?_ h.whole
    rwa [← h.source]
  ne_comment := h.ne_comment
  unclosed := h.unclosed

lemma stops_unterminated {run rest : List Char} {d : Delimiter} (hd : d ≠ .comment)
    (hc : d.cut? none rest = none) (hp : Plain run.reverse (d.opening ++ rest)) :
    Stops (run.reverse ++ (d.opening ++ rest)) (ofRun run) d rest where
  source := by rw [sources_ofRun_eq]
  whole := whole_ofRun hp
  ne_comment := hd
  unclosed body tail hb hr := by
    rw [Delimiter.cut?_eq_some_iff.2 ⟨hr, hb⟩] at hc
    cases hc

lemma Stops.directive {rs ns qs : List Piece} {body rest cs tail : List Char} {d e : Delimiter}
    (h : Stops cs qs d tail) (hc : e.Closes body)
    (hr : Whole (e.opening ++ (body ++ (e.closing ++ rest))) rs) (hn : Whole cs ns)
    (hs : sources ns ++ cs = rest) :
    Stops (sources rs ++ (e.opening ++ (body ++ (e.closing ++ rest))))
      (rs ++ .directive e body :: ns ++ qs) d tail := by
  subst hs
  have hw : Whole cs (rs ++ .directive e body :: ns) := by
    refine whole_append ?_ ⟨hc, hn⟩
    simpa [Piece.source] using hr
  simpa [Piece.source] using h.prepend hw

lemma stops_of_steps {fresh : Bool} {run cs : List Char} {k : Cut} {d : Delimiter}
    (h : Steps fresh run cs k) (hk : k.unterminated = some d) (hp : Plain run.reverse cs) :
    ∃ rest, Stops (run.reverse ++ cs) k.pieces d rest := by
  induction h with
  | done => cases hk
  | text hs _ ih =>
    have hq := ih hk (hp.snoc hs)
    rwa [List.reverse_cons, List.append_assoc] at hq
  | unterminated hd hc =>
    cases hk
    exact ⟨_, stops_unterminated hd hc hp⟩
  | @output fresh run body rest k hc _ ih =>
    obtain ⟨tail, hq⟩ := ih hk (plain_nil rest)
    have hn : Whole rest [] := trivial
    have hd := hq.directive hc (whole_ofRun hp) hn rfl
    rw [sources_ofRun_eq] at hd
    exact ⟨tail, hd⟩
  | @block fresh run e body rest k he hc _ ih =>
    obtain ⟨tail, hq⟩ := ih hk (plain_nil _)
    have hn := sources_ofNewline (cutNewline rest).1
    have hd := hq.directive hc (whole_ofRunBefore fresh hp) (whole_ofNewline _ rest)
      (by rw [hn, List.reverse_nil, List.nil_append, cutNewline_append])
    rw [sources_ofRunBefore] at hd
    exact ⟨tail, hd⟩

end Cut

namespace Token

open Piece

lemma ofPieces_eq (before ps : List Piece) :
    ofPieces (1 + (sources before).count '\n') ps =
      (ps.mapIdx fun i p =>
        ofPiece? (1 + (sources (before ++ ps.take i)).count '\n') p).filterMap id := by
  induction ps generalizing before with
  | nil => rfl
  | cons p ps ih =>
    have hi : ∀ i, before ++ (p :: ps).take (i + 1) = before ++ [p] ++ ps.take i := by simp
    rw [ofPieces, line_append, ih, List.mapIdx_cons, List.take_zero, List.append_nil]
    simp only [hi]
    cases ofPiece? (1 + (sources before).count '\n') p <;> rfl

lemma ofPieces_eq_mapIdx (ps : List Piece) :
    ofPieces 1 ps =
      (ps.mapIdx fun i p => ofPiece? (lineAt (sources ps) (offset ps i)) p).filterMap id := by
  simp only [lineAt_offset]
  exact ofPieces_eq [] ps

lemma lineAfter_eq (before ps : List Piece) :
    lineAfter (1 + (sources before).count '\n') ps = 1 + (sources (before ++ ps)).count '\n' := by
  induction ps generalizing before with
  | nil =>
    rw [List.append_nil]
    rfl
  | cons p ps ih =>
    have hp := ih (before ++ [p])
    rw [← line_append, List.append_assoc] at hp
    exact hp

lemma lineAfter_one (ps : List Piece) : lineAfter 1 ps = 1 + (sources ps).count '\n' :=
  lineAfter_eq [] ps

lemma newlines_nonneg (cs : List Char) : 0 ≤ newlines cs :=
  Int.natCast_nonneg _

lemma line_of_ofPiece? {n : Int} {p : Piece} {t : Token} (h : ofPiece? n p = some t) :
    t.line = n := by
  rw [ofPiece?.eq_def] at h
  split at h <;> cases h <;> rfl

lemma le_line_of_mem {n : Int} {ps : List Piece} {t : Token} (h : t ∈ ofPieces n ps) :
    n ≤ t.line := by
  induction ps generalizing n with
  | nil => cases h
  | cons p ps ih =>
    rcases List.mem_append.1 h with h | h
    · exact Int.le_of_eq (line_of_ofPiece? (Option.mem_toList.1 h)).symm
    · have hl := ih h
      have hn := newlines_nonneg p.source
      omega

lemma pairwise_ofPieces (n : Int) (ps : List Piece) :
    (ofPieces n ps).Pairwise (·.line ≤ ·.line) := by
  induction ps generalizing n with
  | nil => exact .nil
  | cons p ps ih =>
    refine List.pairwise_append.2 ⟨?_, ih _, fun t ht u hu => ?_⟩
    · cases ofPiece? n p with
      | none => exact .nil
      | some t => exact List.pairwise_singleton _ t
    · have hl := le_line_of_mem hu
      have hn := newlines_nonneg p.source
      rw [line_of_ofPiece? (Option.mem_toList.1 ht)]
      omega

lemma stops_of_ofSource {source : String} {e : ReadError} (h : ofSource source = .error e) :
    ∃ ps d rest, Cut.Stops source.toList ps d rest ∧
      e = .malformed (.unterminated d) (some (lineAt source.toList (sources ps).length)) := by
  obtain ⟨ps, d, hc, rfl⟩ := ofSource_eq_error h
  have ht : Cut.Steps true [] source.toList ⟨ps, some d⟩ := hc ▸ Cut.steps_after true [] _
  obtain ⟨rest, hs⟩ := Cut.stops_of_steps ht rfl (plain_nil _)
  rw [List.reverse_nil, List.nil_append] at hs
  refine ⟨ps, d, rest, hs, ?_⟩
  rw [hs.source, lineAt_append, lineAfter_one]

end Token

end Stencil
