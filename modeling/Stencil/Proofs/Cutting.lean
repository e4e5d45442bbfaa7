import Mathlib.Order.Basic
import Stencil.Proofs.Layout

/-! A template is cut into the only row of pieces that it is made of. -/

namespace Stencil

namespace Piece

def beginsLine (fresh : Bool) : List Char → Bool
  | [] => fresh
  | c :: _ => c == '\n'

structure Ready (fresh : Bool) (before : List Piece) : Prop where
  line : beginsLine true (sources before).reverse = fresh
  unindented : (sources before).reverse.dropWhile isIndent = (sources before).reverse
  text : ∀ cs, before.getLast? ≠ some (.text cs)
  indent : ∀ cs, before.getLast? ≠ some (.indent cs)

lemma ready_nil : Ready true [] :=
  ⟨rfl, rfl, nofun, nofun⟩

lemma ready_directive (before : List Piece) (d : Delimiter) (body : List Char) :
    Ready false (before ++ [.directive d body]) := by
  have hs : (sources (before ++ [.directive d body])).reverse =
      '}' :: d.closer :: (sources before ++ d.opening ++ body).reverse := by
    simp [source, Delimiter.closing]
  refine ⟨?_, ?_, by simp, by simp⟩
  · rw [hs]
    rfl
  · rw [hs]
    rfl

lemma ready_newline {cs : List Char} (before : List Piece) (h : cs = ['\n'] ∨ cs = ['\r', '\n']) :
    Ready true (before ++ [.newline cs]) := by
  obtain ⟨ds, hs⟩ : ∃ ds, (sources (before ++ [.newline cs])).reverse = '\n' :: ds := by
    rcases h with rfl | rfl <;> simp [source]
  refine ⟨?_, ?_, by simp, by simp⟩
  · rw [hs]
    rfl
  · rw [hs]
    rfl

lemma takeWhile_line (cs : List Char) :
    if beginsLine true (cs.dropWhile isIndent) then
      cs.takeWhile (· != '\n') = cs.takeWhile isIndent
    else (cs.takeWhile (· != '\n')).all isIndent = false := by
  induction cs with
  | nil => rfl
  | cons c cs ih =>
    by_cases hc : isIndent c
    · have hn : c ≠ '\n' := by
        rintro rfl
        simp [isIndent] at hc
      simpa [hc, hn] using ih
    · by_cases hn : c = '\n'
      · simp [hn, beginsLine, isIndent]
      · simp [hc, hn, beginsLine]

lemma indentation_eq (cs : List Char) :
    indentation cs =
      if beginsLine true (cs.reverse.dropWhile isIndent) then
        (cs.reverse.takeWhile isIndent).reverse
      else [] := by
  have h := takeWhile_line cs.reverse
  rw [indentation, lastLine]
  split at h
  · rw [h, List.all_reverse, if_pos (by simp), if_pos ‹_›]
  · rw [List.all_reverse, if_neg (by simp [h]), if_neg ‹_›]

lemma Ready.takeWhile_append {fresh : Bool} {before : List Piece} (h : Ready fresh before)
    (run : List Char) :
    (run ++ (sources before).reverse).takeWhile isIndent = run.takeWhile isIndent := by
  induction run with
  | nil =>
    have hw := List.takeWhile_append_dropWhile (p := isIndent) (l := (sources before).reverse)
    rw [h.unindented] at hw
    simpa using hw
  | cons c run ih =>
    by_cases hc : isIndent c
    · simpa [hc] using ih
    · simp [hc]

lemma Ready.beginsLine_append {fresh : Bool} {before : List Piece} (h : Ready fresh before)
    (run : List Char) :
    beginsLine true ((run ++ (sources before).reverse).dropWhile isIndent) =
      beginsLine fresh (run.dropWhile isIndent) := by
  induction run with
  | nil =>
    rw [List.nil_append, h.unindented]
    exact h.line
  | cons c run ih =>
    by_cases hc : isIndent c
    · simpa [hc] using ih
    · simp [hc, beginsLine]

def ofIndent (i : List Char) : List Piece :=
  if i.isEmpty then [] else [.indent i]

def lead (t i : List Char) : List Piece :=
  ofRun t.reverse ++ ofIndent i

@[simp] lemma sources_ofRun (t : List Char) : sources (ofRun t.reverse) = t := by
  cases t <;> simp [ofRun, source]

@[simp] lemma sources_ofIndent (i : List Char) : sources (ofIndent i) = i := by
  cases i <;> simp [ofIndent, source]

@[simp] lemma sources_lead (t i : List Char) : sources (lead t i) = t ++ i := by
  simp [lead]

@[simp] lemma lead_nil_right (t : List Char) : lead t [] = ofRun t.reverse := by
  simp [lead, ofIndent]

lemma ofRunBefore_eq (fresh : Bool) (run : List Char) :
    ofRunBefore fresh run =
      if beginsLine fresh (run.dropWhile isIndent) then
        lead (run.dropWhile isIndent).reverse (run.takeWhile isIndent).reverse
      else lead run.reverse [] := by
  simp only [lead, ofIndent, List.reverse_reverse, List.isEmpty_reverse, List.isEmpty_nil, if_true,
    List.append_nil]
  rfl

lemma ofRunBefore_eq_lead {fresh : Bool} {before : List Piece} (h : Ready fresh before)
    (run : List Char) :
    ∃ t, run.reverse = t ++ indentation (sources before ++ run.reverse) ∧
      ofRunBefore fresh run = lead t (indentation (sources before ++ run.reverse)) := by
  have hi : indentation (sources before ++ run.reverse) =
      if beginsLine fresh (run.dropWhile isIndent) then (run.takeWhile isIndent).reverse else [] := by
    rw [indentation_eq, List.reverse_append, List.reverse_reverse, h.takeWhile_append,
      h.beginsLine_append]
  rw [hi, ofRunBefore_eq]
  split
  · refine ⟨(run.dropWhile isIndent).reverse, ?_, rfl⟩
    rw [← List.reverse_append, List.takeWhile_append_dropWhile]
  · exact ⟨run.reverse, by simp, rfl⟩

lemma droppedIndent_lead {fresh : Bool} {before : List Piece} (h : Ready fresh before)
    (t i : List Char) : droppedIndent (before ++ lead t i) = i := by
  cases i with
  | cons c i => simp [lead, ofIndent, droppedIndent]
  | nil =>
    rw [lead_nil_right]
    cases t with
    | cons c t => simp [ofRun, droppedIndent]
    | nil =>
      have hl : before ++ ofRun [].reverse = before := List.append_nil before
      rw [hl]
      rw [droppedIndent]
      split
      · rename_i cs hcs
        exact (h.indent cs hcs).elim
      · rfl

lemma cutNewline_fst (cs : List Char) :
    (cutNewline cs).1 = [] ∨ (cutNewline cs).1 = ['\n'] ∨ (cutNewline cs).1 = ['\r', '\n'] := by
  unfold cutNewline
  split <;> simp

lemma cutNewline_eq_iff {cs rest : List Char} :
    (cs = ['\n'] ∨ cs = ['\r', '\n']) ∧ cs <+: rest ↔ cs ≠ [] ∧ (cutNewline rest).1 = cs := by
  unfold cutNewline
  split
  · constructor
    · rintro ⟨rfl | rfl, h⟩ <;> simp at h ⊢
    · rintro ⟨_, rfl⟩
      simp
  · constructor
    · rintro ⟨rfl | rfl, h⟩ <;> simp at h ⊢
    · rintro ⟨_, rfl⟩
      simp
  · rename_i h₁ h₂
    constructor
    · rintro ⟨rfl | rfl, ds, rfl⟩
      · exact (h₂ ds rfl).elim
      · exact (h₁ ds rfl).elim
    · rintro ⟨hne, rfl⟩
      exact (hne rfl).elim

lemma laidOut_text {before qs : List Piece} {t : List Char} (hp : Plain t (sources qs))
    (hq : ∀ ds, qs.head? ≠ some (.text ds)) (h : LaidOut (before ++ ofRun t.reverse) qs) :
    LaidOut before (ofRun t.reverse ++ qs) := by
  cases t with
  | nil => simpa [ofRun] using h
  | cons c t =>
    have ho : ofRun (c :: t).reverse = [.text (c :: t)] := by simp [ofRun]
    rw [ho] at h ⊢
    exact laidOut_cons.2 ⟨⟨nofun, hq, hp⟩, h⟩

lemma laidOut_lead {before qs : List Piece} {t i : List Char} {d : Delimiter} {body : List Char}
    (hp : Plain t (i ++ sources (.directive d body :: qs))) (hi : i ≠ [] → d ≠ .output)
    (h : LaidOut (before ++ lead t i) (.directive d body :: qs)) :
    LaidOut before (lead t i ++ .directive d body :: qs) := by
  rw [lead, List.append_assoc]
  rw [lead, ← List.append_assoc] at h
  apply laidOut_text
  · rwa [sources_append, sources_ofIndent]
  · intro ds
    cases i <;> simp [ofIndent]
  · cases i with
    | nil => simpa [ofIndent] using h
    | cons c i => exact laidOut_cons.2 ⟨⟨nofun, d, body, hi nofun, rfl⟩, h⟩

lemma head?_lead (t i : List Char) (d : Delimiter) (body : List Char) (qs : List Piece)
    (nl : List Char) : (lead t i ++ .directive d body :: qs).head? ≠ some (.newline nl) := by
  cases t <;> cases i <;> simp [lead, ofRun, ofIndent]

@[simp] lemma sources_ofNewline (nl : List Char) : sources (ofNewline nl) = nl := by
  cases nl <;> simp [ofNewline, source]

lemma head?_ofNewline {qs : List Piece} (nl cs : List Char)
    (h : ∀ cs, qs.head? ≠ some (.newline cs)) :
    (ofNewline nl ++ qs).head? = some (.newline cs) ↔ cs ≠ [] ∧ nl = cs := by
  cases nl with
  | nil =>
    constructor
    · exact fun hq => (h cs hq).elim
    · rintro ⟨hne, rfl⟩
      exact (hne rfl).elim
  | cons c nl =>
    simp only [ofNewline, List.isEmpty_cons, Bool.false_eq_true, if_false, List.cons_append,
      List.head?_cons, Option.some.injEq, Piece.newline.injEq]
    constructor
    · rintro rfl
      exact ⟨nofun, rfl⟩
    · exact fun h => h.2

lemma ready_ofNewline (before : List Piece) (d : Delimiter) (body rest : List Char) :
    Ready (!(cutNewline rest).1.isEmpty)
      (before ++ [.directive d body] ++ ofNewline (cutNewline rest).1) := by
  rcases cutNewline_fst rest with h | h
  · rw [h]
    simpa [ofNewline] using ready_directive before d body
  · have hr := ready_newline (before ++ [.directive d body]) h
    rcases h with h | h <;> rw [h] at hr ⊢ <;> exact hr

lemma laidOut_block {before qs : List Piece} {d : Delimiter} {body rest : List Char}
    (hd : d ≠ .output) (hc : d.Closes body)
    (hi : droppedIndent before = indentation (sources before))
    (hs : sources qs = (cutNewline rest).2) (hh : ∀ cs, qs.head? ≠ some (.newline cs))
    (h : LaidOut (before ++ [.directive d body] ++ ofNewline (cutNewline rest).1) qs) :
    LaidOut before (.directive d body :: (ofNewline (cutNewline rest).1 ++ qs)) := by
  refine laidOut_cons.2 ⟨⟨hc, fun _ => ⟨hi, fun cs => ?_⟩⟩, ?_⟩
  · rw [sources_append, sources_ofNewline, hs, cutNewline_append, cutNewline_eq_iff]
    exact head?_ofNewline _ cs hh
  · cases hn : (cutNewline rest).1 with
    | nil => simpa [ofNewline, hn] using h
    | cons c nl =>
      rw [hn] at h
      exact laidOut_cons.2 ⟨⟨d, body, hd, by simp⟩, h⟩

lemma indent_cons {before ps : List Piece} {i : List Char}
    (h : LaidOut before (.indent i :: ps)) :
    ∃ d body qs, d ≠ Delimiter.output ∧ ps = .directive d body :: qs := by
  obtain ⟨_, d, body, hd, hh⟩ := (laidOut_cons.1 h).1
  cases ps with
  | nil => simp at hh
  | cons p qs =>
    obtain rfl := Option.some.inj hh
    exact ⟨d, body, qs, hd, rfl⟩

lemma exists_lead {before ps : List Piece} (h : LaidOut before ps)
    (hh : ∀ nl, ps.head? ≠ some (.newline nl)) :
    (∃ t : List Char, ps = ofRun t.reverse) ∨
      ∃ t i d body qs, ps = lead t i ++ .directive d body :: qs ∧ (i ≠ [] → d ≠ .output) := by
  cases ps with
  | nil => exact .inl ⟨[], rfl⟩
  | cons p ps =>
    cases p with
    | newline nl => exact (hh nl rfl).elim
    | directive d body => exact .inr ⟨[], [], d, body, ps, rfl, nofun⟩
    | indent i =>
      obtain ⟨⟨hi, -⟩, -⟩ := laidOut_cons.1 h
      obtain ⟨d, body, qs, hd, rfl⟩ := indent_cons h
      exact .inr ⟨[], i, d, body, qs, by simp [lead, ofRun, ofIndent, hi], fun _ => hd⟩
    | text t =>
      obtain ⟨⟨ht, hnt, -⟩, h⟩ := laidOut_cons.1 h
      have hrun : ofRun t.reverse = [.text t] := by simp [ofRun, ht]
      cases ps with
      | nil => exact .inl ⟨t, hrun.symm⟩
      | cons q qs =>
        cases q with
        | text ds => exact (hnt ds rfl).elim
        | directive d body => exact .inr ⟨t, [], d, body, qs, by simp [hrun], nofun⟩
        | indent i =>
          obtain ⟨⟨hi, -⟩, -⟩ := laidOut_cons.1 h
          obtain ⟨d, body, rs, hd, rfl⟩ := indent_cons h
          exact .inr ⟨t, i, d, body, rs, by simp [lead, hrun, ofIndent, hi], fun _ => hd⟩
        | newline nl =>
          obtain ⟨⟨d, body, -, hl⟩, -⟩ := laidOut_cons.1 h
          simp at hl

lemma plain_of_laidOut {before qs : List Piece} {t : List Char}
    (h : LaidOut before (ofRun t.reverse ++ qs)) : Plain t (sources qs) := by
  cases t with
  | nil => exact plain_nil _
  | cons c t =>
    have hrun : ofRun (c :: t).reverse = [.text (c :: t)] := by simp [ofRun]
    rw [hrun] at h
    exact (laidOut_cons.1 h).1.2.2

lemma head?_of_laidOut {before qs : List Piece} {p : Piece} (h : LaidOut (before ++ [p]) qs)
    (hp : ∀ d body, d ≠ .output → p ≠ .directive d body) (nl : List Char) :
    qs.head? ≠ some (.newline nl) := by
  intro hq
  cases qs with
  | nil => cases hq
  | cons q qs =>
    obtain rfl := Option.some.inj hq
    obtain ⟨⟨d, body, hd, hl⟩, -⟩ := laidOut_cons.1 h
    rw [List.getLast?_concat] at hl
    exact hp d body hd (Option.some.inj hl)

lemma exists_ofNewline {before qs : List Piece} (h : LaidOut before qs)
    (hnl : ∀ cs, qs.head? = some (.newline cs) ↔
      (cs = ['\n'] ∨ cs = ['\r', '\n']) ∧ cs <+: sources qs) :
    ∃ rs, qs = ofNewline (cutNewline (sources qs)).1 ++ rs ∧
      sources rs = (cutNewline (sources qs)).2 ∧ ∀ nl, rs.head? ≠ some (.newline nl) := by
  simp only [cutNewline_eq_iff] at hnl
  have ha := cutNewline_append (sources qs)
  by_cases hc : (cutNewline (sources qs)).1 = []
  · rw [hc, List.nil_append] at ha
    refine ⟨qs, by rw [hc]; rfl, ha.symm, ?_⟩
    intro nl hq
    obtain ⟨hne, rfl⟩ := (hnl nl).1 hq
    exact hne hc
  · have hq := (hnl _).2 ⟨hc, rfl⟩
    generalize (cutNewline (sources qs)).1 = nl at ha hc hq ⊢
    cases qs with
    | nil => cases hq
    | cons q rs =>
      obtain rfl := Option.some.inj hq
      refine ⟨rs, by simp [ofNewline, hc], ?_, ?_⟩
      · exact (List.append_cancel_left ha).symm
      · exact head?_of_laidOut (laidOut_cons.1 h).2 nofun

end Piece

namespace Cut

open Piece

structure Continues (before : List Piece) (cs : List Char) (ps : List Piece) : Prop where
  laidOut : LaidOut before ps
  source : sources ps = cs
  head : ∀ nl, ps.head? ≠ some (.newline nl)

lemma continues_run {before : List Piece} {run : List Char} (hp : Plain run.reverse []) :
    Continues before run.reverse (ofRun run) := by
  have hl : LaidOut before (ofRun run.reverse.reverse ++ []) :=
    laidOut_text hp (by simp) (laidOut_nil _)
  have hs := sources_ofRun run.reverse
  rw [List.reverse_reverse] at hl hs
  rw [List.append_nil] at hl
  refine ⟨hl, hs, ?_⟩
  cases run <;> simp [ofRun]

lemma continues_output {before qs : List Piece} {run body rest : List Char}
    (hc : Delimiter.output.Closes body)
    (hp : Plain run.reverse (Delimiter.output.opening ++ (body ++ (Delimiter.output.closing ++ rest))))
    (h : Continues (before ++ ofRun run ++ [.directive .output body]) rest qs) :
    Continues before
      (run.reverse ++ (Delimiter.output.opening ++ (body ++ (Delimiter.output.closing ++ rest))))
      (ofRun run ++ .directive .output body :: qs) := by
  have hr : ofRun run = lead run.reverse [] := by
    rw [lead_nil_right, List.reverse_reverse]
  have hs : sources (.directive .output body :: qs) =
      Delimiter.output.opening ++ (body ++ (Delimiter.output.closing ++ rest)) := by
    simp [source, h.source]
  have hl : LaidOut (before ++ ofRun run) (.directive .output body :: qs) :=
    laidOut_cons.2 ⟨⟨hc, fun hd => (hd rfl).elim⟩, h.laidOut⟩
  rw [hr] at hl ⊢
  refine ⟨?_, ?_, head?_lead _ _ _ _ _⟩
  · apply laidOut_lead
    · rwa [List.nil_append, hs]
    · exact fun hi => (hi rfl).elim
    · exact hl
  · rw [sources_append, sources_lead, hs, List.append_nil]

lemma continues_block {fresh : Bool} {before qs : List Piece} {d : Delimiter}
    {run body rest : List Char} (hr : Ready fresh before) (hd : d ≠ .output) (hc : d.Closes body)
    (hp : Plain run.reverse (d.opening ++ (body ++ (d.closing ++ rest))))
    (h : Continues (before ++ ofRunBefore fresh run ++ [.directive d body] ++
      ofNewline (cutNewline rest).1) (cutNewline rest).2 qs) :
    Continues before (run.reverse ++ (d.opening ++ (body ++ (d.closing ++ rest))))
      (ofRunBefore fresh run ++ .directive d body :: (ofNewline (cutNewline rest).1 ++ qs)) := by
  obtain ⟨t, ht, hb⟩ := ofRunBefore_eq_lead hr run
  have hi : droppedIndent (before ++ ofRunBefore fresh run) =
      indentation (sources (before ++ ofRunBefore fresh run)) := by
    rw [hb, droppedIndent_lead hr, sources_append, sources_lead, ← ht]
  have hblock := laidOut_block hd hc hi h.source h.head h.laidOut
  have hs : sources (.directive d body :: (ofNewline (cutNewline rest).1 ++ qs)) =
      d.opening ++ (body ++ (d.closing ++ rest)) := by
    simp [source, h.source, cutNewline_append]
  rw [hb] at hblock ⊢
  refine ⟨?_, ?_, head?_lead _ _ _ _ _⟩
  · apply laidOut_lead
    · rw [ht] at hp
      rw [hs]
      exact (plain_append.1 hp).1
    · exact fun _ => hd
    · exact hblock
  · rw [sources_append, hs, sources_lead, ← ht]

lemma continues_of_steps {fresh : Bool} {run cs : List Char} {before : List Piece} {k : Cut}
    (h : Steps fresh run cs k) (hk : k.unterminated = none) (hr : Ready fresh before)
    (hp : Plain run.reverse cs) : Continues before (run.reverse ++ cs) k.pieces := by
  induction h generalizing before with
  | done =>
    rw [List.append_nil]
    exact continues_run hp
  | text hs _ ih =>
    have hq := ih hk hr (hp.snoc hs)
    rwa [List.reverse_cons, List.append_assoc] at hq
  | unterminated hd hc => cases hk
  | @output fresh run body rest k hc _ ih =>
    have hq := ih hk (ready_directive (before ++ ofRun run) .output body) (plain_nil rest)
    rw [prepend, List.append_assoc]
    exact continues_output hc hp hq
  | @block fresh run d body rest k hd hc _ ih =>
    have hq := ih hk (ready_ofNewline (before ++ ofRunBefore fresh run) d body rest) (plain_nil _)
    rw [prepend, List.append_assoc, List.cons_append]
    exact continues_block hr hd hc hp hq

lemma after_lead_output {fresh : Bool} {qs : List Piece} {t body : List Char}
    (hc : Delimiter.output.Closes body) (hp : Plain t (sources (.directive .output body :: qs)))
    (h : after false [] (sources qs) = ⟨qs, none⟩) :
    after fresh [] (sources (lead t [] ++ .directive .output body :: qs)) =
      ⟨lead t [] ++ .directive .output body :: qs, none⟩ := by
  rw [sources_append, sources_lead, List.append_nil, after_plain fresh [] hp]
  simp only [sources_cons, source, List.append_assoc, List.append_nil]
  rw [after_output _ _ _ hc, h, prepend, lead_nil_right]
  simp

lemma after_lead_block {fresh : Bool} {before qs rs : List Piece} {d : Delimiter}
    {t i body : List Char} (hr : Ready fresh before) (hd : d ≠ .output) (hc : d.Closes body)
    (hp : Plain t (i ++ sources (.directive d body :: qs)))
    (hi : i = indentation (sources before ++ (t ++ i)))
    (hqs : qs = ofNewline (cutNewline (sources qs)).1 ++ rs)
    (h : after (!(cutNewline (sources qs)).1.isEmpty) [] (cutNewline (sources qs)).2 = ⟨rs, none⟩) :
    after fresh [] (sources (lead t i ++ .directive d body :: qs)) =
      ⟨lead t i ++ .directive d body :: qs, none⟩ := by
  have hp' : Plain (t ++ i) (sources (.directive d body :: qs)) := by
    refine plain_append.2 ⟨hp, plain_of_isIndent _ ?_⟩
    rw [hi]
    exact indentation_all _
  obtain ⟨t', ht, hlead⟩ := ofRunBefore_eq_lead hr (t ++ i).reverse
  rw [List.reverse_reverse, ← hi] at ht hlead
  obtain rfl := List.append_cancel_right ht
  rw [sources_append, sources_lead, after_plain fresh [] hp']
  simp only [sources_cons, source, List.append_assoc, List.append_nil]
  rw [after_block _ _ _ hd hc, hlead, h, prepend]
  conv_rhs => rw [hqs]
  simp

lemma after_sources {fresh : Bool} {before ps : List Piece} (h : LaidOut before ps)
    (hr : Ready fresh before) (hh : ∀ nl, ps.head? ≠ some (.newline nl)) :
    after fresh [] (sources ps) = ⟨ps, none⟩ := by
  -- One step takes a directive with the text and the indentation before it and the newline after it.
  induction hn : ps.length using Nat.strongRecOn generalizing fresh before ps with
  | _ n ih =>
    rcases exists_lead h hh with ⟨t, rfl⟩ | ⟨t, i, d, body, qs, rfl, hi⟩
    · have hl : LaidOut before (ofRun t.reverse ++ []) := by
        rwa [List.append_nil]
      have hp : Plain t [] := plain_of_laidOut hl
      have ha := after_plain fresh [] hp
      rw [List.append_nil, List.append_nil, after_nil] at ha
      rw [sources_ofRun, ha]
    · have hp : Plain t (i ++ sources (.directive d body :: qs)) := by
        rw [lead, List.append_assoc] at h
        simpa using plain_of_laidOut h
      obtain ⟨⟨hc, hb⟩, htail⟩ := laidOut_cons.1 (laidOut_append h)
      by_cases hd : d = .output
      · subst hd
        obtain rfl : i = [] := by
          by_contra hne
          exact hi hne rfl
        have hlt : qs.length < n := by
          simp [← hn, lead]
          omega
        have hq := ih qs.length hlt htail
          (ready_directive (before ++ lead t []) .output body)
          (head?_of_laidOut htail fun d body hd hp => hd (Piece.directive.inj hp).1.symm) rfl
        exact after_lead_output hc hp hq
      · obtain ⟨hb, hnl⟩ := hb hd
        rw [droppedIndent_lead hr, sources_append, sources_lead] at hb
        obtain ⟨rs, hqs, hrs, hh'⟩ := exists_ofNewline htail hnl
        have hlt : rs.length < n := by
          rw [← hn, hqs]
          simp
          omega
        have hlay := laidOut_append (hqs ▸ htail)
        have hq := ih rs.length hlt hlay
          (ready_ofNewline (before ++ lead t i) d body (sources qs)) hh' rfl
        rw [hrs] at hq
        exact after_lead_block hr hd hc hp hb hqs hq

lemma ofSource_eq_iff {cs : List Char} {ps : List Piece} :
    ofSource cs = ⟨ps, none⟩ ↔ LaidOut [] ps ∧ sources ps = cs := by
  constructor
  · intro h
    have hs : Steps true [] cs ⟨ps, none⟩ := h ▸ steps_after true [] cs
    have hq := continues_of_steps hs rfl ready_nil (plain_nil cs)
    exact ⟨hq.laidOut, hq.source⟩
  · rintro ⟨hl, rfl⟩
    apply after_sources hl ready_nil
    intro nl hp
    cases ps with
    | nil => cases hp
    | cons p ps =>
      obtain rfl := Option.some.inj hp
      obtain ⟨⟨d, body, -, hd⟩, -⟩ := laidOut_cons.1 hl
      cases hd

end Cut

end Stencil
