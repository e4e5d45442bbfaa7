import Stencil.Proofs.Tokenizing
import Stencil.Template

/-! A text written between quotation marks is read back as it was, whatever it holds. -/

namespace Stencil

namespace Lexeme

def escape (q : Char) (cs : List Char) : List Char :=
  cs.flatMap fun c => if c = '\\' ∨ c = q then ['\\', c] else [c]

def quote (q : Char) (s : String) : String :=
  String.ofList (q :: escape q s.toList ++ [q])

variable {q : Char}

lemma escape_cons_of_mem {c : Char} (cs : List Char) (h : c = '\\' ∨ c = q) :
    escape q (c :: cs) = '\\' :: c :: escape q cs := by
  simp [escape, h]

lemma escape_cons_of_not {c : Char} (cs : List Char) (h : ¬ (c = '\\' ∨ c = q)) :
    escape q (c :: cs) = c :: escape q cs := by
  simp [escape, h]

lemma unescape_cons_of_ne {c : Char} (cs : List Char) (h : c ≠ '\\') :
    unescape (c :: cs) = c :: unescape cs := by
  rw [unescape]
  rintro d ds rfl
  exact (h rfl).elim

lemma unescape_escape (hq : q = '\'' ∨ q = '"') (cs : List Char) :
    unescape (escape q cs) = cs := by
  induction cs with
  | nil => rfl
  | cons c cs ih =>
    by_cases hc : c = '\\' ∨ c = q
    · have hu : c = '\'' ∨ c = '"' ∨ c = '\\' := by
        rcases hc with rfl | rfl
        · exact .inr (.inr rfl)
        · exact hq.imp_right .inl
      rw [escape_cons_of_mem cs hc, unescape, if_pos hu, ih]
    · rw [escape_cons_of_not cs hc, unescape_cons_of_ne _ (fun h => hc (.inl h)), ih]

lemma cutString?_escape (hq : q ≠ '\\') (cs rest : List Char) :
    cutString? q (escape q cs ++ q :: rest) = some (escape q cs, rest) := by
  induction cs with
  | nil =>
    rw [escape, List.flatMap_nil, List.nil_append, cutString?.eq_def]
    exact if_pos rfl
  | cons c cs ih =>
    by_cases hc : c = '\\' ∨ c = q
    · rw [escape_cons_of_mem cs hc, List.cons_append, List.cons_append, cutString?,
        if_neg hq.symm, if_pos rfl, ih]
      rfl
    · rw [escape_cons_of_not cs hc, List.cons_append, cutString?.eq_def]
      simp [not_or.1 hc, ih]

end Lexeme

namespace Delimiter

open Lexeme

variable {d : Delimiter} {q : Char}

lemma closesFrom_escape (cs ds : List Char) :
    d.ClosesFrom (.inside q) (escape q cs ++ ds) ↔ d.ClosesFrom (.inside q) ds := by
  induction cs with
  | nil => rfl
  | cons c cs ih =>
    by_cases hc : c = '\\' ∨ c = q
    · simpa [escape_cons_of_mem cs hc, closesFrom_cons, Quoting.step] using ih
    · simpa [escape_cons_of_not cs hc, closesFrom_cons, Quoting.step, not_or.1 hc] using ih

def Ordinary (d : Delimiter) (c : Char) : Prop :=
  c ≠ d.closer ∧ d.opensString c = false

lemma closes_cons_of_ne {c : Char} {cs : List Char} (hc : c ≠ d.closer)
    (hs : d.opensString c = false) (h : d.Closes cs) : d.Closes (c :: cs) := by
  refine closesFrom_cons.2 ⟨?_, ?_⟩
  · intro _ hp
    exact hc (prefix_closing.1 hp).1
  · rw [Quoting.step, if_neg (by simp [hs])]
    exact h

lemma closes_append {cs ds : List Char} (hc : ∀ c ∈ cs, d.Ordinary c) (h : d.Closes ds) :
    d.Closes (cs ++ ds) := by
  induction cs with
  | nil => exact h
  | cons c cs ih =>
    obtain ⟨⟨hn, hs⟩, hcs⟩ := List.forall_mem_cons.1 hc
    exact closes_cons_of_ne hn hs (ih hcs)

lemma closes_quoted {cs ds : List Char} (hd : d.opensString q) (hq : q ≠ '\\') (h : d.Closes ds) :
    d.Closes (q :: (escape q cs ++ q :: ds)) := by
  refine closesFrom_cons.2 ⟨?_, ?_⟩
  · intro _ hp
    have hc := closer_not_opensString (d := d)
    rw [← (prefix_closing.1 hp).1, hd] at hc
    cases hc
  · rw [Quoting.step, if_pos hd, closesFrom_escape, closesFrom_cons]
    refine ⟨fun hs => (Quoting.inside_ne q hs).elim, ?_⟩
    rw [Quoting.step, if_neg hq, if_pos rfl]
    exact h

end Delimiter

namespace Lexeme

variable {q : Char}

lemma scanChars_of_cut? {c : Char} {cs rest : List Char} {l : Lexeme} (hc : Text.isBlank c = false)
    (h : cut? (c :: cs) = some (l, rest)) :
    scanChars (c :: cs) = (scanChars rest).map (l :: ·) := by
  rw [scanChars, if_neg (by simp [hc])]
  split
  · rename_i hn
    cases h.symm.trans hn
  · rename_i l' rest' hs
    cases h.symm.trans hs
    rfl

lemma numeralCut?_eq_none {c : Char} (cs : List Char) (hc : c ≠ '-') (hd : Text.isDigit c = false) :
    Numeral.cut? (c :: cs) = none := by
  have hn : cutDigits? (c :: cs) = none := by
    rw [cutDigits?, List.takeWhile_cons_of_neg (by simp [hd])]
    rfl
  rw [Numeral.cut?, Numeral.cutUnsigned?, hn]
  rintro ds h
  exact hc (List.cons.inj h).1

lemma cut?_mark (hq : q = '\'' ∨ q = '"') (cs : List Char) :
    cut? (q :: cs) = (cutString? q cs).map fun p => (.quoted q p.1, p.2) := by
  have hn : Numeral.cut? (q :: cs) = none := by
    rcases hq with rfl | rfl <;> exact numeralCut?_eq_none _ (by decide) (by decide)
  simp only [cut?, hn, if_pos hq]

lemma mark_ne_backslash (hq : q = '\'' ∨ q = '"') : q ≠ '\\' := by
  rcases hq with rfl | rfl <;> decide

lemma cut?_quoted (hq : q = '\'' ∨ q = '"') (cs rest : List Char) :
    cut? (q :: (escape q cs ++ q :: rest)) = some (.quoted q (escape q cs), rest) := by
  rw [cut?_mark hq, cutString?_escape (mark_ne_backslash hq)]
  rfl

lemma cut?_punct {c : Char} (cs : List Char) (h : c = '.' ∨ c = '[' ∨ c = ']') :
    cut? (c :: cs) = some (.punct c, cs) := by
  have hn : Numeral.cut? (c :: cs) = none := by
    rcases h with rfl | rfl | rfl <;> exact numeralCut?_eq_none _ (by decide) (by decide)
  rw [cut?, hn]
  rcases h with rfl | rfl | rfl <;> simp [cutComparison?, beginsName, isPunct]

lemma scanChars_quoted (hq : q = '\'' ∨ q = '"') (cs rest : List Char) :
    scanChars (q :: (escape q cs ++ q :: rest)) =
      (scanChars rest).map (.quoted q (escape q cs) :: ·) := by
  have hb : Text.isBlank q = false := by
    rcases hq with rfl | rfl <;> decide
  exact scanChars_of_cut? hb (cut?_quoted hq cs rest)

lemma scanChars_quote (hq : q = '\'' ∨ q = '"') (s : String) :
    scanChars (quote q s).toList = .ok [.quoted q (escape q s.toList)] := by
  rw [quote, String.toList_ofList, List.cons_append, scanChars_quoted hq, scanChars]
  rfl

end Lexeme

namespace Token

lemma ofSource_output {body : String}
    (hc : Delimiter.output.Closes (' ' :: (body.toList ++ [' '])))
    (hh : ∀ c, body.toList.head? = some c → ¬ Text.isBlank c)
    (hl : ∀ c, body.toList.getLast? = some c → ¬ Text.isBlank c) :
    ofSource ("\x7b\x7b " ++ body ++ " \x7d\x7d") = .ok [⟨.output, body, 1⟩] := by
  refine ofSource_ok.2 ⟨[.directive .output (' ' :: (body.toList ++ [' ']))], ?_, ?_⟩
  · refine Cut.ofSource_eq_iff.2 ⟨?_, ?_⟩
    · exact Piece.laidOut_cons.2 ⟨⟨hc, nofun⟩, Piece.laidOut_nil _⟩
    · simp [Piece.source, Delimiter.opening, Delimiter.opener, Delimiter.closing, Delimiter.closer]
  · have hb : ∀ c ∈ [' '], Text.isBlank c := by
      intro c hc
      rw [List.mem_singleton.1 hc]
      decide
    have ht : Text.trim (' ' :: (body.toList ++ [' '])) = body.toList :=
      Text.trim_append hb hb hh hl
    simp [ofPieces, ofPiece?, ht]

end Token

lemma render_output {source text : String} {data v : Value} {e : Expr} (g : Calendar.Setting)
    (ht : Token.ofSource source = .ok [⟨.output, text, 1⟩])
    (hr : Reading.wholeChain (some 1) text = .ok (e, []))
    (he : e.eval (.ofData data.fields) = .ok v) : (render g source data).outcome = v.toText := by
  have hb : Builder.token .empty ⟨.output, text, 1⟩ = .ok ⟨[.output e [] (some 1)], []⟩ := by
    simp only [Builder.token, hr]
    rfl
  have hn : Node.ofSource source = .ok [.output e [] (some 1)] := by
    rw [Node.ofSource, ht]
    simp only [Node.ofTokens, bind, Except.bind, List.foldlM, hb]
    rfl
  have hv : e.evalWith (Builtin.table g) (.ofData data.fields) [] = (.ok v, []) := by
    rw [Expr.evalWith, he]
    rfl
  have ho : Template.renderNodes (Builtin.table g) [.output e [] (some 1)] data =
      Run.write (.ofData data.fields) v := by
    rw [Template.renderNodes, Node.renderAll, Node.render, hv, Run.ofValue, Run.write]
    cases v.toText <;> simp [Run.andThen, Node.renderAll, Run.nothing]
  rw [render, Template.ofSource, hn]
  simp only [Except.map, ho, Run.write]
  cases v.toText <;> simp [Run.text, reportError, RenderError.diagnostic]

namespace Lexeme

variable {q : Char}

lemma not_isBlank_mark (hq : q = '\'' ∨ q = '"') : ¬ Text.isBlank q := by
  rcases hq with rfl | rfl <;> decide

lemma toList_quote (s : String) : (quote q s).toList = q :: (escape q s.toList ++ [q]) := by
  rw [quote, String.toList_ofList, List.cons_append]

lemma wholeChain_of_scan {ls : List Lexeme} {line : Option Int} {s : String}
    (h : scanChars s.toList = .ok ls) :
    Reading.wholeChain line s = Reading.complete line (Reading.chain line ls) := by
  rw [Reading.wholeChain, scan, h]
  rfl

lemma wholeChain_quote (hq : q = '\'' ∨ q = '"') (line : Option Int) (s : String) :
    Reading.wholeChain line (quote q s) = .ok (.literal (.text s), []) := by
  rw [wholeChain_of_scan (scanChars_quote hq s)]
  simp [Reading.chain, Reading.operand, Reading.literal, Reading.filterCalls, Reading.complete,
    Reading.expectEnd, Reading.map, Reading.andThen, Reading.found, Except.map, unescape_escape hq]

lemma closes_quote (hq : q = '\'' ∨ q = '"') (s : String) {cs : List Char}
    (h : Delimiter.output.Closes cs) : Delimiter.output.Closes ((quote q s).toList ++ cs) := by
  have ho : Delimiter.output.opensString q := by
    rcases hq with rfl | rfl <;> decide
  rw [toList_quote, List.cons_append, List.append_assoc]
  exact Delimiter.closes_quoted ho (mark_ne_backslash hq) h

lemma closes_blank : Delimiter.output.Closes [' '] :=
  Delimiter.closes_cons_of_ne (by decide) (by decide) (Delimiter.closesFrom_nil.2 rfl)

lemma ofSource_quote (hq : q = '\'' ∨ q = '"') (s : String) :
    Token.ofSource ("\x7b\x7b " ++ quote q s ++ " \x7d\x7d") = .ok [⟨.output, quote q s, 1⟩] := by
  have hb := not_isBlank_mark hq
  apply Token.ofSource_output
  · have hc := closes_quote hq s closes_blank
    exact Delimiter.closes_cons_of_ne (by decide) (by decide) hc
  · simp [toList_quote, hb]
  · simp [toList_quote, List.getLast?_cons, hb]

lemma scanChars_step (hq : q = '\'' ∨ q = '"') (s : String) :
    scanChars ("m[" ++ quote q s ++ "]").toList =
      .ok [.name "m", .punct '[', .quoted q (escape q s.toList), .punct ']'] := by
  have hl : ("m[" ++ quote q s ++ "]").toList =
      'm' :: '[' :: q :: (escape q s.toList ++ q :: [']']) := by
    simp [toList_quote]
  have hm : cut? ('m' :: '[' :: q :: (escape q s.toList ++ q :: [']'])) =
      some (.name "m", '[' :: q :: (escape q s.toList ++ q :: [']'])) := by
    rw [cut?, numeralCut?_eq_none _ (by decide) (by decide)]
    simp [cutComparison?, beginsName, continuesName]
  rw [hl, scanChars_of_cut? (by decide) hm, scanChars_of_cut? (by decide) (cut?_punct _ (by simp)),
    scanChars_quoted hq, scanChars_of_cut? (by decide) (cut?_punct _ (by simp)), scanChars]
  rfl

lemma wholeChain_step (hq : q = '\'' ∨ q = '"') (line : Option Int) (s : String) :
    Reading.wholeChain line ("m[" ++ quote q s ++ "]") = .ok (.path ⟨"m", [.key s]⟩, []) := by
  rw [wholeChain_of_scan (scanChars_step hq s)]
  have hw : Reading.literalWord? "m" = none := by decide
  simp [Reading.chain, Reading.operand, Reading.path, Reading.identifier, Reading.steps, hw,
    Reading.bracketed?, Reading.reserved, Reading.filterCalls, Reading.complete,
    Reading.expectEnd, Reading.map, Reading.andThen, Reading.found, Except.map, unescape_escape hq]

lemma ofSource_step (hq : q = '\'' ∨ q = '"') (s : String) :
    Token.ofSource ("\x7b\x7b m[" ++ quote q s ++ "] \x7d\x7d") =
      .ok [⟨.output, "m[" ++ quote q s ++ "]", 1⟩] := by
  have hs : "\x7b\x7b m[" ++ quote q s ++ "] \x7d\x7d" =
      "\x7b\x7b " ++ ("m[" ++ quote q s ++ "]") ++ " \x7d\x7d" := by
    apply String.ext
    simp
  have hb : ∀ c, c = 'm' ∨ c = ']' → ¬ Text.isBlank c := by
    rintro c (rfl | rfl) <;> decide
  rw [hs]
  apply Token.ofSource_output
  · have hc := Delimiter.closes_cons_of_ne (c := ']') (by decide) (by decide) closes_blank
    have hq := closes_quote hq s hc
    have hm := Delimiter.closes_cons_of_ne (c := '[') (by decide) (by decide) hq
    have hl : ' ' :: (("m[" ++ quote q s ++ "]").toList ++ [' ']) =
        ' ' :: 'm' :: '[' :: ((quote q s).toList ++ [']', ' ']) := by
      simp
    rw [hl]
    exact Delimiter.closes_cons_of_ne (by decide) (by decide)
      (Delimiter.closes_cons_of_ne (by decide) (by decide) hm)
  · intro c hc
    refine hb c (.inl ?_)
    simpa using hc.symm
  · intro c hc
    have hl : ("m[" ++ quote q s ++ "]").toList = 'm' :: '[' :: (quote q s).toList ++ [']'] := by
      simp
    rw [hl, List.getLast?_concat] at hc
    exact hb c (.inr (Option.some.inj hc).symm)

end Lexeme

theorem render_quote (g : Calendar.Setting) {q : Char} (hq : q = '\'' ∨ q = '"') (s : String) :
    (∀ data, (render g ("\x7b\x7b " ++ Lexeme.quote q s ++ " \x7d\x7d") data).outcome = .ok s) ∧
      ∀ (m : Fields) (v : Value), m.lookup s = some v →
        (render g ("\x7b\x7b m[" ++ Lexeme.quote q s ++ "] \x7d\x7d")
          (.mapping [("m", .mapping m)])).outcome = v.toText := by
  constructor
  · intro data
    exact render_output g (Lexeme.ofSource_quote hq s) (Lexeme.wholeChain_quote hq (some 1) s) rfl
  · intro m v hv
    apply render_output g (Lexeme.ofSource_step hq s) (Lexeme.wholeChain_step hq (some 1) s)
    have hm : (Scope.ofData [("m", .mapping m)]).lookup "m" = .mapping m := rfl
    simp [Expr.eval, Path.resolve, Value.fields, hm, Segment.step, Segment.name, hv]

theorem render_quote_delimiters :
    let g : Calendar.Setting := .international ⟨0⟩
    Lexeme.quote '"' "\"\x7d\x7d\\" = "\"\\\"\x7d\x7d\\\\\"" ∧
      (render g ("\x7b\x7b " ++ Lexeme.quote '"' "\"\x7d\x7d\\" ++ " \x7d\x7d") .null).outcome =
        .ok "\"\x7d\x7d\\" ∧
      (render g ("\x7b\x7b m[" ++ Lexeme.quote '"' "\"\x7d\x7d\\" ++ "] \x7d\x7d")
        (.mapping [("m", .mapping [("\"\x7d\x7d\\", .text "v")])])).outcome = .ok "v" := by
  intro g
  have h := render_quote g (.inr rfl : '"' = '\'' ∨ '"' = '"') "\"\x7d\x7d\\"
  exact ⟨by decide, h.1 .null, h.2 _ (.text "v") rfl⟩

end Stencil
