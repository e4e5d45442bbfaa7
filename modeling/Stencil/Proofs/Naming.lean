import Stencil.Proofs.Answering
import Stencil.Proofs.Directives
import Stencil.Proofs.Written

/-! A name that a template binds can be read again, unless it is one of the reserved words. -/

namespace Stencil

open Outcome

namespace Reading

variable {α β : Type} {line : Option Int}

lemma complete_map (f : α → β) (r : Reading α) :
    complete line (r.map f) = (complete line r).map f := by
  rcases r with ⟨_ | a, _ | ⟨l, ls⟩⟩ <;> rfl

lemma identifier_name {n : String} (hn : literalWord? n = none) (ls : List Lexeme) :
    identifier line (.name n :: ls) = found n ls := by
  simp [identifier, hn]

lemma literalWord?_eq_none_of_identifier {n : String} {ls : List Lexeme}
    {k : String → List Lexeme → Reading α} {a : α}
    (h : complete line ((identifier line (.name n :: ls)).andThen k) = .ok a) :
    literalWord? n = none := by
  cases hn : literalWord? n with
  | none => rfl
  | some v =>
    simp [identifier, hn, failed, andThen, complete] at h

lemma complete_bindingHeader {n : String} {ls : List Lexeme} {v : Expr × List FilterCall}
    (hn : literalWord? n = none) (h : complete line (chain line ls) = .ok v) :
    complete line (Builder.bindingHeader line (.name n :: .punct '=' :: ls)) = .ok (n, v) := by
  have hp : expectPunct line "=" (.punct '=' :: ls) = found () ls := rfl
  rw [Builder.bindingHeader, identifier_name hn, andThen_found, hp, andThen_found, complete_map, h]
  rfl

lemma complete_loopHeader {n : String} {ls : List Lexeme} {p : Path} (hn : literalWord? n = none)
    (h : complete line (path line ls) = .ok p) :
    complete line (Builder.loopHeader line (.name n :: .name "in" :: ls)) = .ok (n, p) := by
  have hp : expectName line "in" (.name "in" :: ls) = found () ls := rfl
  rw [Builder.loopHeader, identifier_name hn, andThen_found, hp, andThen_found, complete_map, h]
  rfl

lemma wholeChain_name {n : String} (hn : Lexeme.IsName n) (hl : literalWord? n = none) :
    wholeChain line n = if n ∈ reserved then .error (.malformed (.unexpected (.name n)) line)
      else .ok (.path ⟨n, []⟩, []) := by
  rw [Lexeme.wholeChain_of_scan (Lexeme.scanChars_name hn)]
  by_cases hr : n ∈ reserved
  · simp [chain, operand, hl, hr, failed, andThen, complete]
  · simp [chain, operand, hl, hr, path, identifier_name hl, steps, filterCalls, complete, expectEnd,
      map, andThen, found, Except.map]

end Reading

namespace Token

open Lexeme

structure Heads (body keyword n : String) (ls : List Lexeme) : Prop where
  scans : ∃ ms, scanChars body.toList = .ok ms
  isTag : ∀ line, (enclosed .tag body line).IsTag keyword (.name n :: ls)

lemma heads_of_toList {body keyword n mid rest : String} {l : Lexeme} {ls : List Lexeme}
    (hb : body.toList =
      keyword.toList ++ ' ' :: (n.toList ++ ' ' :: (mid.toList ++ ' ' :: rest.toList)))
    (hk : IsName keyword) (hn : IsName n) (hm : scanChars mid.toList = .ok [l])
    (hr : scanChars rest.toList = .ok ls) : Heads body keyword n (l :: ls) := by
  have hs := scanChars_words (scanChars_name hn) (scanChars_words hm hr)
  constructor
  · rw [hb]
    exact ⟨_, scanChars_words (scanChars_name hk) hs⟩
  · refine isTag_enclosed hb hk (Text.gap_cons _ (by decide)) ?_
    rw [scanChars_blank (by decide), hs]
    rfl

end Token

namespace Builder

variable {b b' : Builder} {t : Token} {n : String}

lemma wholeChain_of_token (hk : t.kind = .output) (h : b.token t = .ok b') :
    ∃ v, Reading.wholeChain (some t.line) t.value = .ok v := by
  rw [token, hk] at h
  obtain ⟨v, hv, -⟩ := bind_eq_ok.1 h
  exact ⟨v, hv⟩

lemma literalWord?_eq_none_of_token {keyword : String} {ls : List Lexeme}
    (hk : keyword = "set" ∨ keyword = "for") (ht : t.IsTag keyword (.name n :: ls))
    (h : b.token t = .ok b') : Reading.literalWord? n = none := by
  rw [token_of_isTag b ht] at h
  rcases hk with rfl | rfl
  · simp only [tag] at h
    obtain ⟨v, hv, -⟩ := bind_eq_ok.1 h
    exact Reading.literalWord?_eq_none_of_identifier hv
  · simp only [tag] at h
    obtain ⟨v, hv, -⟩ := bind_eq_ok.1 h
    exact Reading.literalWord?_eq_none_of_identifier hv

end Builder

namespace Scope

lemma lookup_assign (n : String) (v : Value) (s : Scope) : (s.assign n v).lookup n = v := by
  simp [lookup, lookup?, frames, assign, Fields.lookup_set]

lemma lookup_enter (n : String) (v : Value) (p : LoopPosition) (s : Scope) :
    (s.enter n v p).lookup n = v := by
  simp [lookup, lookup?, frames, enter]

end Scope

def Value.elements : Value → List Value
  | .sequence _ items => items
  | _ => []

namespace Node

variable (table : FilterTable) (n : String) (line : Option Int)

def reader : Node :=
  .output (.path ⟨n, []⟩) [] line

lemma renderAll_reader (s : Scope) : renderAll table [reader n line] s = .write s (s.lookup n) := by
  have hv : Expr.evalWith table s (.path ⟨n, []⟩) [] = (.ok (s.lookup n), []) := rfl
  rw [renderAll, reader, render, hv, Run.ofValue, Run.write]
  cases (s.lookup n).toText <;> simp [Run.andThen, renderAll, Run.nothing]

lemma answer_set (e : Expr) (filters : List FilterCall) (line' : Option Int) (s : Scope) :
    (renderAll table [.set n e filters line', reader n line] s).answer =
      (renderAll table [.output e filters line'] s).answer := by
  rw [renderAll, render, renderAll, render]
  rcases e.evalWith table s filters with ⟨err | v, events⟩
  · rfl
  · simp only [Run.ofValue, Run.nothing, Run.andThen, renderAll_reader, Scope.lookup_assign,
      Run.write]
    cases v.toText <;> simp [Run.answer, Run.text, renderAll, Run.nothing]

lemma iterate_reader (vs : List Value) (len i : Nat) (s : Scope) :
    (∀ ts, vs.mapM Value.toText = .ok ts →
        (Run.iterate n len (renderAll table [reader n line]) i vs s).error = none ∧
          (Run.iterate n len (renderAll table [reader n line]) i vs s).output = ts) ∧
      ∀ limit, vs.mapM Value.toText = .error limit →
        (Run.iterate n len (renderAll table [reader n line]) i vs s).error =
          some (.digits limit) := by
  induction vs generalizing i with
  | nil => simp [Run.iterate, Run.nothing, pure, Except.pure]
  | cons v vs ih =>
    obtain ⟨ho, hf⟩ := ih (i + 1)
    rw [Run.iterate, renderAll_reader, Scope.lookup_enter, List.mapM_cons, Run.write]
    cases v.toText with
    | error limit => simp [Run.leave, Run.andThen, bind, Except.bind]
    | ok t =>
      cases hm : vs.mapM Value.toText with
      | error limit =>
        simpa [Run.leave, Run.andThen, bind, Except.bind] using hf limit hm
      | ok ts =>
        simpa [Run.leave, Run.andThen, bind, Except.bind, pure, Except.pure] using ho ts hm

lemma answer_loop (p : Path) (s : Scope) :
    (renderAll table [.loop n p [reader n line]] s).answer =
      ((p.resolve s).elements.mapM Value.toText).map String.join := by
  rw [renderAll, render]
  split
  · rename_i kind items hp
    have hr := iterate_reader table n line items items.length 0 s
    generalize Run.iterate n items.length (renderAll table [reader n line]) 0 items s = r at hr ⊢
    obtain ⟨ho, hf⟩ := hr
    rw [hp, Value.elements, Run.answer]
    cases hm : items.mapM Value.toText with
    | error limit =>
      rw [Run.andThen_of_some (hf limit hm)]
      rfl
    | ok ts =>
      obtain ⟨he, hw⟩ := ho ts hm
      simp [Run.andThen, he, hw, renderAll, Run.nothing, Run.text, Except.map]
  · rename_i hp
    rw [hp]
    rfl
  · rename_i hs hn
    have he : (p.resolve s).elements = [] := by
      cases hp : p.resolve s <;> first | rfl | exact (hs _ _ hp).elim
    rw [he]
    rfl

variable {n}

lemma ofSource_of_tokens {source : String} {ts : List Token} (hs : Token.ofSource source = .ok ts) :
    ofSource source = ofTokens ts := by
  rw [ofSource, hs]
  rfl

lemma literalWord?_eq_none_of_ofSource {source keyword : String} {t : Token} {ts : List Token}
    {ls : List Lexeme} (hs : Token.ofSource source = .ok (t :: ts))
    (hk : keyword = "set" ∨ keyword = "for") (ht : t.IsTag keyword (.name n :: ls))
    (h : ∃ ns, ofSource source = .ok ns) : Reading.literalWord? n = none := by
  obtain ⟨ns, h⟩ := h
  rw [ofSource_of_tokens hs] at h
  obtain ⟨b, hb, -⟩ := bind_eq_ok.1 h
  obtain ⟨c, hc, -⟩ := foldlM_cons_eq_ok.1 hb
  exact Builder.literalWord?_eq_none_of_token hk ht hc

lemma not_reserved_of_ofSource {source : String} {t : Token} {ts : List Token} {line : Int}
    (hn : Lexeme.IsName n) (hl : Reading.literalWord? n = none)
    (hs : Token.ofSource source = .ok (t :: .enclosed .output n line :: ts))
    (h : ∃ ns, ofSource source = .ok ns) : n ∉ Reading.reserved := by
  obtain ⟨ns, h⟩ := h
  rw [ofSource_of_tokens hs] at h
  obtain ⟨b, hb, -⟩ := bind_eq_ok.1 h
  obtain ⟨c, -, hb⟩ := foldlM_cons_eq_ok.1 hb
  obtain ⟨d, hd, -⟩ := foldlM_cons_eq_ok.1 hb
  obtain ⟨v, hv⟩ := Builder.wholeChain_of_token rfl hd
  rw [Token.wholeChain_enclosed, Reading.wholeChain_name hn hl] at hv
  intro hr
  rw [if_pos hr] at hv
  cases hv

lemma reads_reader (hn : Lexeme.IsName n) (hl : Reading.literalWord? n = none)
    (hr : n ∉ Reading.reserved) (line : Int) :
    Mark.Reads (.output (.path ⟨n, []⟩) [] (some line)) (.enclosed .output n line) := by
  have hc := Token.wholeChain_enclosed .output n line
  rw [Reading.wholeChain_name hn hl, if_neg hr] at hc
  exact .output rfl hc

end Node

lemma isName_set : Lexeme.IsName "set" :=
  ⟨'s', ['e', 't'], rfl, by decide, List.all_eq_true.1 (by decide)⟩

lemma isName_for : Lexeme.IsName "for" :=
  ⟨'f', ['o', 'r'], rfl, by decide, List.all_eq_true.1 (by decide)⟩

lemma isName_in : Lexeme.IsName "in" :=
  ⟨'i', ['n'], rfl, by decide, List.all_eq_true.1 (by decide)⟩

lemma isName_endfor : Lexeme.IsName "endfor" :=
  ⟨'e', ['n', 'd', 'f', 'o', 'r'], rfl, by decide, List.all_eq_true.1 (by decide)⟩

lemma scanChars_equals : Lexeme.scanChars "=".toList = .ok [.punct '='] := by
  have hc : Lexeme.cut? ['='] = some (.punct '=', []) := by decide
  have hs := Lexeme.scanChars_of_cut? (by decide) hc
  rwa [Lexeme.scanChars] at hs

variable {n : String}

section

open Delimiter Token

variable {body : String} {ls : List Lexeme}

lemma ofSource_set (hb : Heads body "set" n ls) :
    Token.ofSource (tag.enclose body) = .ok [.enclosed .tag body 1] :=
  ofSource_enclosed (l := [(tag, body)]) (by simp) ⟨nofun, hb.scans⟩

lemma ofSource_set_reader (hb : Heads body "set" n ls) (hn : Lexeme.IsName n) :
    ∃ line, Token.ofSource (tag.enclose body ++ output.enclose n) =
      .ok [.enclosed .tag body 1, .enclosed .output n line] := by
  have hname := Lexeme.scanChars_name hn
  exact ⟨_, ofSource_enclosed (l := [(tag, body), (output, n)]) (by simp)
    ⟨⟨nofun, hb.scans⟩, nofun, _, hname⟩⟩

lemma ofSource_loop (hb : Heads body "for" n ls) :
    ∃ line, Token.ofSource (tag.enclose body ++ tag.enclose "endfor") =
      .ok [.enclosed .tag body 1, .enclosed .tag "endfor" line] := by
  have hend := Lexeme.scanChars_name isName_endfor
  exact ⟨_, ofSource_enclosed (l := [(tag, body), (tag, "endfor")]) (by simp)
    ⟨⟨nofun, hb.scans⟩, nofun, _, hend⟩⟩

lemma ofSource_loop_reader (hb : Heads body "for" n ls) (hn : Lexeme.IsName n) :
    ∃ line line', Token.ofSource (tag.enclose body ++ output.enclose n ++ tag.enclose "endfor") =
      .ok [.enclosed .tag body 1, .enclosed .output n line, .enclosed .tag "endfor" line'] := by
  have hname := Lexeme.scanChars_name hn
  have hend := Lexeme.scanChars_name isName_endfor
  exact ⟨_, _, ofSource_enclosed (l := [(tag, body), (output, n), (tag, "endfor")])
    (by simp [String.append_assoc]) ⟨⟨nofun, hb.scans⟩, ⟨nofun, _, hname⟩, nofun, _, hend⟩⟩

lemma ofSource_enclosed_output {E : String} {e : Expr} {filters : List FilterCall}
    (hE : Reading.wholeChain (some 1) E = .ok (e, filters)) :
    Node.ofSource (output.enclose E) = .ok [.output e filters (some 1)] := by
  obtain ⟨ls, hs, -⟩ := bind_eq_ok.1 hE
  have ht : Token.ofSource (output.enclose E) = .ok [.enclosed .output E 1] :=
    ofSource_enclosed (l := [(output, E)]) (by simp) ⟨nofun, ls, Lexeme.scan_eq_ok.1 hs⟩
  rw [Node.ofSource_of_tokens ht]
  refine Node.ofTokens_of_reads ?_ ⟨trivial, trivial⟩ (Nat.zero_le _)
  exact .cons (.output rfl ((wholeChain_enclosed .output E 1).trans hE)) .nil

lemma read_after_set (g : Calendar.Setting) (hn : Lexeme.IsName n) {E : String} {e : Expr}
    {filters : List FilterCall} (hE : Reading.wholeChain (some 1) E = .ok (e, filters))
    (hp : ∃ ns, Node.ofSource (tag.enclose ("set " ++ n ++ " = " ++ E)) = .ok ns) :
    ((∃ ns, Node.ofSource (tag.enclose ("set " ++ n ++ " = " ++ E) ++ output.enclose n) = .ok ns) ↔
        n ∉ Reading.reserved) ∧
      (n ∉ Reading.reserved → ∀ data,
        (render g (tag.enclose ("set " ++ n ++ " = " ++ E) ++ output.enclose n) data).outcome =
          (render g (output.enclose E) data).outcome) := by
  obtain ⟨ls, hs, hc⟩ := bind_eq_ok.1 hE
  have hb : Heads ("set " ++ n ++ " = " ++ E) "set" n (.punct '=' :: ls) :=
    heads_of_toList (by simp) isName_set hn scanChars_equals (Lexeme.scan_eq_ok.1 hs)
  have hl := Node.literalWord?_eq_none_of_ofSource (ofSource_set hb) (.inl rfl) (hb.isTag 1) hp
  obtain ⟨line, ht⟩ := ofSource_set_reader hb hn
  have hok : n ∉ Reading.reserved →
      Node.ofSource (tag.enclose ("set " ++ n ++ " = " ++ E) ++ output.enclose n) =
        .ok [.set n e filters (some 1), .reader n (some line)] := by
    intro hr
    rw [Node.ofSource_of_tokens ht]
    refine Node.ofTokens_of_reads ?_ ⟨trivial, trivial, trivial⟩ (Nat.zero_le _)
    exact .cons (.set (hb.isTag 1) (Reading.complete_bindingHeader hl hc))
      (.cons (Node.reads_reader hn hl hr line) .nil)
  refine ⟨⟨Node.not_reserved_of_ofSource hn hl ht, fun hr => ⟨_, hok hr⟩⟩, fun hr data => ?_⟩
  rw [render_outcome (hok hr), render_outcome (ofSource_enclosed_output hE)]
  exact Node.answer_set _ _ _ _ _ _ _

lemma read_in_loop (g : Calendar.Setting) (hn : Lexeme.IsName n) {P : String} {ls : List Lexeme}
    {p : Path} (hs : Lexeme.scan (some 1) P = .ok ls)
    (hP : Reading.complete (some 1) (Reading.path (some 1) ls) = .ok p)
    (hp : ∃ ns, Node.ofSource (tag.enclose ("for " ++ n ++ " in " ++ P) ++
      tag.enclose "endfor") = .ok ns) :
    ((∃ ns, Node.ofSource (tag.enclose ("for " ++ n ++ " in " ++ P) ++ output.enclose n ++
        tag.enclose "endfor") = .ok ns) ↔ n ∉ Reading.reserved) ∧
      (n ∉ Reading.reserved → ∀ data,
        (render g (tag.enclose ("for " ++ n ++ " in " ++ P) ++ output.enclose n ++
          tag.enclose "endfor") data).outcome =
            ((p.resolve (.ofData data.fields)).elements.mapM Value.toText).map String.join) := by
  have hb : Heads ("for " ++ n ++ " in " ++ P) "for" n (.name "in" :: ls) :=
    heads_of_toList (by simp) isName_for hn (Lexeme.scanChars_name isName_in)
      (Lexeme.scan_eq_ok.1 hs)
  obtain ⟨_, ht⟩ := ofSource_loop hb
  have hl := Node.literalWord?_eq_none_of_ofSource ht (.inr rfl) (hb.isTag 1) hp
  obtain ⟨line, line', ht⟩ := ofSource_loop_reader hb hn
  have hok : n ∉ Reading.reserved →
      Node.ofSource (tag.enclose ("for " ++ n ++ " in " ++ P) ++ output.enclose n ++
        tag.enclose "endfor") = .ok [.loop n p [.reader n (some line)]] := by
    intro hr
    have hend : (enclosed .tag "endfor" line').IsTag "endfor" [] :=
      isTag_enclosed (List.append_nil _).symm isName_endfor nofun Lexeme.scanChars.eq_1 line'
    rw [Node.ofSource_of_tokens ht]
    refine Node.ofTokens_of_reads ?_ ⟨⟨trivial, trivial⟩, trivial⟩ (show 1 ≤ 100 by decide)
    exact .cons (.loop (hb.isTag 1) (Reading.complete_loopHeader hl hP))
      (.cons (Node.reads_reader hn hl hr line) (.cons (.endLoop hend) .nil))
  refine ⟨⟨Node.not_reserved_of_ofSource hn hl ht, fun hr => ⟨_, hok hr⟩⟩, fun hr data => ?_⟩
  rw [render_outcome (hok hr)]
  exact Node.answer_loop _ _ _ _ _

lemma exists_mapM_toText {vs : List Value} (h : ∀ i : Int, .int i ∈ vs → ¬ Number.TooLong i) :
    ∃ ts, vs.mapM Value.toText = .ok ts := by
  refine exists_ok_iff.2 fun limit hm => ?_
  obtain ⟨v, hv, he⟩ := mapM_eq_error hm
  obtain ⟨i, rfl, hi, -⟩ := Value.toText_eq_error.1 he
  exact h i hv hi

/-- A name that is bound can be read exactly if it is no reserved word. Bound to an output
expression it stands for what the expression writes, and in a loop over a path for the texts of the
elements, of which there are none unless the path leads to a sequence. -/
theorem render_bound_name (g : Calendar.Setting) {n : String} (hn : Lexeme.IsName n) :
    (∀ E e filters, Reading.wholeChain (some 1) E = .ok (e, filters) →
      let binding := tag.enclose ("set " ++ n ++ " = " ++ E)
      (∃ ns, Node.ofSource binding = .ok ns) →
        ((∃ ns, Node.ofSource (binding ++ output.enclose n) = .ok ns) ↔ n ∉ Reading.reserved) ∧
          (n ∉ Reading.reserved → ∀ data,
            (render g (binding ++ output.enclose n) data).outcome =
              (render g (output.enclose E) data).outcome)) ∧
      ∀ P ls p, Lexeme.scan (some 1) P = .ok ls →
        Reading.complete (some 1) (Reading.path (some 1) ls) = .ok p →
          let binding := tag.enclose ("for " ++ n ++ " in " ++ P)
          let ending := tag.enclose "endfor"
          (∃ ns, Node.ofSource (binding ++ ending) = .ok ns) →
            ((∃ ns, Node.ofSource (binding ++ output.enclose n ++ ending) = .ok ns) ↔
                n ∉ Reading.reserved) ∧
              (n ∉ Reading.reserved → ∀ data,
                let elements := (p.resolve (.ofData data.fields)).elements
                (render g (binding ++ output.enclose n ++ ending) data).outcome =
                    (elements.mapM Value.toText).map String.join ∧
                  ((∀ i : Int, .int i ∈ elements → ¬ Number.TooLong i) →
                    ∃ ts, elements.mapM Value.toText = .ok ts)) := by
  refine ⟨fun E e filters hE => read_after_set g hn hE, ?_⟩
  intro P ls p hs hP binding ending hp
  obtain ⟨hr, ho⟩ := read_in_loop g hn hs hP hp
  exact ⟨hr, fun hn data => ⟨ho hn data, exists_mapM_toText⟩⟩

theorem render_bound_name_elements :
    let g : Calendar.Setting := .international ⟨0⟩
    Lexeme.IsName "x" ∧
      (∀ data, (render g "\x7b% set x = y.z|upper %\x7d\x7b\x7b x \x7d\x7d" data).outcome =
        (render g "\x7b\x7b y.z|upper \x7d\x7d" data).outcome) ∧
      (render g "\x7b% for x in xs %\x7d\x7b\x7b x \x7d\x7d\x7b% endfor %\x7d"
        (.mapping [("xs", .sequence .list [.text "a", .bool true])])).outcome = .ok "atrue" := by
  intro g
  have hn : Lexeme.IsName "x" := ⟨'x', [], rfl, by decide, nofun⟩
  have hname : "x" ∉ Reading.reserved := by decide
  obtain ⟨hset, hloop⟩ := render_bound_name g hn
  obtain ⟨⟨e, filters⟩, hE⟩ : ∃ v, Reading.wholeChain (some 1) "y.z|upper" = .ok v :=
    exists_ok_iff_toBool.2 (by decide +kernel)
  have hs := hset "y.z|upper" e filters hE (exists_ok_iff_toBool.2 (by decide +kernel))
  have hl := hloop "xs" [.name "xs"] ⟨"xs", []⟩ (by decide +kernel) (by decide)
    (exists_ok_iff_toBool.2 (by decide +kernel))
  exact ⟨hn, hs.2 hname, (hl.2 hname _).1⟩

theorem reserved_in_not_readable :
    Lexeme.IsName "in" ∧ (∃ v, Reading.wholeChain (some 1) "1" = .ok v) ∧
      (∃ ns, Node.ofSource "\x7b% set in = 1 %\x7d" = .ok ns) ∧
      ¬ ∃ ns, Node.ofSource "\x7b% set in = 1 %\x7d\x7b\x7b in \x7d\x7d" = .ok ns := by
  refine ⟨isName_in, ?_, ?_, ?_⟩
  · exact exists_ok_iff_toBool.2 (by decide +kernel)
  · exact exists_ok_iff_toBool.2 (by decide +kernel)
  · rw [exists_ok_iff_toBool]
    decide +kernel

end

end Stencil
