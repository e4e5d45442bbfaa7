import Stencil.Proofs.Blame
import Stencil.Proofs.Directives
import Stencil.Proofs.Leniency
import Stencil.Proofs.Returning

/-! The verdict on a template, and what it says of every rendering. -/

namespace Stencil

open Outcome

namespace ReadError

def Located : ReadError → Prop
  | .malformed _ line => line.isSome
  | .digits _ => True

lemma OnLine.located {line : Int} {e : ReadError} (h : e.OnLine (some line)) : e.Located := by
  cases e with
  | malformed f l =>
    obtain ⟨rfl, -⟩ := h
    exact rfl
  | digits limit => trivial

lemma Located.eq_of_diagnostic {e : ReadError} (h : e.Located) {m : String}
    (hm : e.diagnostic = .ok m) : ∃ (f : Fault) (line : Int),
      m = "Invalid template syntax at line " ++ Number.integerText line ++ ": " ++ f.message := by
  cases e with
  | digits limit => cases hm
  | malformed f l =>
    cases hm
    obtain ⟨line, rfl⟩ := Option.isSome_iff_exists.1 h
    exact ⟨f, line, rfl⟩

end ReadError

namespace Node

lemma ofSource_located {source : String} {e : ReadError} (h : ofSource source = .error e) :
    e.Located := by
  rcases bind_eq_error.1 h with h | ⟨ts, -, h⟩
  · obtain ⟨ps, d, -, rfl⟩ := Token.ofSource_eq_error h
    exact rfl
  rcases bind_eq_error.1 h with h | ⟨b, -, h⟩
  · obtain ⟨pre, t, post, b, -, -, ht⟩ := foldlM_eq_error.1 h
    exact (Builder.token_onLine ht).located
  · obtain ⟨o, os, -, rfl⟩ := Builder.finish_eq_error h
    exact rfl

/-- What the run applies filters to, and what they return, has no more elements or characters than
a number of 4300 digits can count. Whatever fits in memory has not. -/
def CountsShort (table : FilterTable) (ns : List Node) (s : Scope) : Prop :=
  ∀ c u t f args w, Applies table ns s c u t → c.Runs table t f args →
    (f u args).outcome = .ok w → u.Sized ∧ w.Sized

lemma CountsShort.keepsShort {g : Calendar.Setting} {ns : List Node} {s : Scope}
    (h : CountsShort (Builtin.table g) ns s) : KeepsShort (Builtin.table g) ns s := by
  intro c u t f args w ha hr hu hargs hw
  obtain ⟨husize, hwsize⟩ := h c u t f args w ha hr hw
  exact (Builtin.returns_of_table hr.known hw).short hu hargs husize hwsize

end Node

lemma validate_eq_valid {source : String} :
    (validate source).outcome = .ok .valid ↔ ∃ nodes, Node.ofSource source = .ok nodes := by
  rw [validate]
  cases Node.ofSource source with
  | ok nodes => simp
  | error e => cases hd : e.diagnostic <;> simp [hd]

lemma validate_eq_invalid {source m : String} :
    (validate source).outcome = .ok (.invalid m) ↔
      ∃ e, Node.ofSource source = .error e ∧ e.diagnostic = .ok m := by
  rw [validate]
  cases Node.ofSource source with
  | ok nodes => simp
  | error e => cases hd : e.diagnostic <;> simp [hd]

lemma render_of_error {g : Calendar.Setting} {source m : String} {e : ReadError}
    (hs : Node.ofSource source = .error e) (hm : e.diagnostic = .ok m) (data : Value) :
    (render g source data).outcome = .ok (inlineError m) := by
  rw [render, Template.ofSource, hs]
  simp only [Except.map, hm, reportError]

lemma FilterCall.Faults.diagnostic {table : FilterTable} {s : Scope} {c : FilterCall} {v : Value}
    {e : RenderError} (h : c.Faults table s v e) :
    e.diagnostic = .ok e.message ∧ (e.message = "Unknown filter '" ++ c.name ++ "'" ∨
      ∃ cause : FilterError,
        e.message = "Filter '" ++ c.name ++ "' failed: " ++ cause.message) := by
  rcases h with ⟨-, rfl, hm⟩ | ⟨f, args, cause, -, -, rfl, hm⟩
  · exact ⟨rfl, .inl hm⟩
  · exact ⟨rfl, .inr ⟨cause, hm⟩⟩

/-- The verdict on a template is the verdict on all its renderings. What makes it invalid is the
whole output against any data. Where it is valid, each rendering is all that the nodes have written,
or else the message of one filter call of the template, in the place of all that. -/
theorem render_of_validate (g : Calendar.Setting) (source : String) :
    (∀ m, (validate source).outcome = .ok (.invalid m) →
      (∃ (f : Fault) (line : Int),
        m = "Invalid template syntax at line " ++ Number.integerText line ++ ": " ++ f.message) ∧
      ∀ data, (render g source data).outcome = .ok ("[Template Error: " ++ m ++ "]")) ∧
    ((validate source).outcome = .ok .valid → ¬ Number.TooLong source.toList.length →
      ∃ nodes, Node.ofSource source = .ok nodes ∧ ∀ data, data.Short →
        Node.CountsShort (Builtin.table g) nodes (.ofData data.fields) →
        let r := Template.renderNodes (Builtin.table g) nodes data
        (r.error = none ∧ (render g source data).outcome = .ok (String.join r.output)) ∨
          ∃ e, r.error = some e ∧
            (render g source data).outcome = .ok ("[Template Error: " ++ e.message ++ "]") ∧
            ∃ c ∈ Node.calls nodes, e.message = "Unknown filter '" ++ c.name ++ "'" ∨
              ∃ cause : FilterError,
                e.message = "Filter '" ++ c.name ++ "' failed: " ++ cause.message) := by
  constructor
  · intro m hm
    obtain ⟨e, hs, hd⟩ := validate_eq_invalid.1 hm
    exact ⟨(Node.ofSource_located hs).eq_of_diagnostic hd, render_of_error hs hd⟩
  · intro hv hlength
    obtain ⟨nodes, hs⟩ := validate_eq_valid.1 hv
    refine ⟨nodes, hs, fun data hdata hcounts => ?_⟩
    have hmarks := Node.short_marks hs hlength
    have hscope : (Scope.ofData data.fields).Short := .ofData hdata
    dsimp only
    rw [render_outcome hs, Run.answer]
    cases he : (Template.renderNodes (Builtin.table g) nodes data).error with
    | none => exact .inl ⟨rfl, rfl⟩
    | some e =>
      obtain ⟨m, t, hr, hf⟩ := Node.renderAll_eq_some.1 he
      obtain ⟨c, hc, u, t', -, hfault⟩ :=
        hcounts.keepsShort.error_of_reaches hmarks hscope hr hf
      obtain ⟨hd, hm⟩ := hfault.diagnostic
      refine .inr ⟨e, rfl, ?_, c, hc, hm⟩
      dsimp only
      rw [hd]
      rfl

def countedCalls : List FilterCall :=
  [⟨"length", [], some 1⟩, ⟨"f", [], some 1⟩]

def countedNodes : List Node :=
  [.text "a", .output (.path ⟨"n", []⟩) countedCalls (some 1)]

lemma ofSource_counted : Node.ofSource "a\x7b\x7b n|length|f \x7d\x7d" = .ok countedNodes := by
  let n : Grammar.Operand := .path ⟨⟨"n", by decide⟩, []⟩ (by decide)
  let t : Grammar.Chain := ⟨n, [⟨⟨"length", by decide⟩, .absent⟩, ⟨⟨"f", by decide⟩, .absent⟩]⟩
  have ht : Token.ofSource "a\x7b\x7b n|length|f \x7d\x7d" =
      .ok [⟨.text, "a", 1⟩, ⟨.output, "n|length|f", 1⟩] := by
    decide +kernel
  have hw : Reading.wholeChain (some 1) "n|length|f" = .ok (.path ⟨"n", []⟩, countedCalls) :=
    Grammar.wholeChain_of_scan t (by decide +kernel)
  refine bind_eq_ok.2 ⟨_, ht, ?_⟩
  have hr := Mark.Reads.text (t := ⟨.text, "a", 1⟩) rfl
  have hr' := Mark.Reads.output (t := ⟨.output, "n|length|f", 1⟩) rfl hw
  exact Node.ofTokens_of_reads (.cons hr (.cons hr' .nil)) ⟨trivial, trivial, trivial⟩
    (Nat.zero_le _)

lemma countsShort_counted (g : Calendar.Setting) :
    Node.CountsShort (Builtin.table g) countedNodes (.ofData [("n", .text "bc")]) := by
  have hlength : Builtin.table g "length" = some (Builtin.length.filter g) := rfl
  have hf : Builtin.table g "f" = none := rfl
  rintro c u t f args w ⟨m, e, filters, v, hr, he, hv, hc⟩ hruns hw
  cases hr with
  | here => cases he
  | next _ hr =>
    cases hr with
    | next _ hr => cases hr
    | here =>
      cases he
      cases hv
      cases hc with
      | here =>
        cases hruns.known.symm.trans hlength
        cases hruns.args
        cases hw
        refine ⟨fun n hn => ?_, nofun⟩
        cases hn
        exact Number.not_tooLong_of_le_most (by decide)
      | next _ _ hc =>
        cases hc with
        | here => cases hruns.known.symm.trans hf
        | next hr _ _ => cases hr.known.symm.trans hf

theorem render_of_validate_counted :
    let g : Calendar.Setting := .international ⟨0⟩
    let data : Value := .mapping [("n", .text "bc")]
    (validate "a\x7b\x7b n|length|f \x7d\x7d").outcome = .ok .valid ∧
      (render g "a\x7b\x7b n|length|f \x7d\x7d" data).outcome =
        .ok "[Template Error: Unknown filter 'f']" ∧
      (validate "a\x7b\x7b n").outcome =
        .ok (.invalid "Invalid template syntax at line 1: Unterminated '\x7b\x7b'") ∧
      (render g "a\x7b\x7b n" data).outcome =
        .ok "[Template Error: Invalid template syntax at line 1: Unterminated '\x7b\x7b']" := by
  intro g data
  have hvalid : (validate "a\x7b\x7b n|length|f \x7d\x7d").outcome = .ok .valid := by
    decide +kernel
  have hinvalid : (validate "a\x7b\x7b n").outcome =
      .ok (.invalid "Invalid template syntax at line 1: Unterminated '\x7b\x7b'") := by
    decide +kernel
  have hdata : data.Short := by
    refine .mapping (List.forall_mem_singleton.2 (.text ?_))
    exact Number.not_tooLong_of_le_most (by decide)
  have hsource : ¬ Number.TooLong "a\x7b\x7b n|length|f \x7d\x7d".toList.length :=
    Number.not_tooLong_of_le_most (by decide)
  have herror : (Template.renderNodes (Builtin.table g) countedNodes data).error =
      some (.unknownFilter "f") := rfl
  obtain ⟨nodes, hs, h⟩ := (render_of_validate g _).2 hvalid hsource
  cases hs.symm.trans ofSource_counted
  refine ⟨hvalid, ?_, hinvalid, ((render_of_validate g _).1 _ hinvalid).2 data⟩
  rcases h data hdata (countsShort_counted g) with ⟨hn, -⟩ | ⟨e, he, hr, -⟩
  · cases hn.symm.trans herror
  · cases he.symm.trans herror
    exact hr

end Stencil
