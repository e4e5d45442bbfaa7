import Mathlib.Data.Nat.Digits.Lemmas
import Stencil.Proofs.Conversion
import Stencil.Proofs.Escaping
import Stencil.Proofs.Reaching

/-! The entry points answer unless a whole number is too long to read or to write. -/

namespace Stencil

open Outcome

namespace Number

def TooLong (n : Int) : Prop :=
  4300 < (Nat.digits 10 n.natAbs).length

lemma tooLong_iff {n : Int} : TooLong n ↔ Nat.pow 10 DigitLimit.most ≤ n.natAbs := by
  have hp : ∀ k, Nat.pow 10 k = 10 ^ k := fun k => rfl
  have hd : ∀ k, k < (Nat.digits 10 n.natAbs).length ↔ 10 ^ k ≤ n.natAbs := by
    intro k
    exact Nat.lt_digits_length_iff (by omega) n.natAbs
  rw [hp]
  exact hd DigitLimit.most

lemma writeInteger_eq_error {n : Int} {limit : DigitLimit} :
    writeInteger n = .error limit ↔ TooLong n ∧ limit = .writing := by
  rw [tooLong_iff, writeInteger]
  by_cases h : n.natAbs < Nat.pow 10 DigitLimit.most
  · simp only [if_pos h, Nat.not_le.2 h, false_and, reduceCtorEq]
  · simp only [if_neg h, Nat.le_of_not_lt h, true_and, Except.error.injEq, eq_comm]

lemma units_lt {m k : Nat} (h : Binary64.IsCanonical m k) :
    Binary64.units m k / Binary64.one < Nat.pow 10 DigitLimit.most := by
  obtain ⟨hm, hk, -⟩ := h
  have hu : ∀ e, 53 + k ≤ e → Binary64.units m k < Nat.pow 10 e := by
    intro e he
    calc m * Nat.pow 2 k
      _ < Nat.pow 2 53 * Nat.pow 2 k := Nat.mul_lt_mul_of_pos_right hm (Nat.two_pow_pos k)
      _ = Nat.pow 2 (53 + k) := (Nat.pow_add 2 53 k).symm
      _ ≤ Nat.pow 10 (53 + k) := Nat.pow_le_pow_left (by omega) _
      _ ≤ Nat.pow 10 e := Nat.pow_le_pow_right (by omega) he
  have hp : 53 + k ≤ DigitLimit.most := by
    have hmost : DigitLimit.most = 4300 := rfl
    omega
  exact Nat.lt_of_le_of_lt (Nat.div_le_self _ _) (hu _ hp)

lemma text_float (x : Binary64) (limit : DigitLimit) : (Number.float x).text ≠ .error limit := by
  intro h
  cases x with
  | nan label => cases h
  | infinite negative => cases h
  | finite negative m k hc =>
    simp only [text] at h
    split at h
    · rename_i n _ hn
      have hw := tooLong_iff.1 (writeInteger_eq_error.1 h).1
      have hu := units_lt hc
      simp only [Binary64.truncate?, Option.some.injEq] at hn
      have ha : n.natAbs = Binary64.units m k / Binary64.one := by
        rw [← hn]
        split <;> simp only [Int.natAbs_neg, Int.natAbs_natCast]
      exact Nat.not_lt.2 hw (ha ▸ hu)
    · cases h

end Number

lemma Value.toText_eq_error {v : Value} {limit : DigitLimit} :
    v.toText = .error limit ↔
      ∃ n : Int, v = .int n ∧ Number.TooLong n ∧ limit = .writing := by
  constructor
  · intro h
    cases v with
    | number x =>
      cases x with
      | int n => exact ⟨n, rfl, Number.writeInteger_eq_error.1 h⟩
      | float x => exact (Number.text_float x limit h).elim
    | _ => cases h
  · rintro ⟨n, rfl, hn, rfl⟩
    have hw : Number.writeInteger n = .error .writing := Number.writeInteger_eq_error.2 ⟨hn, rfl⟩
    exact hw

lemma Expr.eval_ne_digits {s : Scope} (e : Expr) (limit : DigitLimit) :
    e.eval s ≠ .error (.digits limit) := by
  intro h
  induction e with
  | literal v => cases h
  | path p => cases h
  | not e ih =>
    rw [eval] at h
    cases he : e.eval s with
    | ok v =>
      rw [he] at h
      cases h
    | error err =>
      rw [he] at h ih
      cases h
      exact ih rfl
  | compare op left right ihl ihr =>
    rw [eval] at h
    rcases bind_eq_error.1 h with h | ⟨v, -, h⟩
    · exact ihl h
    rcases bind_eq_error.1 h with h | ⟨w, -, h⟩
    · exact ihr h
    · cases h
  | unknown type => cases h

lemma FilterCall.applyAll_ne_digits {table : FilterTable} {s : Scope} (calls : List FilterCall)
    (v : Value) (limit : DigitLimit) : (applyAll table s calls v).1 ≠ .error (.digits limit) := by
  intro h
  induction calls generalizing v with
  | nil => cases h
  | cons c calls ih =>
    simp only [applyAll] at h
    split at h
    · cases h
    split at h
    · rename_i e he
      cases h
      obtain ⟨x, -, hx⟩ := mapM_eq_error he
      exact x.eval_ne_digits limit hx
    split at h
    · cases h
    · exact ih _ h

lemma Expr.evalWith_ne_digits {table : FilterTable} {s : Scope} (e : Expr) (calls : List FilterCall)
    (limit : DigitLimit) : (e.evalWith table s calls).1 ≠ .error (.digits limit) := by
  rw [evalWith]
  split
  · rename_i err he
    intro h
    cases h
    exact e.eval_ne_digits limit he
  · exact FilterCall.applyAll_ne_digits calls _ limit

lemma Node.fails_digits {table : FilterTable} {s : Scope} {n : Node} {limit : DigitLimit}
    (h : Fails table s n (.digits limit)) :
    ∃ e filters line, n = .output e filters line ∧ ∃ i : Int,
      (e.evalWith table s filters).1 = .ok (.int i) ∧ Number.TooLong i ∧ limit = .writing := by
  have hstuck : ∀ branches, ¬ Stuck s (.digits limit) branches := by
    intro branches h
    induction h with
    | test he => exact Expr.eval_ne_digits _ limit he
    | later _ _ _ ih => exact ih
  cases h with
  | output h => exact (Expr.evalWith_ne_digits _ _ limit h).elim
  | text h ht =>
    obtain ⟨i, rfl, hi, hl⟩ := Value.toText_eq_error.1 ht
    exact ⟨_, _, _, rfl, i, h, hi, hl⟩
  | set h => exact (Expr.evalWith_ne_digits _ _ limit h).elim
  | conditional h => exact (hstuck _ h).elim

/-- Rendering a template comes to an output directive with the value `v`. -/
def Emits (g : Calendar.Setting) (source : String) (data v : Value) : Prop :=
  ∃ nodes e filters line s, Node.ofSource source = .ok nodes ∧
    Node.Reaches (Builtin.table g) nodes (.ofData data.fields) (.output e filters line) s ∧
      (e.evalWith (Builtin.table g) s filters).1 = .ok v

lemma renderNodes_eq_digits {g : Calendar.Setting} {source : String} {data : Value}
    {nodes : List Node} {limit : DigitLimit} (hs : Node.ofSource source = .ok nodes) :
    (Template.renderNodes (Builtin.table g) nodes data).error = some (.digits limit) ↔
      ∃ i : Int, Emits g source data (.int i) ∧ Number.TooLong i ∧ limit = .writing := by
  rw [Template.renderNodes, Node.renderAll_eq_some]
  constructor
  · rintro ⟨m, s, hr, hf⟩
    obtain ⟨e, filters, line, rfl, i, hv, hi, hl⟩ := Node.fails_digits hf
    exact ⟨i, ⟨nodes, e, filters, line, s, hs, hr, hv⟩, hi, hl⟩
  · rintro ⟨i, ⟨nodes', e, filters, line, s, hs', hr, hv⟩, hi, hl⟩
    cases hs.symm.trans hs'
    exact ⟨_, s, hr, .text hv (Value.toText_eq_error.2 ⟨i, rfl, hi, hl⟩)⟩

lemma ReadError.diagnostic_eq_error {e : ReadError} {limit : DigitLimit} :
    e.diagnostic = .error limit ↔ e = .digits limit := by
  cases e <;> simp [diagnostic]

lemma RenderError.diagnostic_eq_error {e : RenderError} {limit : DigitLimit} :
    e.diagnostic = .error limit ↔ e = .digits limit := by
  cases e <;> simp [diagnostic]

lemma reportError_eq_error {events : List Event} {d : Except DigitLimit String}
    {limit : DigitLimit} :
    (reportError events d).outcome = .error limit ↔ d = .error limit := by
  cases d <;> simp [reportError]

def Run.answer (r : Run) : Except DigitLimit String :=
  match r.error with
  | none => .ok r.text
  | some e => e.diagnostic.map inlineError

lemma render_outcome {g : Calendar.Setting} {source : String} {nodes : List Node}
    (hs : Node.ofSource source = .ok nodes) (data : Value) :
    (render g source data).outcome = (Template.renderNodes (Builtin.table g) nodes data).answer := by
  rw [render, Template.ofSource, hs, Run.answer]
  cases hr : (Template.renderNodes (Builtin.table g) nodes data).error with
  | none => simp [Except.map, hr]
  | some e => cases hd : e.diagnostic <;> simp [Except.map, hr, reportError, hd]

lemma validate_eq_error {source : String} {limit : DigitLimit} :
    (validate source).outcome = .error limit ↔
      ∃ n, Node.ComesTo source n ∧ n.value = .error limit := by
  rw [← Node.ofSource_eq_digits, validate]
  cases Node.ofSource source with
  | ok nodes => simp
  | error e => cases e <;> simp [ReadError.diagnostic]

lemma render_eq_error {g : Calendar.Setting} {source : String} {data : Value} {limit : DigitLimit} :
    (render g source data).outcome = .error limit ↔
      (∃ n, Node.ComesTo source n ∧ n.value = .error limit) ∨
        ∃ i : Int, Emits g source data (.int i) ∧ Number.TooLong i ∧ limit = .writing := by
  rw [← Node.ofSource_eq_digits, render, Template.ofSource]
  cases hs : Node.ofSource source with
  | error e =>
    have hn : ∀ v, ¬ Emits g source data v := by
      rintro v ⟨nodes, e', filters, line, s, hs', -⟩
      cases hs.symm.trans hs'
    simp [Except.map, reportError_eq_error, ReadError.diagnostic_eq_error, hn]
  | ok nodes =>
    rw [← renderNodes_eq_digits hs]
    cases hr : (Template.renderNodes (Builtin.table g) nodes data).error with
    | none => simp [Except.map, hr]
    | some e => simp [Except.map, hr, reportError_eq_error, RenderError.diagnostic_eq_error]

def Numeral.TooLong (n : Numeral) : Prop :=
  n.fraction = none ∧ 4300 < n.whole.length

lemma Numeral.tooLong_iff {n : Numeral} : n.TooLong ↔ ∃ limit, n.value = .error limit := by
  simp only [Reading.value_eq_error]
  constructor
  · rintro ⟨hf, hn⟩
    exact ⟨_, hf, hn, rfl⟩
  · rintro ⟨_, hf, hn, -⟩
    exact ⟨hf, hn⟩

lemma exists_ok_iff {ε α : Type} {x : Except ε α} : (∃ a, x = .ok a) ↔ ∀ e, x ≠ .error e := by
  cases x <;> simp

theorem answers_iff (g : Calendar.Setting) (source : String) (data : Value) :
    ((∃ v, (validate source).outcome = .ok v) ↔ ∀ n, Node.ComesTo source n → ¬ n.TooLong) ∧
      ((∃ t, (render g source data).outcome = .ok t) ↔
        (∀ n, Node.ComesTo source n → ¬ n.TooLong) ∧
          ∀ i : Int, Emits g source data (.int i) → ¬ Number.TooLong i) := by
  have hread : (∀ limit, ¬ ∃ n, Node.ComesTo source n ∧ n.value = .error limit) ↔
      ∀ n, Node.ComesTo source n → ¬ n.TooLong := by
    simp only [Numeral.tooLong_iff]
    constructor
    · rintro h n hn ⟨limit, hl⟩
      exact h limit ⟨n, hn, hl⟩
    · rintro h limit ⟨n, hn, hl⟩
      exact h n hn ⟨limit, hl⟩
  constructor
  · rw [exists_ok_iff, ← hread]
    simp only [ne_eq, validate_eq_error]
  · rw [exists_ok_iff, ← hread]
    simp only [ne_eq, render_eq_error, not_or]
    constructor
    · intro h
      exact ⟨fun limit => (h limit).1, fun i hi hl => (h .writing).2 ⟨i, hi, hl, rfl⟩⟩
    · rintro ⟨hr, hw⟩ limit
      refine ⟨hr limit, ?_⟩
      rintro ⟨i, hi, hl, -⟩
      exact hw i hi hl

def ones (k : Nat) : List Char :=
  List.replicate k '1'

lemma eq_of_mem_ones {c : Char} {k : Nat} (h : c ∈ ones k) : c = '1' :=
  List.eq_of_mem_replicate h

lemma scanChars_ones (k : Nat) :
    Lexeme.scanChars (ones (k + 1)) = .ok [.number ⟨false, ones (k + 1), none⟩] := by
  have hd : ∀ c ∈ ones (k + 1), Text.isDigit c := by
    intro c hc
    rw [eq_of_mem_ones hc]
    decide
  have hw : cutDigits? (ones (k + 1)) = some (ones (k + 1), []) := by
    rw [cutDigits?, List.takeWhile_eq_self_iff.2 hd, List.dropWhile_eq_nil_iff.2 hd]
    rfl
  have hc : Lexeme.cut? ('1' :: ones k) = some (.number ⟨false, ones (k + 1), none⟩, []) := by
    have hn : Numeral.cut? ('1' :: ones k) = some (⟨false, ones (k + 1), none⟩, []) := by
      have hu : Numeral.cutUnsigned? false (ones (k + 1)) =
          some (⟨false, ones (k + 1), none⟩, []) := by
        rw [Numeral.cutUnsigned?, hw]
      exact hu
    rw [Lexeme.cut?, hn]
  have hs := Lexeme.scanChars_of_cut? (by decide) hc
  rw [Lexeme.scanChars] at hs
  exact hs

lemma ofSource_ones (k : Nat) :
    Token.ofSource ("\x7b\x7b " ++ String.ofList (ones (k + 1)) ++ " \x7d\x7d") =
      .ok [⟨.output, String.ofList (ones (k + 1)), 1⟩] := by
  have hb : ∀ c ∈ ones (k + 1), ¬ Text.isBlank c := by
    intro c hc
    rw [eq_of_mem_ones hc]
    decide
  apply Token.ofSource_output
  · apply Delimiter.closes_cons_of_ne (by decide) (by decide)
    rw [String.toList_ofList]
    refine Delimiter.closes_append (fun c hc => ?_) Lexeme.closes_blank
    rw [eq_of_mem_ones hc]
    exact ⟨by decide, by decide⟩
  · intro c hc
    rw [String.toList_ofList] at hc
    exact hb c (List.mem_of_mem_head? hc)
  · intro c hc
    rw [String.toList_ofList] at hc
    exact hb c (List.mem_of_mem_getLast? hc)

lemma comesTo_ones (k : Nat) :
    Node.ComesTo ("\x7b\x7b " ++ String.ofList (ones (k + 1)) ++ " \x7d\x7d")
      ⟨false, ones (k + 1), none⟩ := by
  refine ⟨[], ⟨.output, String.ofList (ones (k + 1)), 1⟩, [], .empty, [], [], ofSource_ones k, rfl,
    ?_, _, _, rfl, .expression⟩
  rw [Token.row, Lexeme.scan, String.toList_ofList, scanChars_ones]
  rfl

theorem unanswered_long_number :
    let source := "\x7b\x7b " ++ String.ofList (ones 4301) ++ " \x7d\x7d"
    (validate source).outcome = .error (.reading 4301) ∧
      (render (.international ⟨0⟩) source .null).outcome = .error (.reading 4301) := by
  intro source
  have hmost : DigitLimit.most = 4300 := rfl
  have hlen : (ones 4301).length = 4301 := List.length_replicate
  have hn : Numeral.value ⟨false, ones 4301, none⟩ = .error (.reading 4301) := by
    refine Reading.value_eq_error.2 ⟨rfl, ?_, ?_⟩
    · rw [hlen, hmost]
      decide
    · rw [hlen]
  constructor
  · exact validate_eq_error.2 ⟨_, comesTo_ones 4300, hn⟩
  · exact render_eq_error.2 (.inl ⟨_, comesTo_ones 4300, hn⟩)

end Stencil
