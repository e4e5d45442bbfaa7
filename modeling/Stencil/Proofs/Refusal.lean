import Stencil.Proofs.Conversion
import Stencil.Proofs.Derivation

/-! How the readers of expressions fail: with a fault on their line, or for a number. -/

namespace Stencil

def ReadError.OnLine (line : Option Int) : ReadError → Prop
  | .malformed f l => l = line ∧ f.OfToken
  | .digits _ => True

namespace Reading

variable {α β : Type} (line : Option Int)

def FailsOn (r : Reading α) : Prop :=
  ∀ e, r.outcome = .error e → e.OnLine line

variable {line}

lemma failsOn_found (a : α) (ls : List Lexeme) : FailsOn line (found a ls) :=
  nofun

lemma failsOn_failed {f : Fault} (ls : List Lexeme) (h : f.OfToken) :
    FailsOn line (failed line f ls : Reading α) := by
  intro e he
  cases he
  exact ⟨rfl, h⟩

lemma failsOn_expected (wanted : Wanted) (next : Option Lexeme) (ls : List Lexeme) :
    FailsOn line (failed line (.expected wanted next) ls : Reading α) :=
  failsOn_failed ls trivial

lemma failsOn_digits (limit : DigitLimit) (ls : List Lexeme) :
    FailsOn line (⟨.error (.digits limit), ls⟩ : Reading α) := by
  intro e he
  cases he
  trivial

lemma FailsOn.map {r : Reading α} (h : FailsOn line r) (f : α → β) : FailsOn line (r.map f) := by
  rcases r with ⟨e | a, ls⟩
  · intro e' he
    cases he
    exact h e rfl
  · exact failsOn_found (f a) ls

lemma FailsOn.andThen {r : Reading α} {k : α → List Lexeme → Reading β} (h : FailsOn line r)
    (hk : ∀ a, FailsOn line (k a r.rest)) : FailsOn line (r.andThen k) := by
  rcases r with ⟨e | a, ls⟩
  · intro e' he
    cases he
    exact h e rfl
  · exact hk a

variable (line)

lemma failsOn_identifier (ls : List Lexeme) : FailsOn line (identifier line ls) := by
  unfold identifier
  split
  · split
    · exact failsOn_failed _ trivial
    · exact failsOn_found _ _
  · exact failsOn_failed _ trivial

lemma failsOn_expectName (s : String) (ls : List Lexeme) :
    FailsOn line (expectName line s ls) := by
  unfold expectName
  split
  · split
    · exact failsOn_found _ _
    · exact failsOn_failed _ trivial
  · exact failsOn_failed _ trivial

lemma failsOn_expectPunct (s : String) (ls : List Lexeme) :
    FailsOn line (expectPunct line s ls) := by
  unfold expectPunct
  split
  · exact failsOn_found _ _
  · exact failsOn_failed _ trivial

lemma failsOn_steps (ls : List Lexeme) : FailsOn line (steps line ls) := by
  fun_induction steps line ls with
  | case1 s ls ih => exact ih.map _
  | case2 ls => exact failsOn_expected _ _ _
  | case3 l ls hb => exact failsOn_expected _ _ _
  | case4 l ls e hb => exact failsOn_digits _ _
  | case5 l s hb ls ih => exact ih.map _
  | case6 l ls s hb hls => exact failsOn_expected _ _ _
  | case7 => exact failsOn_expected _ _ _
  | case8 ls => exact failsOn_found _ _

lemma failsOn_path (ls : List Lexeme) : FailsOn line (path line ls) :=
  (failsOn_identifier line ls).andThen fun _ => (failsOn_steps line _).map _

lemma failsOn_literal (ls : List Lexeme) : FailsOn line (literal line ls) := by
  unfold literal
  split
  · exact failsOn_found _ _
  · split
    · exact failsOn_found _ _
    · exact failsOn_digits _ _
  · split
    · exact failsOn_found _ _
    · exact failsOn_failed _ trivial
  · exact failsOn_failed _ trivial

lemma failsOn_operand (ls : List Lexeme) : FailsOn line (operand line ls) := by
  unfold operand
  split
  · exact (failsOn_literal line _).map _
  · exact (failsOn_literal line _).map _
  · split
    · exact (failsOn_literal line _).map _
    · split
      · exact failsOn_failed _ trivial
      · exact (failsOn_path line _).map _
  · exact failsOn_failed _ trivial

lemma failsOn_many {c : Char} {item : List Lexeme → Reading α}
    {many : List Lexeme → Reading (List α)} (hi : ∀ ls, FailsOn line (item ls))
    (hl : ∀ ls, (item ls).rest.length ≤ ls.length)
    (hc : ∀ ls, many (.punct c :: ls) = (item ls).andThen fun a ls => (many ls).map (a :: ·))
    (hs : ∀ ls, ls.head? ≠ some (.punct c) → many ls = found [] ls) (ls : List Lexeme) :
    FailsOn line (many ls) := by
  induction hn : ls.length using Nat.strongRecOn generalizing ls with
  | _ n ih =>
    by_cases hh : ls.head? = some (.punct c)
    · obtain ⟨ls, rfl⟩ := List.head?_eq_some_iff.1 hh
      have hlt : (item ls).rest.length < n := by
        have h := hl ls
        rw [List.length_cons] at hn
        omega
      rw [hc]
      exact (hi ls).andThen fun a => (ih _ hlt _ rfl).map _
    · rw [hs ls hh]
      exact failsOn_found _ _

lemma failsOn_arguments (ls : List Lexeme) : FailsOn line (arguments line ls) := by
  have hm : ∀ ls, FailsOn line (moreArguments line ls) :=
    failsOn_many line (failsOn_operand line) (length_operand line) (moreArguments_comma line)
      (moreArguments_of_head line)
  unfold arguments
  split
  · exact failsOn_found _ _
  · refine (failsOn_operand line ls).andThen fun e => ?_
    exact (hm _).andThen fun es => (failsOn_expectPunct line ")" _).map _

lemma failsOn_filterCall (ls : List Lexeme) : FailsOn line (filterCall line ls) := by
  refine (failsOn_identifier line ls).andThen fun name => ?_
  split
  · exact (failsOn_arguments line _).map _
  · exact failsOn_found _ _

lemma failsOn_chain (ls : List Lexeme) : FailsOn line (chain line ls) := by
  have hm : ∀ ls, FailsOn line (filterCalls line ls) :=
    failsOn_many line (failsOn_filterCall line) (length_filterCall line) (filterCalls_bar line)
      (filterCalls_of_head line)
  cases ls with
  | nil => exact failsOn_failed _ trivial
  | cons l ls => exact (failsOn_operand line _).andThen fun e => (hm _).map _

lemma failsOn_condition (ls : List Lexeme) : FailsOn line (condition line ls) := by
  unfold condition
  split
  · exact failsOn_failed _ trivial
  · exact (failsOn_operand line _).map _
  · refine (failsOn_operand line _).andThen fun left => ?_
    split
    · exact (failsOn_operand line _).map _
    · exact failsOn_found _ _

lemma FailsOn.complete {r : Reading α} (h : FailsOn line r) {e : ReadError}
    (he : complete line r = .error e) : e.OnLine line := by
  have hc : FailsOn line (r.andThen fun a ls => (expectEnd line ls).map fun _ => a) := by
    refine h.andThen fun a => FailsOn.map ?_ _
    cases r.rest with
    | nil => exact failsOn_found _ _
    | cons l ls => exact failsOn_failed _ trivial
  exact hc e he

/-- What an expression is refused with: a fault on its line, or a whole number in its row that has
more than 4300 digits. -/
inductive Refuses (ls : List Lexeme) : ReadError → Prop
  | malformed {f} : (∀ d, f ≠ .unterminated d) → Refuses ls (.malformed f line)
  | tooLong {n : Numeral} : .number n ∈ ls → n.fraction = none → 4300 < n.whole.length →
      Refuses ls (.digits (.reading n.whole.length))

lemma refuses_of_error {r : List Lexeme → Reading α} (hr : ∀ ls, RegularAt r ls)
    (hf : ∀ ls, FailsOn line (r ls)) {ls : List Lexeme} {e : ReadError}
    (h : complete line (r ls) = .error e) : Refuses line ls e := by
  have hl : e.OnLine line := (hf ls).complete line h
  cases e with
  | malformed f l =>
    obtain ⟨rfl, ht⟩ := hl
    refine .malformed fun d hd => ?_
    rwa [hd] at ht
  | digits limit =>
    obtain ⟨pre, n, post, rfl, hn, -⟩ := (converts_complete line hr ls limit).1 h
    obtain ⟨hw, hlong, rfl⟩ := value_eq_error.1 hn
    exact .tooLong (by simp) hw hlong

end Reading

namespace Grammar

open Reading

lemma wholeChain_eq (line : Option Int) {source : String} {ls : List Lexeme}
    (hs : Lexeme.scan line source = .ok ls) :
    wholeChain line source = complete line (chain line ls) := by
  rw [wholeChain, hs]
  rfl

lemma wholeCondition_eq (line : Option Int) {source : String} {ls : List Lexeme}
    (hs : Lexeme.scan line source = .ok ls) :
    wholeCondition line source = complete line (condition line ls) := by
  rw [wholeCondition, hs]
  rfl

lemma chain_eq_ok {line : Option Int} {ls : List Lexeme} {v : Expr × List FilterCall} :
    complete line (chain line ls) = .ok v ↔ ∃ t : Chain, t.lexemes = ls ∧ t.value line = v := by
  rw [complete_eq_ok]
  exact (exact_chain line).whole

lemma condition_eq_ok {line : Option Int} {ls : List Lexeme} {e : Expr} :
    complete line (condition line ls) = .ok e ↔ ∃ t : Condition, t.lexemes = ls ∧ t.expr = e := by
  rw [complete_eq_ok, condition_eq_found]

lemma wholeChain_of_scan {line : Option Int} {source : String} (t : Chain)
    (hs : Lexeme.scan line source = .ok t.lexemes) :
    wholeChain line source = .ok (t.value line) := by
  rw [wholeChain_eq line hs]
  exact chain_eq_ok.2 ⟨t, rfl, rfl⟩

lemma refuses_of_underived {T α : Type} {lexemes : T → List Lexeme} {value : T → α}
    {line : Option Int} {r : List Lexeme → Reading α} {ls : List Lexeme}
    (hr : ∀ ls, RegularAt r ls) (hf : ∀ ls, FailsOn line (r ls))
    (hd : ∀ a, complete line (r ls) = .ok a → ∃ t, lexemes t = ls ∧ value t = a)
    (hn : ∀ t, lexemes t ≠ ls) : ∃ e, complete line (r ls) = .error e ∧ Refuses line ls e := by
  cases h : complete line (r ls) with
  | ok a =>
    obtain ⟨t, ht, -⟩ := hd a h
    exact (hn t ht).elim
  | error e => exact ⟨e, rfl, refuses_of_error line hr hf h⟩

/-- A directive is read exactly as its grammar derives the row of its lexemes, which it does in one
way at most; any other row is refused. -/
theorem whole_eq_ok_iff (line : Option Int) {source : String} {ls : List Lexeme}
    (hs : Lexeme.scan line source = .ok ls) :
    (∀ e calls, wholeChain line source = .ok (e, calls) ↔
        ∃ t : Chain, t.lexemes = ls ∧ t.value line = (e, calls)) ∧
      (∀ e, wholeCondition line source = .ok e ↔ ∃ t : Condition, t.lexemes = ls ∧ t.expr = e) ∧
      ((∀ t : Chain, t.lexemes ≠ ls) →
        ∃ e, wholeChain line source = .error e ∧ Refuses line ls e) ∧
      ((∀ t : Condition, t.lexemes ≠ ls) →
        ∃ e, wholeCondition line source = .error e ∧ Refuses line ls e) ∧
      (∀ t u : Chain, t.lexemes = u.lexemes → t = u) ∧
      ∀ t u : Condition, t.lexemes = u.lexemes → t = u := by
  rw [wholeChain_eq line hs, wholeCondition_eq line hs]
  refine ⟨fun e calls => chain_eq_ok, fun e => condition_eq_ok, fun hn => ?_, fun hn => ?_,
    fun _ _ h => (exact_chain line).injective h, fun _ _ h => lexemes_condition_injective h⟩
  · exact refuses_of_underived (regularAt_chain line) (failsOn_chain line)
      (fun _ => chain_eq_ok.1) hn
  · exact refuses_of_underived (regularAt_condition line) (failsOn_condition line)
      (fun _ => condition_eq_ok.1) hn

theorem whole_eq_ok_iff_call :
    let source := "x['a'].not|f(0,null)"
    let ls : List Lexeme :=
      [.name "x", .punct '[', .quoted '\'' ['a'], .punct ']', .punct '.', .name "not", .punct '|',
       .name "f", .punct '(', .number ⟨false, ['0'], none⟩, .punct ',', .name "null", .punct ')']
    Lexeme.scan (some 1) source = .ok ls ∧
      wholeChain (some 1) source =
        .ok (.path ⟨"x", [.key "a", .key "not"]⟩,
          [⟨"f", [.literal (.int 0), .literal .null], some 1⟩]) := by
  intro source ls
  have hs : Lexeme.scan (some 1) source = .ok ls := by decide +kernel
  let x : Path := ⟨⟨"x", by decide⟩, [.key '\'' ['a'], .property "not"]⟩
  let f : Call := ⟨⟨"f", by decide⟩,
    .listed [.literal (.integer ⟨false, ['0'], by decide⟩), .literal (.word .null)]⟩
  refine ⟨hs, ((whole_eq_ok_iff (some 1) hs).1 _ _).2 ⟨⟨.path x (by decide), [f]⟩, rfl, ?_⟩⟩
  rfl

end Grammar

end Stencil
