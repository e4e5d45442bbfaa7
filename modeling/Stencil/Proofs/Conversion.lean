import Stencil.Proofs.Outcome
import Stencil.Proofs.Readers
import Stencil.Proofs.Tokenizing

/-! Where reading a template comes to a number. -/

namespace Stencil

open Outcome

def Fault.OfToken : Fault → Prop
  | .unterminated _ => False
  | .unclosed _ => False
  | _ => True

namespace ReadError

def Settled (e : ReadError) : Prop :=
  ∃ f line, e = .malformed f line ∧ ¬ f.WantsValue

def Placed (line : Int) (e : ReadError) : Prop :=
  ∃ f : Fault, e = .malformed f (some line) ∧ f.OfToken ∧ ¬ f.WantsValue

lemma Placed.settled {line : Int} {e : ReadError} (h : e.Placed line) : e.Settled := by
  obtain ⟨f, he, -, hf⟩ := h
  exact ⟨f, some line, he, hf⟩

lemma not_settled_digits (e : DigitLimit) : ¬ Settled (.digits e) := by
  rintro ⟨f, line, h, -⟩
  cases h

lemma not_settled_malformed {f : Fault} (line : Option Int) (hf : f.WantsValue) :
    ¬ Settled (.malformed f line) := by
  rintro ⟨g, line', h, hg⟩
  cases h
  exact hg hf

end ReadError

namespace Reading

variable {α β : Type}

def Converts (F : List Lexeme → Except ReadError α) : Prop :=
  ∀ ls e, F ls = .error (.digits e) ↔
    ∃ pre n post, ls = pre ++ .number n :: post ∧ n.value = .error e ∧ Lacks (F pre)

lemma converts_of_settled {F : List Lexeme → Except ReadError α}
    (h : ∀ ls e, F ls = .error e → e.Settled) : Converts F := by
  intro ls e
  constructor
  · intro he
    exact (ReadError.not_settled_digits e (h ls _ he)).elim
  · rintro ⟨pre, n, post, -, -, f, line, hf, hw⟩
    exact (ReadError.not_settled_malformed line hw (h pre _ hf)).elim

lemma converts_congr {F : List Lexeme → Except ReadError α} {G : List Lexeme → Except ReadError β}
    (h : ∀ ls e, ¬ e.Settled → (G ls = .error e ↔ F ls = .error e)) (hF : Converts F) :
    Converts G := by
  have hl : ∀ ls, Lacks (G ls) ↔ Lacks (F ls) := by
    intro ls
    constructor
    · rintro ⟨f, line, hf, hw⟩
      exact ⟨f, line, (h ls _ (ReadError.not_settled_malformed line hw)).1 hf, hw⟩
    · rintro ⟨f, line, hf, hw⟩
      exact ⟨f, line, (h ls _ (ReadError.not_settled_malformed line hw)).2 hf, hw⟩
  intro ls e
  simp only [h ls _ (ReadError.not_settled_digits e), hF ls e, hl]

lemma converts_bind {F : List Lexeme → Except ReadError α} {k : α → Except ReadError β}
    (hF : Converts F) (hk : ∀ a e, k a = .error e → e.Settled) : Converts fun ls => F ls >>= k := by
  refine converts_congr (fun ls e he => ?_) hF
  rw [bind_eq_error]
  constructor
  · rintro (h | ⟨a, -, h⟩)
    · exact h
    · exact (he (hk a e h)).elim
  · exact .inl

lemma complete_eq_error {line : Option Int} {r : Reading α} {e : ReadError} (he : ¬ e.Settled) :
    complete line r = .error e ↔ r.outcome = .error e := by
  rcases r with ⟨e' | a, ls⟩
  · exact Iff.rfl
  · cases ls with
    | nil => simp [complete, andThen, map, expectEnd, found, Except.map]
    | cons l ls =>
      constructor
      · intro h
        cases h
        have hw : ¬ (Fault.unexpected l).WantsValue := by
          intro hw
          cases hw
        exact (he ⟨_, _, rfl, hw⟩).elim
      · intro h
        cases h

lemma converts_complete {r : List Lexeme → Reading α} (line : Option Int)
    (h : ∀ ls, RegularAt r ls) : Converts fun ls => complete line (r ls) :=
  converts_congr (fun _ _ he => complete_eq_error he) fun ls e => (h ls).digits e

lemma complete_found_placed {line : Int} {a : α} {ls : List Lexeme} {e : ReadError}
    (h : complete (some line) (found a ls) = .error e) : e.Placed line := by
  cases ls with
  | nil => cases h
  | cons l ls =>
    cases h
    exact ⟨_, rfl, trivial, nofun⟩

end Reading

namespace Builder

open Reading

lemma regularAt_loopHeader (line : Option Int) (ls : List Lexeme) :
    RegularAt (loopHeader line) ls := by
  refine regularAt_andThen (fun ms _ => regularAt_identifier line ms) fun item ms _ => ?_
  refine regularAt_andThen (fun ns _ => regularAt_expectName line "in" ns) fun _ ns _ => ?_
  exact regularAt_map fun os _ => regularAt_path line os

lemma regularAt_bindingHeader (line : Option Int) (ls : List Lexeme) :
    RegularAt (bindingHeader line) ls := by
  refine regularAt_andThen (fun ms _ => regularAt_identifier line ms) fun name ms _ => ?_
  refine regularAt_andThen (fun ns _ => regularAt_expectPunct line "=" ns) fun _ ns _ => ?_
  exact regularAt_map fun os _ => regularAt_chain line os

lemma enter_placed {o : OpenBlock} {b : Builder} {e : ReadError} (h : b.enter o = .error e) :
    e.Placed o.line := by
  rw [enter] at h
  split at h
  · cases h
  · cases h
    exact ⟨_, rfl, trivial, nofun⟩

lemma openBranch_placed {line : Int} {keyword : String} {b : Builder} {e : ReadError}
    (h : b.openBranch line keyword = .error e) : e.Placed line := by
  rw [openBranch] at h
  split at h
  · split at h
    · cases h
    · cases h
      exact ⟨_, rfl, trivial, nofun⟩
  · cases h
    exact ⟨_, rfl, trivial, nofun⟩

lemma leave_placed {line : Int} {block : Block} {b : Builder} {e : ReadError}
    (h : b.leave line block = .error e) : e.Placed line := by
  rw [leave] at h
  split at h
  · cases h
    exact ⟨_, rfl, trivial, nofun⟩
  · split at h
    · cases h
    · cases h
      exact ⟨_, rfl, trivial, nofun⟩

lemma bind_found_placed {α β : Type} {x : Except ReadError α} {line : Int}
    {ls : List Lexeme} {k : α → Except ReadError β} {e : ReadError}
    (hx : x = .error e → e.Placed line)
    (h : (do let a ← x; complete (some line) (found () ls); k a) = .error e)
    (hk : ∀ a, k a ≠ .error e) : e.Placed line := by
  rcases bind_eq_error.1 h with h | ⟨a, -, h⟩
  · exact hx h
  rcases bind_eq_error.1 h with h | ⟨_, -, h⟩
  · exact complete_found_placed h
  · exact (hk a h).elim

lemma converts_tag (line : Int) (keyword : String) (b : Builder) :
    Converts fun ls => b.tag line keyword ls := by
  unfold tag
  split
  · exact converts_bind (converts_complete _ (regularAt_condition _)) fun _ _ h =>
      (enter_placed h).settled
  · cases hb : b.openBranch line "elif" with
    | error e =>
      refine converts_of_settled fun ls e' h => ?_
      cases h
      exact (openBranch_placed hb).settled
    | ok p =>
      refine converts_bind (converts_complete _ (regularAt_condition _)) fun test e h => ?_
      cases h
  · exact converts_of_settled fun ls e h =>
      (bind_found_placed openBranch_placed h nofun).settled
  · exact converts_of_settled fun ls e h => (bind_found_placed leave_placed h nofun).settled
  · exact converts_bind (converts_complete _ (regularAt_loopHeader _)) fun _ _ h =>
      (enter_placed h).settled
  · exact converts_of_settled fun ls e h => (bind_found_placed leave_placed h nofun).settled
  · refine converts_bind (converts_complete _ (regularAt_bindingHeader _)) fun p e h => ?_
    cases h
  · refine converts_of_settled fun ls e h => ?_
    cases h
    exact ⟨_, _, rfl, nofun⟩
  · refine converts_of_settled fun ls e h => ?_
    cases h
    exact ⟨_, _, rfl, nofun⟩

end Builder

namespace Token

lemma ofSource_settled {source : String} {e : ReadError} (h : ofSource source = .error e) :
    e.Settled := by
  obtain ⟨ps, d, -, rfl⟩ := ofSource_eq_error h
  exact ⟨_, _, rfl, nofun⟩

def row (t : Token) : Except ReadError (List Lexeme) :=
  match t.kind with
  | .output => Lexeme.scan (some t.line) t.value
  | .tag => Lexeme.scan (some t.line) (String.ofList (Text.cutWord t.value.toList).2)
  | _ => .ok []

lemma row_placed {t : Token} {e : ReadError} (h : t.row = .error e) : e.Placed t.line := by
  have hs : ∀ s, Lexeme.scan (some t.line) s = .error e → e.Placed t.line := by
    intro s h
    rw [Lexeme.scan] at h
    cases hc : Lexeme.scanChars s.toList with
    | error c =>
      rw [hc] at h
      cases h
      exact ⟨_, rfl, trivial, nofun⟩
    | ok ls =>
      rw [hc] at h
      cases h
  rw [row] at h
  split at h
  · exact hs _ h
  · exact hs _ h
  · cases h

end Token

namespace Builder

open Reading

def read (b : Builder) (t : Token) (ls : List Lexeme) : Except ReadError Builder :=
  match t.kind with
  | .output => do
    let (e, filters) ← complete (some t.line) (chain (some t.line) ls)
    return b.add (.output e filters (some t.line))
  | .tag => b.tag t.line (String.ofList (Text.cutWord t.value.toList).1) ls
  | .text => .ok (b.add (.text t.value))
  | .other name => .error (.malformed (.unknownToken name) (some t.line))

lemma token_eq_read (b : Builder) (t : Token) : b.token t = t.row >>= b.read t := by
  unfold token Token.row read
  rcases t with ⟨kind, value, line⟩
  cases kind with
  | output => simp [Reading.wholeChain]
  | _ => rfl

lemma converts_read (b : Builder) (t : Token) : Converts (b.read t) := by
  rcases t with ⟨kind, value, line⟩
  cases kind with
  | output =>
    refine converts_bind (converts_complete _ (regularAt_chain _)) fun p e h => ?_
    cases h
  | tag => exact converts_tag line _ b
  | text =>
    refine converts_of_settled fun ls e h => ?_
    cases h
  | other name =>
    refine converts_of_settled fun ls e h => ?_
    cases h
    exact ⟨_, _, rfl, nofun⟩

lemma token_eq_digits {b : Builder} {t : Token} {e : DigitLimit} :
    b.token t = .error (.digits e) ↔
      ∃ pre n post, t.row = .ok (pre ++ .number n :: post) ∧ n.value = .error e ∧
        Lacks (b.read t pre) := by
  rw [token_eq_read, bind_eq_error]
  constructor
  · rintro (h | ⟨ls, hr, h⟩)
    · exact (ReadError.not_settled_digits e (Token.row_placed h).settled).elim
    · obtain ⟨pre, n, post, rfl, hn, hl⟩ := (converts_read b t ls e).1 h
      exact ⟨pre, n, post, hr, hn, hl⟩
  · rintro ⟨pre, n, post, hr, hn, hl⟩
    exact .inr ⟨_, hr, (converts_read b t _ e).2 ⟨pre, n, post, rfl, hn, hl⟩⟩

lemma finish_eq_error {b : Builder} {e : ReadError} (h : b.finish = .error e) :
    ∃ o os, b.blocks = o :: os ∧ e = .malformed (.unclosed o.block) (some o.line) := by
  rw [finish] at h
  split at h
  · cases h
  · rename_i o os hb
    cases h
    exact ⟨o, os, hb, rfl⟩

lemma finish_settled {b : Builder} {e : ReadError} (h : b.finish = .error e) : e.Settled := by
  obtain ⟨o, os, -, rfl⟩ := finish_eq_error h
  exact ⟨_, _, rfl, nofun⟩

end Builder

namespace Node

open Reading

/-- Reading a template comes to a numeral: all tokens before its directive are read, and the row
before it lacks a value or an index. -/
def ComesTo (source : String) (n : Numeral) : Prop :=
  ∃ ts t us b pre post, Token.ofSource source = .ok (ts ++ t :: us) ∧
    ts.foldlM Builder.token .empty = .ok b ∧ t.row = .ok (pre ++ .number n :: post) ∧
      Lacks (b.read t pre)

lemma ofTokens_eq_digits {ts : List Token} {e : DigitLimit} :
    ofTokens ts = .error (.digits e) ↔
      ∃ pre t post b, ts = pre ++ t :: post ∧ pre.foldlM Builder.token .empty = .ok b ∧
        b.token t = .error (.digits e) := by
  rw [ofTokens, bind_eq_error, foldlM_eq_error]
  constructor
  · rintro (h | ⟨b, -, h⟩)
    · exact h
    · exact (ReadError.not_settled_digits e (Builder.finish_settled h)).elim
  · exact .inl

lemma ofSource_eq_digits {source : String} {e : DigitLimit} :
    ofSource source = .error (.digits e) ↔ ∃ n, ComesTo source n ∧ n.value = .error e := by
  rw [ofSource, bind_eq_error]
  constructor
  · rintro (h | ⟨ts, hs, h⟩)
    · exact (ReadError.not_settled_digits e (Token.ofSource_settled h)).elim
    · obtain ⟨pre, t, post, b, rfl, hb, ht⟩ := ofTokens_eq_digits.1 h
      obtain ⟨row, n, rest, hr, hn, hl⟩ := Builder.token_eq_digits.1 ht
      exact ⟨n, ⟨pre, t, post, b, row, rest, hs, hb, hr, hl⟩, hn⟩
  · rintro ⟨n, ⟨pre, t, post, b, row, rest, hs, hb, hr, hl⟩, hn⟩
    have ht := Builder.token_eq_digits.2 ⟨row, n, rest, hr, hn, hl⟩
    exact .inr ⟨_, hs, ofTokens_eq_digits.2 ⟨pre, t, post, b, rfl, hb, ht⟩⟩

end Node

end Stencil
