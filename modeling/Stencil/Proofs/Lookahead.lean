import Mathlib.Data.List.Infix
import Stencil.Tree.Reading

/-! Readers look one lexeme ahead, so a number is converted exactly where a row that ends before it
lacks a value. -/

namespace Stencil

inductive Fault.WantsValue : Fault → Prop
  | expression : WantsValue .missingExpression
  | condition : WantsValue .missingCondition
  | value : WantsValue (.expected .value none)
  | index : WantsValue (.expected .index none)

namespace Reading

variable {α β : Type}

def Lacks (x : Except ReadError α) : Prop :=
  ∃ f line, x = .error (.malformed f line) ∧ f.WantsValue

def Follows (rest ms : List Lexeme) : Prop :=
  ms.head? = rest.head? ∨ ms = [] ∨ ∃ n post, ms = .number n :: post

/-- What holds of every reader at a row: where it succeeds, it has not looked past the next lexeme,
and where it fails for a number, it lacks a value without the number. -/
structure RegularAt (r : List Lexeme → Reading α) (ls : List Lexeme) : Prop where
  steady : ∀ a rest, r ls = found a rest →
    ∃ used, ls = used ++ rest ∧ ∀ ms, Follows rest ms → r (used ++ ms) = found a ms
  digits : ∀ e, (r ls).outcome = .error (.digits e) ↔
    ∃ pre n post, ls = pre ++ .number n :: post ∧ n.value = .error e ∧ Lacks (r pre).outcome

lemma follows_initial {pre rest : List Lexeme} (h : pre <+: rest) : Follows rest pre := by
  cases pre with
  | nil => exact .inr (.inl rfl)
  | cons l pre =>
    obtain ⟨post, rfl⟩ := h
    exact .inl rfl

lemma follows_append_number (rest : List Lexeme) (n : Numeral) (post : List Lexeme) :
    Follows rest (rest ++ .number n :: post) := by
  cases rest with
  | nil => exact .inr (.inr ⟨n, post, rfl⟩)
  | cons l rest => exact .inl rfl

lemma follows_append {rest ms : List Lexeme} (used : List Lexeme) (h : Follows rest ms) :
    Follows (used ++ rest) (used ++ ms) := by
  cases used with
  | nil => exact h
  | cons l used => exact .inl rfl

lemma not_lacks_ok (a : α) : ¬ Lacks (.ok a : Except ReadError α) := by
  rintro ⟨f, line, h, -⟩
  cases h

lemma not_lacks_digits (e : DigitLimit) : ¬ Lacks (.error (.digits e) : Except ReadError α) := by
  rintro ⟨f, line, h, -⟩
  cases h

lemma not_lacks_malformed {f : Fault} {line : Option Int} (hf : ¬ f.WantsValue) :
    ¬ Lacks (.error (.malformed f line) : Except ReadError α) := by
  rintro ⟨g, line', h, hg⟩
  cases h
  exact hf hg

lemma exists_found {r : Reading α} {a : α} (h : r.outcome = .ok a) : ∃ rest, r = found a rest := by
  rcases r with ⟨_, rest⟩
  cases h
  exact ⟨rest, rfl⟩

lemma andThen_found {k : α → List Lexeme → Reading β} (a : α) (ls : List Lexeme) :
    (found a ls).andThen k = k a ls := rfl

lemma andThen_error {r : Reading α} {k : α → List Lexeme → Reading β} {e : ReadError}
    (h : r.outcome = .error e) : (r.andThen k).outcome = .error e := by
  rw [andThen, h]

variable {r : List Lexeme → Reading α} {ls : List Lexeme}

lemma regularAt_nil {f : Fault} {line : Option Int}
    (h : (r []).outcome = .error (.malformed f line)) : RegularAt r [] where
  steady a rest ha := by
    rw [ha] at h
    cases h
  digits e := by
    rw [h]
    constructor
    · intro he
      cases he
    · rintro ⟨pre, n, post, hp, -⟩
      simp at hp

lemma regularAt_stop {a : α} (h : ∀ ms, Follows ls ms → r ms = found a ms) : RegularAt r ls where
  steady b rest hb := by
    have hr := (h ls (.inl rfl)).symm.trans hb
    cases hr
    exact ⟨[], rfl, h⟩
  digits e := by
    rw [h ls (.inl rfl)]
    constructor
    · intro he
      cases he
    · rintro ⟨pre, n, post, rfl, -, hl⟩
      rw [h pre (follows_initial (List.prefix_append _ _))] at hl
      exact (not_lacks_ok a hl).elim

lemma regularAt_malformed
    (h : ∀ ms, ∃ f line, (r ms).outcome = .error (.malformed f line) ∧ ¬ f.WantsValue) :
    RegularAt r ls where
  steady a rest ha := by
    obtain ⟨f, line, hf, -⟩ := h ls
    rw [ha] at hf
    cases hf
  digits e := by
    obtain ⟨f, line, hf, -⟩ := h ls
    rw [hf]
    constructor
    · intro he
      cases he
    · rintro ⟨pre, n, post, -, -, hl⟩
      obtain ⟨g, line', hg, hn⟩ := h pre
      rw [hg] at hl
      exact (not_lacks_malformed hn hl).elim

lemma regularAt_cons {l : Lexeme} (h : RegularAt (fun ms => r (l :: ms)) ls)
    (hl : ∀ n e, l = .number n → n.value = .error e → ¬ Lacks (r []).outcome) :
    RegularAt r (l :: ls) where
  steady a rest ha := by
    obtain ⟨used, rfl, hu⟩ := h.steady a rest ha
    exact ⟨l :: used, rfl, hu⟩
  digits e := by
    rw [h.digits e]
    constructor
    · rintro ⟨pre, n, post, rfl, hn, hp⟩
      exact ⟨l :: pre, n, post, rfl, hn, hp⟩
    · rintro ⟨pre, n, post, hp, hn, hlack⟩
      cases pre with
      | nil => exact (hl n e (List.cons.inj hp).1 hn hlack).elim
      | cons m pre =>
        cases hp
        exact ⟨pre, n, post, rfl, hn, hlack⟩

lemma regularAt_number {n : Numeral} {e : DigitLimit} (hn : n.value = .error e)
    (hr : Lacks (r []).outcome) (h : ∀ ms, (r (.number n :: ms)).outcome = .error (.digits e)) :
    RegularAt r (.number n :: ls) where
  steady a rest ha := by
    have he := h ls
    rw [ha] at he
    cases he
  digits e' := by
    rw [h ls]
    constructor
    · intro he
      cases he
      exact ⟨[], n, ls, rfl, hn, hr⟩
    · rintro ⟨pre, m, post, hp, hm, hlack⟩
      cases pre with
      | nil =>
        cases hp
        rw [hn] at hm
        cases hm
        rfl
      | cons l pre =>
        cases hp
        rw [h pre] at hlack
        exact (not_lacks_digits e hlack).elim

lemma RegularAt.andThen_eq {a : α} (h : RegularAt r ls) (ha : (r ls).outcome = .ok a)
    (k : α → List Lexeme → Reading β) :
    ∃ used mid, ls = used ++ mid ∧ ∀ ms, Follows mid ms → (r (used ++ ms)).andThen k = k a ms := by
  obtain ⟨mid, ha⟩ := exists_found ha
  obtain ⟨used, rfl, hs⟩ := h.steady a mid ha
  refine ⟨used, mid, rfl, ?_⟩
  intro ms hm
  rw [hs ms hm, andThen_found]

lemma exists_number_of_andThen {k : α → List Lexeme → Reading β} {e : DigitLimit}
    (hr : RegularAt r ls) (hk : ∀ a ms, ms.length ≤ ls.length → RegularAt (k a) ms)
    (h : ((r ls).andThen k).outcome = .error (.digits e)) :
    ∃ pre n post, ls = pre ++ .number n :: post ∧ n.value = .error e ∧
      Lacks ((r pre).andThen k).outcome := by
  cases ho : (r ls).outcome with
  | error e' =>
    rw [andThen_error ho] at h
    cases h
    obtain ⟨pre, n, post, hp, hn, f, line, hl, hw⟩ := (hr.digits e).1 ho
    exact ⟨pre, n, post, hp, hn, f, line, andThen_error hl, hw⟩
  | ok a =>
    obtain ⟨used, mid, rfl, hs⟩ := hr.andThen_eq ho k
    rw [hs mid (.inl rfl)] at h
    obtain ⟨pre, n, post, rfl, hn, hlack⟩ := ((hk a mid (by simp)).digits e).1 h
    refine ⟨used ++ pre, n, post, by rw [List.append_assoc], hn, ?_⟩
    rw [hs pre (follows_initial (List.prefix_append _ _))]
    exact hlack

lemma andThen_eq_digits {k : α → List Lexeme → Reading β} {pre post : List Lexeme} {n : Numeral}
    {e : DigitLimit} (hr : ∀ ms, ms.length ≤ (pre ++ .number n :: post).length → RegularAt r ms)
    (hk : ∀ a ms, ms.length ≤ (pre ++ .number n :: post).length → RegularAt (k a) ms)
    (hn : n.value = .error e) (h : Lacks ((r pre).andThen k).outcome) :
    ((r (pre ++ .number n :: post)).andThen k).outcome = .error (.digits e) := by
  cases ho : (r pre).outcome with
  | error e' =>
    rw [andThen_error ho] at h
    obtain ⟨f, line, hf, hw⟩ := h
    cases hf
    exact andThen_error (((hr _ (Nat.le_refl _)).digits e).2 ⟨pre, n, post, rfl, hn, f, line, ho, hw⟩)
  | ok a =>
    obtain ⟨used, mid, rfl, hs⟩ := (hr pre (by simp)).andThen_eq ho k
    rw [hs mid (.inl rfl)] at h
    rw [List.append_assoc, hs _ (follows_append_number mid n post)]
    exact ((hk a _ (by simp)).digits e).2 ⟨mid, n, post, rfl, hn, h⟩

lemma regularAt_andThen {k : α → List Lexeme → Reading β}
    (hr : ∀ ms, ms.length ≤ ls.length → RegularAt r ms)
    (hk : ∀ a ms, ms.length ≤ ls.length → RegularAt (k a) ms) :
    RegularAt (fun ms => (r ms).andThen k) ls where
  steady b rest hb := by
    cases ho : (r ls).outcome with
    | error e =>
      have he := andThen_error (k := k) ho
      rw [hb] at he
      cases he
    | ok a =>
      obtain ⟨used, mid, rfl, hs⟩ := (hr ls (Nat.le_refl _)).andThen_eq ho k
      rw [hs mid (.inl rfl)] at hb
      obtain ⟨used', rfl, hs'⟩ := (hk a mid (by simp)).steady b rest hb
      refine ⟨used ++ used', by rw [List.append_assoc], ?_⟩
      intro ms hm
      rw [List.append_assoc, hs _ (follows_append used' hm)]
      exact hs' ms hm
  digits e := by
    constructor
    · exact exists_number_of_andThen (hr ls (Nat.le_refl _)) hk
    · rintro ⟨pre, n, post, rfl, hn, hlack⟩
      exact andThen_eq_digits hr hk hn hlack

lemma regularAt_map {f : α → β} (hr : ∀ ms, ms.length ≤ ls.length → RegularAt r ms) :
    RegularAt (fun ms => (r ms).map f) ls := by
  have hm : (fun ms => (r ms).map f) = fun ms => (r ms).andThen fun a => found (f a) := by
    funext ms
    rcases r ms with ⟨_ | a, rest⟩ <;> rfl
  rw [hm]
  exact regularAt_andThen hr fun a ms _ => regularAt_stop fun _ _ => rfl

end Reading

end Stencil
