import Stencil.Proofs.Lookahead
import Stencil.Tree.Builder

/-! Every reader of a row of lexemes is regular. -/

namespace Stencil

namespace Reading

variable (line : Option Int)

lemma regularAt_identifier (ls : List Lexeme) : RegularAt (identifier line) ls := by
  cases ls with
  | nil => exact regularAt_nil rfl
  | cons l ls =>
    refine regularAt_cons ?_ fun _ _ _ _ => not_lacks_malformed nofun
    cases l with
    | name s =>
      by_cases hs : (literalWord? s).isSome
      · simp only [identifier, if_pos hs]
        exact regularAt_malformed fun _ => ⟨_, _, rfl, nofun⟩
      · simp only [identifier, if_neg hs]
        exact regularAt_stop fun _ _ => rfl
    | _ => exact regularAt_malformed fun _ => ⟨_, _, rfl, nofun⟩

lemma regularAt_expectName (s : String) (ls : List Lexeme) : RegularAt (expectName line s) ls := by
  cases ls with
  | nil => exact regularAt_nil rfl
  | cons l ls =>
    refine regularAt_cons ?_ fun _ _ _ _ => not_lacks_malformed nofun
    cases l with
    | name t =>
      by_cases hs : t = s
      · simp only [expectName, if_pos hs]
        exact regularAt_stop fun _ _ => rfl
      · simp only [expectName, if_neg hs]
        exact regularAt_malformed fun _ => ⟨_, _, rfl, nofun⟩
    | _ => exact regularAt_malformed fun _ => ⟨_, _, rfl, nofun⟩

lemma regularAt_expectPunct (s : String) (ls : List Lexeme) : RegularAt (expectPunct line s) ls := by
  cases ls with
  | nil => exact regularAt_nil rfl
  | cons l ls =>
    refine regularAt_cons ?_ fun _ _ _ _ => not_lacks_malformed nofun
    cases l with
    | punct c =>
      by_cases hs : String.singleton c = s
      · simp only [expectPunct, accept?, if_pos hs]
        exact regularAt_stop fun _ _ => rfl
      · simp only [expectPunct, accept?, if_neg hs]
        exact regularAt_malformed fun _ => ⟨_, _, rfl, nofun⟩
    | _ => exact regularAt_malformed fun _ => ⟨_, _, rfl, nofun⟩

lemma value_eq_error {n : Numeral} {e : DigitLimit} :
    n.value = .error e ↔
      n.fraction = none ∧ DigitLimit.most < n.whole.length ∧ e = .reading n.whole.length := by
  rcases n with ⟨negative, whole, _ | ds⟩
  · by_cases hw : whole.length ≤ DigitLimit.most
    · simp [Numeral.value, Number.readInteger, hw, Except.map, Nat.not_lt.2 hw]
    · simp [Numeral.value, Number.readInteger, hw, Except.map, eq_comm, Nat.lt_of_not_le hw]
  · simp [Numeral.value]

lemma bracketed?_number {n : Numeral} {e : DigitLimit} (h : n.value = .error e) :
    bracketed? (.number n) = some (.error e) := by
  rcases n with ⟨negative, whole, _ | ds⟩
  · by_cases hw : whole.length ≤ DigitLimit.most
    · simp [Numeral.value, Number.readInteger, hw, Except.map] at h
    · simpa [Numeral.value, Number.readInteger, hw, Except.map, bracketed?] using h
  · simp [Numeral.value] at h

lemma bracketed?_eq_error {l : Lexeme} {e : DigitLimit} (h : bracketed? l = some (.error e)) :
    ∃ n, l = .number n ∧ n.value = .error e := by
  unfold bracketed? at h
  split at h
  · rename_i negative whole
    refine ⟨_, rfl, ?_⟩
    by_cases hw : whole.length ≤ DigitLimit.most
    · simp [Number.readInteger, hw, Except.map] at h
    · simpa [Numeral.value, Number.readInteger, hw, Except.map] using h
  · simp at h
  · simp at h

lemma steps_of_head {ls : List Lexeme} (hp : ls.head? ≠ some (.punct '.'))
    (hb : ls.head? ≠ some (.punct '[')) : steps line ls = found [] ls := by
  rw [steps.eq_def]
  split <;> first | rfl | simp_all

variable {ls : List Lexeme}

lemma regularAt_property (hs : ∀ ms, ms.length ≤ ls.length → RegularAt (steps line) ms) :
    RegularAt (fun ms => steps line (.punct '.' :: ms)) ls := by
  cases ls with
  | nil => exact regularAt_nil rfl
  | cons l ls =>
    refine regularAt_cons ?_ fun _ _ _ _ => not_lacks_malformed nofun
    cases l with
    | name s =>
      simp only [steps]
      exact regularAt_map fun ms hm => hs ms (Nat.le_succ_of_le hm)
    | _ => exact regularAt_malformed fun _ => ⟨_, _, rfl, nofun⟩

lemma regularAt_closing (s : Segment)
    (hs : ∀ ms, ms.length ≤ ls.length → RegularAt (steps line) ms) :
    RegularAt (fun ms => match ms with
      | .punct ']' :: ms => (steps line ms).map (s :: ·)
      | ms => failed line (.expected (.text "]") ms.head?) ms) ls := by
  cases ls with
  | nil => exact regularAt_nil rfl
  | cons l ls =>
    refine regularAt_cons ?_ fun _ _ _ _ => not_lacks_malformed nofun
    by_cases hl : l = .punct ']'
    · subst hl
      exact regularAt_map fun ms hm => hs ms (Nat.le_succ_of_le hm)
    · refine regularAt_malformed fun ms => ⟨.expected (.text "]") (some l), line, ?_, nofun⟩
      split
      · rename_i h
        exact (hl (List.cons.inj h).1).elim
      · rfl

lemma regularAt_bracket (hs : ∀ ms, ms.length ≤ ls.length → RegularAt (steps line) ms) :
    RegularAt (fun ms => steps line (.punct '[' :: ms)) ls := by
  cases ls with
  | nil => exact regularAt_nil rfl
  | cons l ls =>
    cases hb : bracketed? l with
    | none =>
      apply regularAt_cons
      · simp only [steps, hb]
        exact regularAt_malformed fun _ => ⟨_, _, rfl, nofun⟩
      · rintro n e rfl hv
        cases hb.symm.trans (bracketed?_number hv)
    | some x =>
      cases x with
      | error e =>
        obtain ⟨n, rfl, hv⟩ := bracketed?_eq_error hb
        refine regularAt_number hv ⟨_, _, rfl, .index⟩ fun ms => ?_
        simp only [steps, hb]
      | ok s =>
        apply regularAt_cons
        · simp only [steps, hb]
          exact regularAt_closing line s fun ms hm => hs ms (Nat.le_succ_of_le hm)
        · rintro n e rfl hv
          cases hb.symm.trans (bracketed?_number hv)

lemma regularAt_steps (ls : List Lexeme) : RegularAt (steps line) ls := by
  induction hn : ls.length using Nat.strongRecOn generalizing ls with
  | _ n ih =>
    by_cases hp : ls.head? = some (.punct '.')
    · obtain ⟨ls, rfl⟩ := List.head?_eq_some_iff.1 hp
      refine regularAt_cons (regularAt_property line fun ms hm => ?_) nofun
      exact ih _ (by simp only [← hn, List.length_cons]; omega) ms rfl
    by_cases hb : ls.head? = some (.punct '[')
    · obtain ⟨ls, rfl⟩ := List.head?_eq_some_iff.1 hb
      refine regularAt_cons (regularAt_bracket line fun ms hm => ?_) nofun
      exact ih _ (by simp only [← hn, List.length_cons]; omega) ms rfl
    · refine regularAt_stop (a := []) fun ms hm => ?_
      rcases hm with hm | rfl | ⟨n, post, rfl⟩
      · exact steps_of_head line (by rwa [hm]) (by rwa [hm])
      · rfl
      · rfl

lemma regularAt_path (ls : List Lexeme) : RegularAt (path line) ls :=
  regularAt_andThen (fun ms _ => regularAt_identifier line ms) fun _ _ _ =>
    regularAt_map fun ms _ => regularAt_steps line ms

lemma regularAt_operand_cons {l : Lexeme} (hl : ∀ n e, l = .number n → n.value ≠ .error e)
    (ls : List Lexeme) : RegularAt (fun ms => operand line (l :: ms)) ls := by
  cases l with
  | quoted q body => exact regularAt_stop fun _ _ => rfl
  | number n =>
    cases hv : n.value with
    | error e => exact (hl n e rfl hv).elim
    | ok x =>
      simp only [operand, literal, hv]
      exact regularAt_stop fun _ _ => rfl
  | name s =>
    cases hw : literalWord? s with
    | some v =>
      simp only [operand, literal, hw, Option.isSome_some, if_true]
      exact regularAt_stop fun _ _ => rfl
    | none =>
      by_cases hs : s ∈ reserved
      · simp only [operand, hw, Option.isSome_none, Bool.false_eq_true, if_false, if_pos hs]
        exact regularAt_malformed fun _ => ⟨_, _, rfl, nofun⟩
      · simp only [operand, path, identifier, hw, Option.isSome_none, Bool.false_eq_true, if_false,
          if_neg hs, andThen_found]
        exact regularAt_map fun _ _ => regularAt_map fun ms _ => regularAt_steps line ms
  | _ => exact regularAt_malformed fun _ => ⟨_, _, rfl, nofun⟩

lemma lacks_operand_nil : Lacks (operand line []).outcome :=
  ⟨_, _, rfl, .value⟩

lemma operand_digits {n : Numeral} {e : DigitLimit} (h : n.value = .error e) (ls : List Lexeme) :
    (operand line (.number n :: ls)).outcome = .error (.digits e) := by
  simp only [operand, literal, h]
  rfl

lemma regularAt_headed {α : Type} {r : List Lexeme → Reading α}
    {k : Expr → List Lexeme → Reading α} {l : Lexeme} {ls : List Lexeme}
    (hr : ∀ ms, r (l :: ms) = (operand line (l :: ms)).andThen k) (hn : Lacks (r []).outcome)
    (hk : ∀ a ms, ms.length ≤ ls.length → RegularAt (k a) ms) : RegularAt r (l :: ls) := by
  by_cases hl : ∀ n e, l = .number n → n.value ≠ .error e
  · refine regularAt_cons ?_ fun n e h hv => (hl n e h hv).elim
    simp only [hr]
    exact regularAt_andThen (fun ms _ => regularAt_operand_cons line hl ms) hk
  · simp only [not_forall, not_not] at hl
    obtain ⟨n, e, rfl, hv⟩ := hl
    refine regularAt_number hv hn fun ms => ?_
    rw [hr]
    exact andThen_error (operand_digits line hv ms)

lemma regularAt_operand (ls : List Lexeme) : RegularAt (operand line) ls := by
  cases ls with
  | nil => exact regularAt_nil rfl
  | cons l ls =>
    refine regularAt_headed line (k := found) (fun ms => ?_) (lacks_operand_nil line)
      fun _ _ _ => regularAt_stop fun _ _ => rfl
    rcases operand line (l :: ms) with ⟨_ | a, rest⟩ <;> rfl

lemma regularAt_many {α : Type} {c : Char} {item : List Lexeme → Reading α}
    {many : List Lexeme → Reading (List α)} (hi : ∀ ls, RegularAt item ls)
    (hc : ∀ ls, many (.punct c :: ls) = (item ls).andThen fun a ls => (many ls).map (a :: ·))
    (hs : ∀ ls, ls.head? ≠ some (.punct c) → many ls = found [] ls) (ls : List Lexeme) :
    RegularAt many ls := by
  induction hn : ls.length using Nat.strongRecOn generalizing ls with
  | _ n ih =>
    by_cases hl : ls.head? = some (.punct c)
    · obtain ⟨ls, rfl⟩ := List.head?_eq_some_iff.1 hl
      refine regularAt_cons ?_ nofun
      simp only [hc]
      refine regularAt_andThen (fun ms _ => hi ms) fun a ms hm => regularAt_map fun ns hns => ?_
      exact ih _ (by simp only [← hn, List.length_cons]; omega) ns rfl
    · refine regularAt_stop (a := []) fun ms hm => ?_
      rcases hm with hm | rfl | ⟨n, post, rfl⟩
      · exact hs ms (by rwa [hm])
      · exact hs [] nofun
      · exact hs _ (by simp)

lemma moreArguments_comma (ls : List Lexeme) :
    moreArguments line (.punct ',' :: ls) =
      (operand line ls).andThen fun e ls => (moreArguments line ls).map (e :: ·) := by
  rw [moreArguments]
  split
  · rename_i h
    simp only [andThen, h]
  · rename_i h
    simp only [andThen, h]

lemma moreArguments_of_head (ls : List Lexeme) (h : ls.head? ≠ some (.punct ',')) :
    moreArguments line ls = found [] ls := by
  rw [moreArguments.eq_def]
  split
  · simp at h
  · rfl

lemma regularAt_moreArguments (ls : List Lexeme) : RegularAt (moreArguments line) ls :=
  regularAt_many (regularAt_operand line) (moreArguments_comma line) (moreArguments_of_head line) ls

lemma accept?_of_ne {c : Char} {l : Lexeme} (ls : List Lexeme) (h : l ≠ .punct c) :
    accept? (String.singleton c) (l :: ls) = none := by
  unfold accept?
  split
  · rename_i hl
    cases hl
    refine if_neg fun hc => h ?_
    rw [String.singleton_inj.1 hc]
  · rfl

lemma regularAt_arguments (ls : List Lexeme) : RegularAt (arguments line) ls := by
  cases ls with
  | nil => exact regularAt_nil rfl
  | cons l ls =>
    by_cases hl : l = .punct ')'
    · subst hl
      exact regularAt_cons (regularAt_stop fun _ _ => rfl) nofun
    · have hr : ∀ ms, arguments line (l :: ms) = (operand line (l :: ms)).andThen fun e ls =>
          (moreArguments line ls).andThen fun es ls =>
            (expectPunct line ")" ls).map fun _ => e :: es := by
        intro ms
        rw [arguments, show ")" = String.singleton ')' from rfl, accept?_of_ne ms hl]
      refine regularAt_headed line hr ⟨_, _, rfl, .value⟩ fun e ms _ => ?_
      refine regularAt_andThen (fun ms _ => regularAt_moreArguments line ms) fun es ms _ => ?_
      exact regularAt_map fun ms _ => regularAt_expectPunct line ")" ms

lemma regularAt_filterCall (ls : List Lexeme) : RegularAt (filterCall line) ls := by
  refine regularAt_andThen (fun ms _ => regularAt_identifier line ms) fun name ms _ => ?_
  by_cases hm : ms.head? = some (.punct '(')
  · obtain ⟨ms, rfl⟩ := List.head?_eq_some_iff.1 hm
    exact regularAt_cons (regularAt_map fun ns _ => regularAt_arguments line ns) nofun
  · refine regularAt_stop (a := ⟨name, [], line⟩) fun ns hn => ?_
    have hh : ns.head? ≠ some (.punct '(') := by
      rcases hn with hn | rfl | ⟨n, post, rfl⟩
      · rwa [hn]
      · nofun
      · simp
    cases ns with
    | nil => rfl
    | cons l ns =>
      have hl : l ≠ .punct '(' := fun h => hh (congrArg some h)
      rw [show "(" = String.singleton '(' from rfl, accept?_of_ne ns hl]

lemma filterCalls_bar (ls : List Lexeme) :
    filterCalls line (.punct '|' :: ls) =
      (filterCall line ls).andThen fun f ls => (filterCalls line ls).map (f :: ·) := by
  rw [filterCalls]
  split
  · rename_i h
    simp only [andThen, h]
  · rename_i h
    simp only [andThen, h]

lemma filterCalls_of_head (ls : List Lexeme) (h : ls.head? ≠ some (.punct '|')) :
    filterCalls line ls = found [] ls := by
  rw [filterCalls.eq_def]
  split
  · simp at h
  · rfl

lemma regularAt_filterCalls (ls : List Lexeme) : RegularAt (filterCalls line) ls :=
  regularAt_many (regularAt_filterCall line) (filterCalls_bar line) (filterCalls_of_head line) ls

lemma regularAt_chain (ls : List Lexeme) : RegularAt (chain line) ls := by
  cases ls with
  | nil => exact regularAt_nil rfl
  | cons l ls =>
    refine regularAt_headed line (k := fun e ls => (filterCalls line ls).map (e, ·)) (fun _ => rfl)
      ⟨_, _, rfl, .expression⟩ fun e ms _ => ?_
    exact regularAt_map fun ms _ => regularAt_filterCalls line ms

def comparison (left : Expr) : List Lexeme → Reading Expr
  | .op c :: ls => (operand line ls).map (.compare c left)
  | ls => found left ls

lemma regularAt_comparison (left : Expr) (ls : List Lexeme) :
    RegularAt (comparison line left) ls := by
  by_cases hl : ∃ c ms, ls = .op c :: ms
  · obtain ⟨c, ms, rfl⟩ := hl
    exact regularAt_cons (regularAt_map fun ns _ => regularAt_operand line ns) nofun
  · refine regularAt_stop (a := left) fun ms hm => ?_
    have hn : ∀ c ns, ms ≠ .op c :: ns := by
      rintro c ns rfl
      rcases hm with hm | hm | ⟨n, post, hm⟩
      · obtain ⟨os, ho⟩ := List.head?_eq_some_iff.1 hm.symm
        exact hl ⟨c, os, ho⟩
      · cases hm
      · cases hm
    rw [comparison.eq_def]
    split
    · exact (hn _ _ rfl).elim
    · rfl

lemma regularAt_condition (ls : List Lexeme) : RegularAt (condition line) ls := by
  cases ls with
  | nil => exact regularAt_nil rfl
  | cons l ls =>
    by_cases hl : l = .name "not"
    · subst hl
      exact regularAt_cons (regularAt_map fun ms _ => regularAt_operand line ms) nofun
    · refine regularAt_headed line (k := comparison line) (fun ms => ?_)
        ⟨_, _, rfl, .condition⟩ fun left ms _ => regularAt_comparison line left ms
      rw [condition]
      · rfl
      · exact hl

end Reading

end Stencil
