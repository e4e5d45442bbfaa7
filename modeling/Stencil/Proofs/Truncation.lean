import Mathlib.Data.List.TakeWhile
import Stencil.Filter.Pure

/-! Where a text is cut that is longer than a filter allows. -/

namespace Stencil

namespace Number

variable {x : Number} {u : Nat}

lemma place?_natCast (n : Nat) : (int n).place? = some (.units (n * Binary64.one : Nat)) := by
  rw [Int.natCast_mul]
  rfl

lemma not_lt_zero (h : x.place? = some (.units u)) : x.lt (.int 0) = false := by
  have hz : (Number.int 0).place? = some (.units 0) := by
    rw [place?, Int.zero_mul]
  simp [lt, h, hz, Place.lt]

lemma wholeLength_eq (h : x.place? = some (.units u)) :
    Filter.wholeLength x = .ok (u / Binary64.one : Nat) := by
  cases x with
  | int n =>
    have hp : (Binary64.one : Int) ≠ 0 := Int.natCast_ne_zero.2 Binary64.one_pos.ne'
    simp only [place?, Option.some.injEq, Place.units.injEq] at h
    rw [Filter.wholeLength, Int.natCast_ediv, ← h, Int.mul_ediv_cancel _ hp]
  | float x =>
    cases x with
    | nan label => cases h
    | infinite negative => cases negative <;> cases h
    | finite negative m k hc =>
      simp only [place?, Binary64.place?, Option.some.injEq, Place.units.injEq] at h
      simp only [Filter.wholeLength, Binary64.truncate?, Option.getD_some, Except.ok.injEq]
      cases negative with
      | false =>
        simp only [Bool.false_eq_true, if_false, Int.natCast_inj] at h ⊢
        rw [h]
      | true =>
        -- Only zero has a minus sign here.
        simp only [if_true] at h ⊢
        obtain ⟨hm, rfl⟩ : Binary64.units m k = 0 ∧ u = 0 := by omega
        simp [hm]

end Number

namespace Filter

/-- The characters on either side of a cut after `k` characters belong to one word. -/
def SplitsWord (cs : List Char) (k : Nat) : Prop :=
  ∃ c d, (cs.take k).getLast? = some c ∧ (cs.drop k).head? = some d ∧
    ¬ Text.isBlank c ∧ ¬ Text.isBlank d

lemma not_splitsWord_of_getElem? {cs : List Char} {k : Nat} {c : Char} (h : cs[k]? = some c)
    (hc : Text.isBlank c) : ¬ SplitsWord cs k := by
  rintro ⟨_, d, -, hd, -, hn⟩
  rw [List.head?_drop, h] at hd
  cases hd
  exact hn hc

lemma exists_last {c : Char} {ts : List Char} (h : c ∈ ts) :
    ∃ us vs, ts = us ++ c :: vs ∧ c ∉ vs := by
  obtain ⟨vs, us, hr, hv⟩ := List.eq_append_cons_of_mem (List.mem_reverse.2 h)
  refine ⟨us.reverse, vs.reverse, ?_, by simpa using hv⟩
  simpa using congrArg List.reverse hr

section

variable {n : Nat} {cs us vs : List Char}

lemma cutAt_of_last (ht : cs.take n = us ++ ' ' :: vs) (hv : ' ' ∉ vs) :
    cutAt n cs = if us = [] then (cs.take n).length else us.length := by
  have hb : ((cs.take n).reverse.takeWhile fun c => c != ' ') = vs.reverse := by
    have hall : ∀ c ∈ vs.reverse, (c != ' ') = true := by
      intro c hc
      apply bne_iff_ne.2
      rintro rfl
      exact hv (List.mem_reverse.1 hc)
    rw [ht, List.reverse_append, List.reverse_cons, List.append_assoc,
      List.takeWhile_append_of_pos hall]
    simp
  have hl : (cs.take n).length = us.length + 1 + vs.length := by
    rw [ht, List.length_append, List.length_cons]
    omega
  simp only [cutAt, hb, List.length_reverse, hl, Nat.add_sub_cancel]
  cases us with
  | nil => simp
  | cons u us => simp

lemma cutAt_of_not_mem (h : ' ' ∉ (cs.take n).tail) : cutAt n cs = (cs.take n).length := by
  by_cases hm : ' ' ∈ cs.take n
  · obtain ⟨us, vs, ht, hv⟩ := exists_last hm
    have hu : us = [] := by
      cases us with
      | nil => rfl
      | cons u us => simp [ht] at h
    rw [cutAt_of_last ht hv, if_pos hu]
  · have hb : ((cs.take n).reverse.takeWhile fun c => c != ' ') = (cs.take n).reverse := by
      apply List.takeWhile_eq_self_iff.2
      intro c hc
      apply bne_iff_ne.2
      rintro rfl
      exact hm (List.mem_reverse.1 hc)
    simp only [cutAt, hb, List.length_reverse, Nat.sub_self]
    rfl

lemma cutAt_of_mem (h : ' ' ∈ (cs.take n).tail) :
    0 < cutAt n cs ∧ cutAt n cs < n ∧ cs[cutAt n cs]? = some ' ' ∧
      ' ' ∉ (cs.take n).drop (cutAt n cs + 1) := by
  obtain ⟨us, vs, ht, hv⟩ := exists_last (List.mem_of_mem_tail h)
  have hu : us ≠ [] := by
    rintro rfl
    rw [ht] at h
    exact hv h
  have hl : us.length < n := by
    have hn := congrArg List.length ht
    simp only [List.length_take, List.length_append, List.length_cons] at hn
    omega
  rw [cutAt_of_last ht hv, if_neg hu]
  refine ⟨List.length_pos_iff.2 hu, hl, ?_, ?_⟩
  · rw [← List.getElem?_take_of_lt hl, ht]
    simp
  · rw [ht]
    simpa using hv

end

section

variable (s : String) {x : Number} {u : Nat} {killWords : Value} (ending : Value)

lemma truncate_of_le (hx : x.place? = some (.units u)) (hs : s.toList.length ≤ u / Binary64.one) :
    truncate (.text s) (.number x) killWords ending = .ok (.text s) := by
  have hs' : (s.toList.length : Int) ≤ (u / Binary64.one : Nat) := Int.ofNat_le.2 hs
  simp only [truncate, Number.not_lt_zero hx, Number.wholeLength_eq hx, bind, Except.bind, hs']
  rfl

lemma truncate_of_lt (hx : x.place? = some (.units u)) (hk : killWords.isTruthy = false)
    (hs : u / Binary64.one < s.toList.length) :
    truncate (.text s) (.number x) killWords ending = (ending.toText.mapError .digits).map fun e =>
      .text (String.ofList (s.toList.take (cutAt (u / Binary64.one) s.toList)) ++ e) := by
  have hs' : ¬ (s.toList.length : Int) ≤ (u / Binary64.one : Nat) := by omega
  simp only [truncate, Number.not_lt_zero hx, Number.wholeLength_eq hx, bind, Except.bind, hs', hk]
  cases ending.toText <;> rfl

end

/-- A text longer than the length allowed is cut at its last space within the length, the first
character apart, and after just that length where there is none. Only then may a word be split, and
it is if the cut falls into one. -/
theorem truncate_at_last_space (s : String) {x : Number} {u : Nat}
    (hx : x.place? = some (.units u)) {killWords : Value} (hk : killWords.isTruthy = false)
    (ending : Value) :
    let n := u / Binary64.one
    let cs := s.toList
    (cs.length ≤ n → truncate (.text s) (.number x) killWords ending = .ok (.text s)) ∧
      (n < cs.length → ∃ k ≤ n,
        truncate (.text s) (.number x) killWords ending =
          (ending.toText.mapError .digits).map
            (fun e => .text (String.ofList (cs.take k) ++ e)) ∧
        (' ' ∈ (cs.take n).tail → 0 < k ∧ cs[k]? = some ' ' ∧ ' ' ∉ (cs.take n).drop (k + 1)) ∧
        (' ' ∉ (cs.take n).tail → k = n) ∧
        (SplitsWord cs k ↔ ' ' ∉ (cs.take n).tail ∧ SplitsWord cs n)) := by
  intro n cs
  refine ⟨truncate_of_le s ending hx, fun hs => ?_⟩
  have ht := truncate_of_lt s ending hx hk hs
  by_cases hm : ' ' ∈ (cs.take n).tail
  · obtain ⟨hpos, hlt, hspace, hlast⟩ := cutAt_of_mem hm
    have hw := not_splitsWord_of_getElem? hspace (by decide)
    exact ⟨cutAt n cs, hlt.le, ht, fun _ => ⟨hpos, hspace, hlast⟩, fun h => (h hm).elim,
      iff_of_false hw fun h => h.1 hm⟩
  · have hc : cutAt n cs = n := by
      rw [cutAt_of_not_mem hm, List.length_take, Nat.min_eq_left hs.le]
    have ht : truncate (.text s) (.number x) killWords ending = _ := ht
    rw [hc] at ht
    exact ⟨n, Nat.le_refl n, ht, fun h => (hm h).elim, fun _ => rfl, by simp [hm]⟩

theorem truncate_at_last_space_of_two :
    (Number.int 10).place? = some (.units (10 * Binary64.one : Nat)) ∧
      (Value.bool false).isTruthy = false ∧
      truncate (.text "THE GREAT GATSBY") (.int 10) (.bool false) (.text "...") =
        .ok (.text "THE GREAT...") := by
  have hx := Number.place?_natCast 10
  have hf : (Value.bool false).isTruthy = false := rfl
  have h := (truncate_at_last_space "THE GREAT GATSBY" hx hf (.text "...")).2
  rw [Nat.mul_div_cancel 10 Binary64.one_pos] at h
  obtain ⟨k, hk, ht, hspace, -⟩ := h (by decide)
  obtain ⟨-, hc, hl⟩ := hspace (by decide)
  have huniq : ∀ k ≤ 10, "THE GREAT GATSBY".toList[k]? = some ' ' →
      ' ' ∉ ("THE GREAT GATSBY".toList.take 10).drop (k + 1) → k = 9 := by decide
  obtain rfl := huniq k hk hc hl
  exact ⟨hx, hf, ht⟩

theorem truncate_splits_word_after_newline :
    ¬ ∀ (s : String) (n : Nat), n < s.toList.length → ∃ k ≤ n,
      truncate (.text s) (.int n) (.bool false) (.text "...") =
          .ok (.text (String.ofList (s.toList.take k) ++ "...")) ∧
        (¬ SplitsWord s.toList k ∨ (∀ c ∈ (s.toList.take n).tail, ¬ Text.isBlank c) ∧ k = n) := by
  intro h
  obtain ⟨k, hk, ht, hw⟩ := h "one\ntwo three" 5 (by decide)
  have hf : (Value.bool false).isTruthy = false := rfl
  have hcut := truncate_of_lt "one\ntwo three" (.text "...") (Number.place?_natCast 5) hf
    (by rw [Nat.mul_div_cancel 5 Binary64.one_pos]; decide)
  rw [Nat.mul_div_cancel 5 Binary64.one_pos] at hcut
  have h5 : k = 5 := by
    have he := Value.text.inj (Except.ok.inj (ht.symm.trans hcut))
    have hl := congrArg (fun s => s.toList.length) he
    have hc : cutAt 5 "one\ntwo three".toList = 5 := by decide
    have hs : "one\ntwo three".toList.length = 13 := by decide
    simp only [hc, String.toList_append, String.toList_ofList, List.length_append,
      List.length_take, hs] at hl
    omega
  subst h5
  rcases hw with hw | ⟨hb, -⟩
  · exact hw ⟨'t', 'w', by decide⟩
  · exact hb '\n' (by decide) (by decide)

end Filter

end Stencil
