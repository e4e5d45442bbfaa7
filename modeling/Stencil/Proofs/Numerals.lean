import Mathlib.Algebra.Ring.Nat
import Stencil.Calendar.Format
import Stencil.Text.Character

/-! Reading the digits of a number back. -/

namespace Stencil

namespace Text

lemma span_append {p : Char → Bool} {cs ds : List Char} (hc : ∀ c ∈ cs, p c = true)
    (hd : ∀ c, ds.head? = some c → p c = false) :
    (cs ++ ds).takeWhile p = cs ∧ (cs ++ ds).dropWhile p = ds := by
  rw [List.takeWhile_append_of_pos hc, List.dropWhile_append_of_pos hc]
  cases ds with
  | nil => simp
  | cons c ds => simp [hd c rfl]

lemma digitValue_digitChar {d : Nat} (hd : d < 10) : digitValue d.digitChar = d := by
  have h : ∀ d : Fin 10, digitValue (Nat.digitChar d) = d := by decide
  exact h ⟨d, hd⟩

lemma number_digits (n : Nat) : number (Decimal.digits n) = n := by
  induction n using Nat.strongRecOn with
  | ind n ih =>
    rw [Decimal.digits]
    by_cases hn : n < 10
    · rw [Nat.toDigits_of_lt_base hn]
      exact (Nat.zero_add _).trans (digitValue_digitChar hn)
    · have hd := ih (n / 10) (by omega)
      rw [Decimal.digits] at hd
      rw [Nat.toDigits_of_base_le (by decide) (Nat.not_lt.1 hn), number_append_singleton, hd,
        digitValue_digitChar (Nat.mod_lt n (by decide))]
      omega

lemma not_isBlank_of_isDigit {c : Char} (hc : c.isDigit = true) : ¬ isBlank c := by
  have hd : (blanks.all fun c => !c.isDigit) = true := by decide
  intro hb
  have hn := List.all_eq_true.1 hd c (List.contains_iff_mem.1 hb)
  rw [hc] at hn
  cases hn

lemma isDigit_of_isDigit {c : Char} (hc : c.isDigit = true) : isDigit c = true := by
  have hr : 0x30 ≤ c.toNat ∧ c.toNat < 0x30 + 10 := by
    rw [Char.isDigit, Bool.and_eq_true, decide_eq_true_eq, decide_eq_true_eq] at hc
    exact ⟨hc.1, Nat.lt_succ_of_le hc.2⟩
  rw [isDigit, digit?, zeros, List.findSome?_cons, if_pos hr]
  rfl

lemma number_zeros_append (k : Nat) (cs : List Char) :
    number (List.replicate k '0' ++ cs) = number cs := by
  induction k with
  | zero => rfl
  | succ k ih => exact ih

end Text

namespace Decimal

variable {n : Nat}

lemma isDigit_of_mem_digits {c : Char} (h : c ∈ digits n) : c.isDigit = true :=
  Nat.isDigit_of_mem_toDigits (by decide) (by decide) h

lemma digits_ne_nil : digits n ≠ [] :=
  Nat.toDigits_ne_nil

lemma length_digits_le {k : Nat} (hk : 0 < k) : (digits n).length ≤ k ↔ n < Nat.pow 10 k :=
  Nat.length_toDigits_le_iff (by decide) hk

end Decimal

namespace Calendar

section

variable {w n : Nat}

lemma number_padded : Text.number (padded '0' w n) = n := by
  rw [padded, Text.number_zeros_append, Text.number_digits]

lemma length_padded (hw : 0 < w) (hn : n < 10 ^ w) : (padded '0' w n).length = w := by
  have hl := (Decimal.length_digits_le hw).2 hn
  rw [padded, List.length_append, List.length_replicate]
  exact Nat.sub_add_cancel hl

lemma length_pos_padded (hw : 0 < w) (hn : n < 10 ^ w) : 0 < (padded '0' w n).length := by
  rwa [length_padded hw hn]

lemma isDigit_of_mem_padded {c : Char} (hc : c ∈ padded '0' w n) : c.isDigit = true := by
  rcases List.mem_append.1 hc with hc | hc
  · rw [List.eq_of_mem_replicate hc]
    rfl
  · exact Decimal.isDigit_of_mem_digits hc

end

end Calendar

end Stencil
