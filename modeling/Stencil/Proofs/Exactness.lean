import Stencil.Decimal.Shortest
import Stencil.Proofs.Rounding

/-! A number of double precision is the nearest to itself, and to each decimal number of its value. -/

namespace Stencil

namespace Binary64

variable {negative : Bool} {n d n' d' m k m' k' c : Nat}

lemma eq_of_units_eq (h : IsCanonical m k) (h' : IsCanonical m' k')
    (hu : units m k = units m' k') : m = m' ∧ k = k' := by
  have hle : ∀ {m k m' k'}, IsCanonical m k → IsCanonical m' k' → units m k = units m' k' →
      k' ≤ k := by
    intro m k m' k' h h' hu
    by_contra hk
    obtain ⟨j, rfl⟩ := Nat.exists_eq_add_of_lt (Nat.lt_of_not_le hk)
    have hm' : 2 ^ 52 ≤ m' := h'.2.2.resolve_left (Nat.succ_ne_zero _)
    have hm : m = m' * 2 ^ (j + 1) := by
      apply Nat.eq_of_mul_eq_mul_right (Nat.two_pow_pos k)
      rw [Nat.mul_assoc, ← Nat.pow_add, Nat.add_comm (j + 1) k]
      exact hu
    have hp : 2 ^ 52 * 2 ≤ m' * 2 ^ (j + 1) :=
      Nat.mul_le_mul hm' (Nat.le_self_pow (Nat.succ_ne_zero j) 2)
    exact absurd h.1 (Nat.not_lt.2 (hm ▸ hp))
  obtain rfl := Nat.le_antisymm (hle h' h hu.symm) (hle h h' hu)
  exact ⟨Nat.eq_of_mul_eq_mul_right (Nat.two_pow_pos k) hu, rfl⟩

lemma roundDiv_mul_right (hc : 0 < c) : roundDiv (n * c) (d * c) = roundDiv n d := by
  have hr : ∀ a b, 2 * (a * c) < b * c ↔ 2 * a < b := by
    intro a b
    rw [← Nat.mul_assoc, Nat.mul_lt_mul_right hc]
  have hr' : ∀ a b, a * c < 2 * (b * c) ↔ a < 2 * b := by
    intro a b
    rw [← Nat.mul_assoc, Nat.mul_lt_mul_right hc]
  simp only [roundDiv, Nat.mul_div_mul_right _ _ hc, Nat.mul_mod_mul_right, hr, hr']

lemma ofScaled_congr (hm : m = m') (hk : k = k') {h₁ h₂ h₁' h₂'} :
    ofScaled negative m k h₁ h₂ = ofScaled negative m' k' h₁' h₂' := by
  subst hm hk
  rfl

lemma ofUnits_mul_right (hc : 0 < c) : ofUnits negative (n * c) (d * c) = ofUnits negative n d := by
  have he : n * c / (d * c) = n / d := Nat.mul_div_mul_right n d hc
  unfold ofUnits
  exact ofScaled_congr (by rw [he, Nat.mul_right_comm, roundDiv_mul_right hc]) (by rw [he])

lemma ofUnits_congr (hd : 0 < d) (hd' : 0 < d') (h : n * d' = n' * d) :
    ofUnits negative n d = ofUnits negative n' d' := by
  rw [← ofUnits_mul_right hd', h, Nat.mul_comm d d', ofUnits_mul_right hd]

lemma ofQuotient_congr (hd : 0 < d) (hd' : 0 < d') (h : n * d' = n' * d) :
    ofQuotient negative n d = ofQuotient negative n' d' := by
  apply ofUnits_congr hd hd'
  rw [Nat.mul_right_comm, h, Nat.mul_right_comm]

lemma excess_units (h : IsCanonical m k) : excess (units m k) = k := by
  obtain ⟨hm, -, hk⟩ := h
  have hlt : units m k < 2 ^ (53 + k) := by
    rw [Nat.pow_add]
    exact Nat.mul_lt_mul_of_pos_right hm (Nat.two_pow_pos k)
  apply Nat.le_antisymm (excess_le hlt)
  rcases hk with rfl | hk
  · exact Nat.zero_le _
  · have hle : 2 ^ (52 + k) ≤ units m k := by
      rw [Nat.pow_add]
      exact Nat.mul_le_mul_right _ hk
    have hp := (Nat.pow_lt_pow_iff_right (by decide)).1 (hle.trans_lt (lt_two_pow_excess _))
    omega

lemma ofUnits_units (h : IsCanonical m k) :
    ofUnits negative (units m k) 1 = .finite negative m k h := by
  have hr : roundDiv (units m k) (1 * Nat.pow 2 k) = m := by
    have hs : roundDiv (m * 2 ^ k) (1 * 2 ^ k) = roundDiv m 1 :=
      roundDiv_mul_right (Nat.two_pow_pos k)
    exact hs.trans (by simp [roundDiv, Nat.mod_one])
  have he : excess (units m k / 1) = k := by rw [Nat.div_one, excess_units h]
  have hs : ofUnits negative (units m k) 1 = ofScaled negative m k (Nat.le_of_lt h.1) h.2.2 := by
    unfold ofUnits
    exact ofScaled_congr (by rw [he, hr]) he
  rw [hs, ofScaled, dif_neg h.1.ne, dif_pos h.2.1]

lemma ofScaled_negative {h₁ h₂} {hc : IsCanonical m' k'}
    (h : ofScaled false m k h₁ h₂ = .finite false m' k' hc) :
    ofScaled negative m k h₁ h₂ = .finite negative m' k' hc := by
  unfold ofScaled at h ⊢
  split_ifs at h ⊢ <;> cases h <;> rfl

end Binary64

namespace Decimal

open Binary64

variable {negative : Bool} {m k : Nat}

lemma toBinary64_eq (d : Decimal) : d.toBinary64 negative =
    ofQuotient negative (d.coefficient * 10 ^ d.exponent.toNat) (10 ^ (-d.exponent).toNat) := by
  rw [toBinary64]
  split
  · next h => rw [Int.toNat_of_nonpos (Int.neg_nonpos_of_nonneg h), Nat.pow_eq, Nat.pow_zero]
  · next h => rw [Int.toNat_of_nonpos (Int.le_of_not_le h), Nat.pow_eq, Nat.pow_zero, Nat.mul_one]

lemma toBinary64_shift (c j : Nat) (x : Int) :
    (mk (c * 10 ^ j) x).toBinary64 negative = (mk c (x + j)).toBinary64 negative := by
  rw [toBinary64_eq, toBinary64_eq]
  apply ofQuotient_congr (Nat.pow_pos (by decide)) (Nat.pow_pos (by decide))
  simp only [Nat.mul_assoc, ← Nat.pow_add]
  congr 2
  omega

lemma toBinary64_zero (x y : Int) :
    (mk 0 x).toBinary64 negative = (mk 0 y).toBinary64 negative := by
  rw [toBinary64_eq, toBinary64_eq]
  apply ofQuotient_congr (Nat.pow_pos (by decide)) (Nat.pow_pos (by decide))
  simp

lemma toBinary64_negative {d : Decimal} {hc : IsCanonical m k}
    (h : d.toBinary64 false = .finite false m k hc) :
    d.toBinary64 negative = .finite negative m k hc := by
  rw [toBinary64_eq] at h ⊢
  unfold ofQuotient ofUnits at h ⊢
  exact ofScaled_negative h

lemma toBinary64_exact (h : IsCanonical m k) :
    (exact m k).toBinary64 false = .finite false m k h := by
  rw [toBinary64_eq, ← ofUnits_units h]
  apply ofUnits_congr (Nat.pow_pos (by decide)) Nat.one_pos
  have he : (10 : Nat) = 5 * 2 := rfl
  unfold exact one
  generalize unitExponent = e
  simp only [Int.toNat_neg_natCast, Int.neg_neg, Int.toNat_natCast, Nat.pow_zero, Nat.mul_one,
    Nat.pow_eq, Nat.mul_assoc, he, Nat.mul_pow]

lemma toBinary64_shortest (h : IsCanonical m k) :
    (shortest m k h).toBinary64 negative = .finite negative m k h := by
  apply toBinary64_negative
  rw [shortest]
  cases hs : (List.range 17).findSome? fun i : Nat => onGrid? m k h (leading m k - i) with
  | none => exact toBinary64_exact h
  | some d =>
    obtain ⟨i, -, hd⟩ := List.exists_of_findSome?_eq_some hs
    have hb := List.find?_some hd
    exact beq_iff_eq.1 hb

end Decimal

end Stencil
