/-!
Double-precision numbers as exact values. A finite one is a whole number of *units*, the unit
being the least positive number `2 ^ (-1074)`, so sums of powers never leave the naturals.
-/

namespace Stencil

namespace Binary64

def unitExponent : Nat := 1074

def one : Nat := Nat.pow 2 unitExponent

theorem one_pos : 0 < one := by
  unfold one
  generalize unitExponent = e
  exact Nat.two_pow_pos e

/-- A significand of at most 53 bits, with all 53 of them used unless the exponent is the least. -/
def IsCanonical (m k : Nat) : Prop :=
  m < Nat.pow 2 53 ∧ k ≤ 2045 ∧ (k = 0 ∨ Nat.pow 2 52 ≤ m)

instance (m k : Nat) : Decidable (IsCanonical m k) :=
  inferInstanceAs (Decidable (_ ∧ _ ∧ _))

end Binary64

/-- A double-precision number. A finite one is `m * 2 ^ k` units with a sign, zero included; every
undefined result carries a label that tells one occurrence from another. -/
inductive Binary64
  | nan (label : Nat)
  | infinite (negative : Bool)
  | finite (negative : Bool) (m k : Nat) (canonical : Binary64.IsCanonical m k)
  deriving DecidableEq

namespace Binary64

/-- The quotient of two naturals, rounded to the nearest; a half goes to the even neighbour. -/
def roundDiv (n d : Nat) : Nat :=
  let q := n / d
  let r := n % d
  if 2 * r < d then q else if d < 2 * r then q + 1 else q + q % 2

theorem le_roundDiv (n d : Nat) : n / d ≤ roundDiv n d := by
  simp only [roundDiv]
  split
  · exact Nat.le_refl _
  · split <;> omega

theorem roundDiv_le (n d : Nat) : roundDiv n d ≤ n / d + 1 := by
  simp only [roundDiv]
  split
  · omega
  · split <;> omega

/-- How many of the low bits of `q` do not fit into 53 bits. -/
def excess (q : Nat) : Nat :=
  if q < Nat.pow 2 53 then 0 else q.log2 - 52

theorem lt_two_pow_excess (q : Nat) : q < Nat.pow 2 (53 + excess q) := by
  unfold excess
  split
  · assumption
  · rename_i h
    rw [Nat.pow_eq] at h
    have hlog : 53 ≤ q.log2 := (Nat.le_log2 (by omega)).2 (by omega)
    have heq : 53 + (q.log2 - 52) = q.log2 + 1 := by omega
    rw [heq]
    exact Nat.lt_log2_self

theorem two_pow_excess_le (q : Nat) (h : 0 < excess q) : Nat.pow 2 (52 + excess q) ≤ q := by
  unfold excess at *
  split at h
  · exact absurd h (Nat.lt_irrefl 0)
  · rename_i hq
    rw [if_neg hq]
    rw [Nat.pow_eq] at hq
    have hlog : 53 ≤ q.log2 := (Nat.le_log2 (by omega)).2 (by omega)
    have heq : 52 + (q.log2 - 52) = q.log2 := by omega
    rw [heq]
    exact Nat.log2_self_le (by omega)

/-- The number of `m * 2 ^ k` units, for a significand that rounding may have carried to 54 bits;
an infinity where the exponent is too large. -/
def ofScaled (negative : Bool) (m k : Nat) (hm : m ≤ Nat.pow 2 53) (hk : k = 0 ∨ Nat.pow 2 52 ≤ m) :
    Binary64 :=
  if hc : m = Nat.pow 2 53 then
    if h : k + 1 ≤ 2045 then
      .finite negative (Nat.pow 2 52) (k + 1) ⟨by decide, h, Or.inr (Nat.le_refl _)⟩
    else .infinite negative
  else if h : k ≤ 2045 then .finite negative m k ⟨by omega, h, hk⟩
  else .infinite negative

theorem div_pow_excess_bounds (n d : Nat) :
    let k := excess (n / d)
    n / (d * Nat.pow 2 k) < Nat.pow 2 53 ∧ (k = 0 ∨ Nat.pow 2 52 ≤ n / (d * Nat.pow 2 k)) := by
  intro k
  have hu : n / d < Nat.pow 2 (53 + k) := lt_two_pow_excess (n / d)
  rw [← Nat.div_div_eq_div_mul]
  refine ⟨?_, ?_⟩
  · refine (Nat.div_lt_iff_lt_mul (Nat.two_pow_pos k)).2 ?_
    rw [Nat.pow_eq, ← Nat.pow_add]
    exact hu
  · rcases Nat.eq_zero_or_pos k with h | h
    · exact Or.inl h
    · refine Or.inr ?_
      refine (Nat.le_div_iff_mul_le (Nat.two_pow_pos k)).2 ?_
      rw [Nat.pow_eq, ← Nat.pow_add]
      exact two_pow_excess_le (n / d) h

def ofUnits (negative : Bool) (n d : Nat) : Binary64 :=
  let k := excess (n / d)
  ofScaled negative (roundDiv n (d * Nat.pow 2 k)) k
    (by have h := (div_pow_excess_bounds n d).1
        have := roundDiv_le n (d * Nat.pow 2 k)
        simp only [k] at *
        omega)
    (by have h := (div_pow_excess_bounds n d).2
        have := le_roundDiv n (d * Nat.pow 2 k)
        simp only [k] at *
        omega)

def ofQuotient (negative : Bool) (n d : Nat) : Binary64 :=
  ofUnits negative (n * one) d

def units (m k : Nat) : Nat :=
  m * Nat.pow 2 k

def truncate? : Binary64 → Option Int
  | .finite negative m k _ =>
    let n : Int := (units m k / one : Nat)
    some (if negative then -n else n)
  | _ => none

def isInteger : Binary64 → Bool
  | .finite _ m k _ => units m k % one == 0
  | _ => false

def divNat (x : Binary64) (d : Nat) : Binary64 :=
  match x with
  | .finite negative m k _ => ofUnits negative (units m k) d
  | x => x

end Binary64

end Stencil
