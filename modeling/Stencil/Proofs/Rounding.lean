import Mathlib.Tactic.Ring
import Stencil.Calendar.Instant

/-! Rounding to double precision, and the whole seconds of a number of milliseconds. -/

namespace Stencil

namespace Binary64

structure Near (p n d u : Nat) : Prop where
  ge : 2 * n ≤ 2 * (d * u) + d * p
  le : 2 * (d * u) ≤ 2 * n + d * p
  eq_of_dvd : d * p ∣ n → d * u = n

lemma near_roundDiv (n : Nat) {d : Nat} (hd : 0 < d) : Near 1 n d (roundDiv n d) := by
  have hn := Nat.div_add_mod n d
  have hr := Nat.mod_lt n hd
  refine ⟨?_, ?_, fun h => ?_⟩
  · rw [roundDiv]
    split_ifs with hl hg
    · omega
    · rw [Nat.mul_add]
      omega
    · rw [Nat.mul_add]
      omega
  · rw [roundDiv]
    split_ifs with hl hg
    · omega
    · rw [Nat.mul_add]
      omega
    · have hp : d * (n / d % 2) ≤ d * 1 := Nat.mul_le_mul_left d (by omega)
      rw [Nat.mul_add]
      omega
  · have hz := Nat.mod_eq_zero_of_dvd ((Nat.mul_one d) ▸ h)
    rw [roundDiv, hz, if_pos (by omega)]
    omega

lemma Near.scale {p n d u s : Nat} (h : Near p n (d * s) u) : Near (s * p) n d (u * s) := by
  have hu : d * (u * s) = d * s * u := by rw [Nat.mul_comm u s, Nat.mul_assoc]
  obtain ⟨hg, hl, he⟩ := h
  rw [Nat.mul_assoc d s p] at hg hl he
  exact ⟨hu ▸ hg, hu ▸ hl, hu ▸ he⟩

lemma Near.of_dvd {p q n d u : Nat} (h : Near p n d u) (hq : 0 < q) (hp : p ∣ q) :
    Near q n d u := by
  have hd := Nat.mul_le_mul_left d (Nat.le_of_dvd hq hp)
  obtain ⟨hg, hl, he⟩ := h
  exact ⟨by omega, by omega, fun h => he ((Nat.mul_dvd_mul_left d hp).trans h)⟩

lemma exists_ofScaled (negative : Bool) {m k : Nat} (hm : m ≤ Nat.pow 2 53)
    (hk : k = 0 ∨ Nat.pow 2 52 ≤ m) (hk' : k < 2045) :
    ∃ m' k' h, ofScaled negative m k hm hk = .finite negative m' k' h ∧
      units m' k' = units m k := by
  rw [ofScaled]
  split
  · next hc =>
    refine ⟨Nat.pow 2 52, k + 1, ⟨by decide, hk', .inr (Nat.le_refl _)⟩, dif_pos hk', ?_⟩
    have hp : 2 ^ 52 * 2 ^ (k + 1) = 2 ^ 53 * 2 ^ k := by
      rw [← Nat.pow_add, ← Nat.pow_add]
      congr 1
      omega
    rw [hc]
    exact hp
  · next hc =>
    have hlt : m < Nat.pow 2 53 := Nat.lt_of_le_of_ne hm hc
    exact ⟨m, k, ⟨hlt, Nat.le_of_lt hk', hk⟩, dif_pos (Nat.le_of_lt hk'), rfl⟩

lemma excess_le {q k : Nat} (h : q < 2 ^ (53 + k)) : excess q ≤ k := by
  by_contra hn
  have hq := two_pow_excess_le q (by omega)
  have hp : 2 ^ (53 + k) ≤ 2 ^ (52 + excess q) := Nat.pow_le_pow_right (by decide) (by omega)
  exact absurd (h.trans_le hp) (Nat.not_lt.2 hq)

lemma exists_ofUnits (negative : Bool) {n d k : Nat} (hd : 0 < d) (hk : k < 2045)
    (h : n / d < 2 ^ (53 + k)) :
    ∃ m k' hc, ofUnits negative n d = .finite negative m k' hc ∧ Near (2 ^ k) n d (units m k') := by
  have he := excess_le h
  have hb := div_pow_excess_bounds n d
  generalize hx : excess (n / d) = x at he hb
  have hm : roundDiv n (d * Nat.pow 2 x) ≤ Nat.pow 2 53 := (roundDiv_le _ _).trans hb.1
  have hm' : x = 0 ∨ Nat.pow 2 52 ≤ roundDiv n (d * Nat.pow 2 x) :=
    hb.2.imp_right fun h => h.trans (le_roundDiv _ _)
  obtain ⟨m, k', hc, hf, hu⟩ := exists_ofScaled negative hm hm' (he.trans_lt hk)
  refine ⟨m, k', hc, ?_, ?_⟩
  · subst hx
    exact hf
  · have hn := (near_roundDiv n (Nat.mul_pos hd (Nat.two_pow_pos x))).scale
    rw [Nat.mul_one] at hn
    rw [hu]
    exact hn.of_dvd (Nat.two_pow_pos k) (Nat.pow_dvd_pow 2 he)

/-- The 16384th part of a second. A number of milliseconds of at most 48 bits is divided by a
thousand to within half of it. -/
def tick : Nat :=
  2 ^ (unitExponent - 14)

lemma tick_pos : 0 < tick :=
  Nat.two_pow_pos _

lemma one_eq : one = 16384 * tick := by
  have he : unitExponent = 14 + (unitExponent - 14) := by decide
  unfold one tick
  generalize unitExponent - 14 = e at he ⊢
  generalize unitExponent = x at he ⊢
  subst he
  exact Nat.pow_add 2 14 e

lemma exists_ofUnits_tick (negative : Bool) {n d : Nat} (hd : 0 < d)
    (h : n < d * (2 ^ 53 * tick)) :
    ∃ m k hc, ofUnits negative n d = .finite negative m k hc ∧ Near tick n d (units m k) := by
  have hk : unitExponent - 14 < 2045 := by decide
  unfold tick at h ⊢
  generalize unitExponent - 14 = e at h hk ⊢
  refine exists_ofUnits negative hd hk ?_
  rw [Nat.div_lt_iff_lt_mul hd, Nat.pow_add, Nat.mul_comm]
  exact h

end Binary64

namespace Calendar.Instant

open Binary64

lemma exists_thousandth {v : Int} (hv : v.natAbs < 2 ^ 48) :
    ∃ m k hc, thousandth (.int v) = .finite (v < 0) m k hc ∧
      Near tick (v.natAbs * one) 1000 (units m k) := by
  refine exists_ofUnits_tick (decide (v < 0)) (by decide) ?_
  have hm := Nat.mul_lt_mul_of_pos_right hv tick_pos
  rw [one_eq, Nat.mul_left_comm]
  omega

section

variable {n u : Nat}

lemma eq_of_near (h : Near tick (n * one) 1000 u) (hn : n % 1000 = 0) : u = n / 1000 * one := by
  obtain ⟨q, rfl⟩ := Nat.dvd_of_mod_eq_zero hn
  have hd : 1000 * tick ∣ 1000 * q * one :=
    ⟨q * 16384, by rw [one_eq]; ring⟩
  have hu := h.eq_of_dvd hd
  rw [Nat.mul_assoc] at hu
  rw [Nat.mul_div_cancel_left q (by decide)]
  exact Nat.eq_of_mul_eq_mul_left (by decide) hu

lemma divMod_of_near (h : Near tick (n * one) 1000 u) (hn : n % 1000 ≠ 0) :
    u / one = n / 1000 ∧ tick ≤ u % one ∧ u % one + tick ≤ one := by
  have hp := tick_pos
  have hr : n % 1000 ≤ 999 := by omega
  have hrl := Nat.mul_le_mul_right tick (Nat.pos_of_ne_zero hn)
  have hru := Nat.mul_le_mul_right tick hr
  have he : n * one = 16384 * (1000 * (n / 1000 * tick) + n % 1000 * tick) := by
    nth_rewrite 1 [one_eq, ← Nat.div_add_mod n 1000]
    ring
  have ho : n / 1000 * one = 16384 * (n / 1000 * tick) := by
    rw [one_eq]
    ring
  obtain ⟨f, rfl⟩ : ∃ f, u = n / 1000 * one + f := Nat.exists_eq_add_of_le (by
    have hg := h.ge
    omega)
  obtain ⟨hg, hl, -⟩ := h
  have hf : f + tick ≤ one := by
    rw [one_eq]
    omega
  have hlt : f < one := by omega
  rw [Nat.add_comm, Nat.add_mul_div_right f _ Binary64.one_pos, Nat.div_eq_of_lt hlt,
    Nat.add_mul_mod_self_right, Nat.mod_eq_of_lt hlt, Nat.zero_add]
  exact ⟨rfl, by omega, hf⟩

end

lemma exists_microseconds (negative : Bool) (m k : Nat) :
    ∃ w, Near tick (units m k % one * microsecondsPerSecond) 1 w ∧
      wholeSeconds negative m k =
        if negative then
          if 0 < roundDiv w one then -((units m k / one : Nat) : Int) - 1
          else -((units m k / one : Nat) : Int)
        else if microsecondsPerSecond ≤ roundDiv w one then ((units m k / one : Nat) : Int) + 1
        else (units m k / one : Nat) := by
  have hu := Nat.mod_lt (units m k) Binary64.one_pos
  have hlt : units m k % one * microsecondsPerSecond < 1 * (2 ^ 53 * tick) := by
    rw [one_eq] at hu ⊢
    unfold microsecondsPerSecond
    omega
  obtain ⟨m', k', hc, hf, hn⟩ := exists_ofUnits_tick false Nat.one_pos hlt
  refine ⟨units m' k', hn, ?_⟩
  simp only [wholeSeconds, hf]

lemma roundDiv_of_whole {w : Nat} (h : Near tick 0 1 w) : roundDiv w one = 0 := by
  have hw := h.eq_of_dvd (Nat.dvd_zero _)
  have hr := (near_roundDiv 0 Binary64.one_pos).eq_of_dvd (Nat.dvd_zero _)
  rw [Nat.one_mul] at hw
  rw [hw]
  exact (Nat.mul_eq_zero.1 hr).resolve_left Binary64.one_pos.ne'

lemma roundDiv_of_fraction {f w : Nat} (hl : tick ≤ f) (hu : f + tick ≤ one)
    (h : Near tick (f * microsecondsPerSecond) 1 w) :
    0 < roundDiv w one ∧ roundDiv w one < microsecondsPerSecond := by
  have hr := near_roundDiv w Binary64.one_pos
  have hp := tick_pos
  obtain ⟨hg, hl', -⟩ := h
  obtain ⟨hrg, hrl, -⟩ := hr
  generalize roundDiv w one = r at *
  rw [one_eq] at hu hrg hrl
  generalize tick = p at *
  unfold microsecondsPerSecond at *
  constructor
  · by_contra h
    obtain rfl : r = 0 := by omega
    omega
  · by_contra h
    have hm := Nat.mul_le_mul_left (16384 * p) (Nat.not_lt.1 h)
    omega

lemma wholeSeconds_of_near (negative : Bool) {n m k : Nat}
    (h : Near tick (n * one) 1000 (units m k)) :
    wholeSeconds negative m k = (if negative then -(n : Int) else n) / 1000 := by
  obtain ⟨w, hw, hs⟩ := exists_microseconds negative m k
  rw [hs]
  -- Whole seconds are divided exactly. Otherwise a thousandth is left on either side of the quotient,
  -- and neither rounding goes so far.
  by_cases hn : n % 1000 = 0
  · have hu := eq_of_near h hn
    rw [hu, Nat.mul_mod_left, Nat.zero_mul] at hw
    rw [hu, Nat.mul_div_cancel _ Binary64.one_pos, roundDiv_of_whole hw]
    cases negative with
    | true =>
      rw [if_pos rfl, if_neg (Nat.lt_irrefl 0), if_pos rfl]
      omega
    | false => rfl
  · obtain ⟨hd, hl, hu⟩ := divMod_of_near h hn
    obtain ⟨hpos, hlt⟩ := roundDiv_of_fraction hl hu hw
    rw [hd]
    cases negative with
    | true =>
      rw [if_pos rfl, if_pos hpos, if_pos rfl]
      omega
    | false =>
      rw [if_neg Bool.false_ne_true, if_neg (Nat.not_le.2 hlt), if_neg Bool.false_ne_true]
      exact Int.natCast_ediv n 1000

lemma exists_wholeSeconds {v : Int} (hv : v.natAbs < 2 ^ 48) :
    ∃ m k hc, thousandth (.int v) = .finite (v < 0) m k hc ∧
      wholeSeconds (v < 0) m k = v / 1000 := by
  obtain ⟨m, k, hc, hf, hn⟩ := exists_thousandth hv
  refine ⟨m, k, hc, hf, ?_⟩
  have hs : (if decide (v < 0) then -(v.natAbs : Int) else v.natAbs) = v := by
    simp only [decide_eq_true_eq]
    split <;> omega
  rw [wholeSeconds_of_near _ hn, hs]

end Calendar.Instant

end Stencil
