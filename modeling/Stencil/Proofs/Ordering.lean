import Mathlib.Algebra.Order.Field.Rat
import Mathlib.Algebra.Order.Ring.Cast
import Mathlib.Data.Int.Cast.Lemmas
import Mathlib.Data.String.Basic
import Mathlib.Order.WithBotTop
import Stencil.Proofs.Sameness

/-! Equality of values is an equivalence, and the order of numbers is that of their exact values. -/

namespace Stencil

namespace Binary64

def value? : Binary64 → Option (WithBotTop ℚ)
  | .nan _ => none
  | .infinite negative => some (if negative then ⊥ else ⊤)
  | .finite negative m k _ =>
    let magnitude : ℚ := m * 2 ^ ((k : ℤ) - unitExponent)
    some (WithBotTop.coe (if negative then -magnitude else magnitude))

end Binary64

namespace Number

def value? : Number → Option (WithBotTop ℚ)
  | .int n => some (n : ℚ)
  | .float x => x.value?

end Number

namespace Place

def value : Place → WithBotTop ℚ
  | bottom => ⊥
  | units n => (n / Binary64.one : ℚ)
  | top => ⊤

lemma units_value (n : ℤ) : (units n).value = (n / Binary64.one : ℚ) :=
  rfl

lemma lt_iff_value_lt {p q : Place} : p.lt q = true ↔ p.value < q.value := by
  have ho : (0 : ℚ) < Binary64.one := Nat.cast_pos.2 Binary64.one_pos
  cases p with
  | bottom =>
    cases q with
    | bottom => exact iff_of_false Bool.false_ne_true (lt_irrefl _)
    | units b => exact iff_of_true rfl (bot_lt_iff_ne_bot.2 (WithBotTop.coe_ne_bot _))
    | top => exact iff_of_true rfl (bot_lt_iff_ne_bot.2 WithBotTop.top_ne_bot)
  | units a =>
    cases q with
    | bottom => exact iff_of_false Bool.false_ne_true not_lt_bot
    | units b =>
      rw [units_value, units_value, WithBotTop.coe_lt_coe, div_lt_div_iff_of_pos_right ho,
        Int.cast_lt]
      exact decide_eq_true_iff
    | top => exact iff_of_true rfl (lt_top_iff_ne_top.2 (WithBotTop.coe_ne_top _))
  | top => cases q <;> exact iff_of_false Bool.false_ne_true not_top_lt

lemma value_injective : Function.Injective value := by
  have ho : (Binary64.one : ℚ) ≠ 0 := Nat.cast_ne_zero.2 Binary64.one_pos.ne'
  intro p q h
  cases p with
  | bottom =>
    cases q with
    | bottom => rfl
    | units b => exact (WithBotTop.coe_ne_bot _ h.symm).elim
    | top => exact (WithBotTop.top_ne_bot h.symm).elim
  | units a =>
    cases q with
    | bottom => exact (WithBotTop.coe_ne_bot _ h).elim
    | units b => rw [Int.cast_injective ((div_left_inj' ho).1 (WithBotTop.coe_injective h))]
    | top => exact (WithBotTop.coe_ne_top _ h).elim
  | top =>
    cases q with
    | bottom => exact (WithBotTop.top_ne_bot h).elim
    | units b => exact (WithBotTop.coe_ne_top _ h.symm).elim
    | top => rfl

end Place

lemma Binary64.value?_eq (x : Binary64) : x.value? = x.place?.map Place.value := by
  have ho : (one : ℚ) = 2 ^ (unitExponent : ℤ) := by
    unfold one
    generalize unitExponent = e
    rw [Nat.pow_eq, Nat.cast_pow, zpow_natCast, Nat.cast_ofNat]
  cases x with
  | nan label => rfl
  | infinite negative => cases negative <;> rfl
  | finite negative m k hc =>
    have hu : (m * 2 ^ ((k : ℤ) - unitExponent) : ℚ) = (units m k : ℤ) / one := by
      rw [ho, zpow_sub₀ two_ne_zero, units, Nat.pow_eq]
      push_cast
      rw [zpow_natCast, mul_div_assoc]
    simp only [value?, place?, Option.map_some, Place.units_value, hu]
    generalize (one : ℚ) = o
    cases negative <;> simp [neg_div]

lemma Number.value?_eq (n : Number) : n.value? = n.place?.map Place.value := by
  cases n with
  | int n =>
    have ho : (Binary64.one : ℚ) ≠ 0 := Nat.cast_ne_zero.2 Binary64.one_pos.ne'
    simp only [value?, place?, Option.map_some, Place.units_value, Int.cast_mul, Int.cast_natCast,
      mul_div_cancel_right₀ _ ho]
  | float x => exact x.value?_eq

namespace Number

variable {m n : Number} {x y : WithBotTop ℚ}

lemma exists_place (h : n.value? = some x) : ∃ p, n.place? = some p ∧ p.value = x := by
  rw [value?_eq] at h
  exact Option.map_eq_some_iff.1 h

lemma eq_eq_decide (hm : m.value? = some x) (hn : n.value? = some y) : m.eq n = decide (x = y) := by
  obtain ⟨p, hp, rfl⟩ := exists_place hm
  obtain ⟨q, hq, rfl⟩ := exists_place hn
  simp [eq, hp, hq, Place.value_injective.eq_iff]

lemma lt_eq_decide (hm : m.value? = some x) (hn : n.value? = some y) : m.lt n = decide (x < y) := by
  obtain ⟨p, hp, rfl⟩ := exists_place hm
  obtain ⟨q, hq, rfl⟩ := exists_place hn
  rw [Bool.eq_iff_iff, decide_eq_true_iff, ← Place.lt_iff_value_lt]
  simp [lt, hp, hq]

end Number

namespace Value

lemma Alike.symm {v w : Value} (h : Alike v w) : Alike w v := by
  induction h with
  | null => exact .null
  | bool b => exact .bool b
  | number h =>
    obtain ⟨p, hm, hn⟩ := Number.eq_iff.1 h
    exact .number (Number.eq_iff.2 ⟨p, hn, hm⟩)
  | text s => exact .text s
  | sequence hl _ ih => exact .sequence hl.symm fun i x y hx hy => ih i y x hy hx
  | mapping hn _ ih =>
    exact .mapping (fun name => (hn name).symm) fun name v w hv hw => ih name w v hw hv
  | host id name name' => exact .host id name' name

lemma Alike.trans {u v w : Value} (h : Alike u v) (h' : Alike v w) : Alike u w := by
  induction h generalizing w with
  | null => exact h'
  | bool b => exact h'
  | text s => exact h'
  | number h =>
    cases h' with
    | number h' =>
      obtain ⟨p, hm, hn⟩ := Number.eq_iff.1 h
      obtain ⟨q, hn', hk⟩ := Number.eq_iff.1 h'
      obtain rfl := Option.some.inj (hn.symm.trans hn')
      exact .number (Number.eq_iff.2 ⟨p, hm, hk⟩)
  | sequence hl _ ih =>
    cases h' with
    | @sequence _ _ zs hl' h' =>
      refine .sequence (hl.trans hl') fun i x z hx hz => ?_
      obtain ⟨hi, -⟩ := List.getElem?_eq_some_iff.1 hx
      have hy := List.getElem?_eq_getElem (hl ▸ hi)
      exact ih i x _ hx hy (h' i _ z hy hz)
  | mapping hn _ ih =>
    cases h' with
    | mapping hn' h' =>
      refine .mapping (fun name => (hn name).trans (hn' name)) fun name u w hu hw => ?_
      obtain ⟨v, hv⟩ := Fields.exists_lookup ((hn name).1 (Fields.mem_names_of_lookup hu))
      exact ih name u v hu hv (h' name v w hv hw)
  | host id name name' =>
    cases h'
    exact .host id name _

lemma alike_counted {v : Value} (h : v.Plain) : Alike v.counted v.counted := by
  induction h with
  | null => exact .null
  | bool b => exact .number (Number.ofBool_eq_ofBool_iff.2 rfl)
  | @number n hn =>
    obtain ⟨p, hp⟩ := Option.ne_none_iff_exists'.1 hn
    exact .number (Number.eq_iff.2 ⟨p, hp, hp⟩)
  | text s => exact .text s
  | sequence _ ih =>
    rw [counted, countedItems_eq]
    refine .sequence rfl fun i x y hx hy => ?_
    obtain rfl := Option.some.inj (hx.symm.trans hy)
    obtain ⟨v, hv, rfl⟩ := List.mem_map.1 (List.mem_of_getElem? hx)
    exact ih v hv
  | @mapping fs _ _ ih =>
    rw [counted]
    refine .mapping (fun _ => Iff.rfl) fun name x y hx hy => ?_
    obtain rfl := Option.some.inj (hx.symm.trans hy)
    rw [lookup_countedFields, Option.map_eq_some_iff] at hx
    obtain ⟨v, hv, rfl⟩ := hx
    exact ih _ (Fields.mem_of_lookup hv)
  | host id name => exact .host id name name

lemma alike_countedWithin {v : Value} (h : v.Plain) : Alike v.countedWithin v.countedWithin := by
  cases v with
  | bool b => exact .bool b
  | _ => exact alike_counted h

section

variable {u v w : Value}

lemma eq_self (hv : v.Plain) : v.eq v = true :=
  (eq_iff_alike hv hv).2 (alike_countedWithin hv)

lemma eq_symm (hv : v.Plain) (hw : w.Plain) : v.eq w = w.eq v := by
  rw [Bool.eq_iff_iff, eq_iff_alike hv hw, eq_iff_alike hw hv]
  exact ⟨Alike.symm, Alike.symm⟩

lemma eq_trans (hu : u.Plain) (hv : v.Plain) (hw : w.Plain) (huv : u.eq v = true)
    (hvw : v.eq w = true) : u.eq w = true := by
  rw [eq_iff_alike hu hv] at huv
  rw [eq_iff_alike hv hw] at hvw
  exact (eq_iff_alike hu hw).2 (huv.trans hvw)

end

inductive Ordered : Value → Value → Prop
  | numbers (m n : Number) : Ordered (.number m) (.number n)
  | texts (s t : String) : Ordered (.text s) (.text t)

lemma Ordered.symm {v w : Value} (h : Ordered v w) : Ordered w v := by
  cases h with
  | numbers m n => exact .numbers n m
  | texts s t => exact .texts t s

lemma Plain.exists_value {n : Number} (h : (Value.number n).Plain) : ∃ x, n.value? = some x := by
  cases h with
  | number h =>
    obtain ⟨p, hp⟩ := Option.ne_none_iff_exists'.1 h
    exact ⟨p.value, by rw [Number.value?_eq, hp, Option.map_some]⟩

end Value

namespace Comparison

open Value

variable {u v w : Value} {m n : Number} {x y : WithBotTop ℚ}

lemma count_trichotomy {α : Type} [LinearOrder α] (a b : α) :
    [decide (a < b), decide (a = b), decide (b < a)].count true = 1 := by
  rcases lt_trichotomy a b with h | rfl | h
  · simp [h, h.ne, h.asymm]
  · simp
  · simp [h, h.ne', h.asymm]

lemma lt_number (hm : m.value? = some x) (hn : n.value? = some y) :
    lt.holds (.number m) (.number n) = decide (x < y) :=
  Number.lt_eq_decide hm hn

lemma eq_number (hm : m.value? = some x) (hn : n.value? = some y) :
    eq.holds (.number m) (.number n) = decide (x = y) :=
  Number.eq_eq_decide hm hn

lemma lt_text (s t : String) : lt.holds (.text s) (.text t) = decide (s < t) :=
  rfl

lemma gt_eq_lt (v w : Value) : gt.holds v w = lt.holds w v := by
  cases v <;> cases w <;> rfl

lemma count_ordered (hv : v.Plain) (hw : w.Plain) (h : Ordered v w) :
    [lt.holds v w, eq.holds v w, gt.holds v w].count true = 1 := by
  rw [gt_eq_lt]
  cases h with
  | numbers m n =>
    obtain ⟨x, hx⟩ := hv.exists_value
    obtain ⟨y, hy⟩ := hw.exists_value
    rw [lt_number hx hy, eq_number hx hy, lt_number hy hx]
    exact count_trichotomy x y
  | texts s t => exact count_trichotomy s t

lemma le_ge_ordered (h : Ordered v w) : le.holds v w = (lt.holds v w || eq.holds v w) ∧
    ge.holds v w = (gt.holds v w || eq.holds v w) := by
  cases h with
  | numbers m n => exact ⟨rfl, rfl⟩
  | texts s t => exact ⟨rfl, rfl⟩

lemma ordered_of_holds {op : Comparison} (hop : op ∈ [lt, le, gt, ge])
    (h : op.holds v w = true) : Ordered v w := by
  unfold holds at h
  split at h
  case h_1 | h_2 => simp at hop
  case h_3 | h_4 | h_5 | h_6 => exact .numbers _ _
  case h_7 | h_8 | h_9 | h_10 => exact .texts _ _
  case h_11 => cases h

lemma lt_trans (hu : u.Plain) (hv : v.Plain) (hw : w.Plain) (huv : lt.holds u v = true)
    (hvw : lt.holds v w = true) : lt.holds u w = true := by
  cases ordered_of_holds (by simp) huv with
  | numbers k m =>
    cases ordered_of_holds (by simp) hvw with
    | numbers _ n =>
      obtain ⟨x, hx⟩ := hu.exists_value
      obtain ⟨y, hy⟩ := hv.exists_value
      obtain ⟨z, hz⟩ := hw.exists_value
      rw [lt_number hx hy, decide_eq_true_iff] at huv
      rw [lt_number hy hz, decide_eq_true_iff] at hvw
      rw [lt_number hx hz, decide_eq_true_iff]
      exact huv.trans hvw
  | texts r s =>
    cases ordered_of_holds (by simp) hvw with
    | texts _ t =>
      rw [lt_text, decide_eq_true_iff] at *
      exact huv.trans hvw

theorem holds_consistent (hu : u.Plain) (hv : v.Plain) (hw : w.Plain) :
    (eq.holds v v = true ∧ eq.holds v w = eq.holds w v ∧
        (eq.holds u v = true → eq.holds v w = true → eq.holds u w = true)) ∧
      (Ordered v w → [lt.holds v w, eq.holds v w, gt.holds v w].count true = 1 ∧
        le.holds v w = (lt.holds v w || eq.holds v w) ∧
        ge.holds v w = (gt.holds v w || eq.holds v w)) ∧
      (lt.holds u v = true → lt.holds v w = true → lt.holds u w = true) ∧
      (∀ m n, v = .number m → w = .number n → ∃ x y, m.value? = some x ∧ n.value? = some y ∧
        lt.holds v w = decide (x < y) ∧ eq.holds v w = decide (x = y)) ∧
      (¬ Ordered v w → ∀ op ∈ [lt, le, gt, ge], op.holds v w = false ∧ op.holds w v = false) := by
  refine ⟨⟨eq_self hv, eq_symm hv hw, eq_trans hu hv hw⟩, ?_, lt_trans hu hv hw, ?_, ?_⟩
  · intro h
    exact ⟨count_ordered hv hw h, le_ge_ordered h⟩
  · rintro m n rfl rfl
    obtain ⟨x, hx⟩ := hv.exists_value
    obtain ⟨y, hy⟩ := hw.exists_value
    exact ⟨x, y, hx, hy, lt_number hx hy, eq_number hx hy⟩
  · intro h op hop
    refine ⟨Bool.eq_false_iff.2 fun hh => h ?_, Bool.eq_false_iff.2 fun hh => h ?_⟩
    · exact ordered_of_holds hop hh
    · exact (ordered_of_holds hop hh).symm

theorem holds_consistent_between_doubles :
    let u : Value := .number (.float (.finite false (2 ^ 52) 1075 (by decide)))
    let v : Value := .int (2 ^ 53 + 1)
    let w : Value := .number (.float (.finite false (2 ^ 52 + 1) 1075 (by decide)))
    u.Plain ∧ v.Plain ∧ w.Plain ∧ lt.holds u v = true ∧ lt.holds v w = true ∧
      lt.holds u w = true ∧ eq.holds w v = eq.holds v w := by
  intro u v w
  have hu : u.Plain := .number nofun
  have hv : v.Plain := .number nofun
  have hw : w.Plain := .number nofun
  have huv : lt.holds u v = true := by decide +kernel
  have hvw : lt.holds v w = true := by decide +kernel
  obtain ⟨⟨-, he, -⟩, -, ht, -⟩ := holds_consistent hu hv hw
  exact ⟨hu, hv, hw, huv, hvw, ht huv hvw, he.symm⟩

end Comparison

end Stencil
