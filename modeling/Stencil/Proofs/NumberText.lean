import Stencil.Proofs.Answering
import Stencil.Proofs.Sameness
import Stencil.Proofs.WrittenForm

/-! The text of a number says which number it is, and no more. -/

namespace Stencil

open Binary64

namespace Place

def readWhole : List Char → Int
  | '-' :: ds => -(Text.number ds : Int)
  | ds => Text.number ds

def ofText (s : String) : Option Place :=
  let cs := s.toList
  if '.' ∈ cs ∨ 'e' ∈ cs then (Binary64.read? 0 cs).bind Binary64.place?
  else if 'I' ∈ cs then some (if '-' ∈ cs then bottom else top)
  else some (units (readWhole cs * one))

lemma readWhole_digits (n : Nat) : readWhole (Decimal.digits n) = n := by
  have hd : ∀ c ∈ Decimal.digits n, c.isDigit = true := fun c => Decimal.isDigit_of_mem_digits
  have hn := Text.number_digits n
  cases h : Decimal.digits n with
  | nil =>
    rw [h] at hn
    simp [readWhole, ← hn]
  | cons c cs =>
    have hc : c ≠ '-' := by
      rintro rfl
      exact absurd (hd '-' (by simp [h])) (by decide)
    rw [h] at hn
    simp [readWhole, hc, hn]

lemma not_mem_integerText {c : Char} (hm : c ≠ '-') (hc : c.isDigit = false) (n : Int) :
    c ∉ (Number.integerText n).toList := by
  intro h
  rw [Number.integerText, String.toList_ofList, List.mem_append] at h
  rcases h with h | h
  · split at h
    · exact hm (List.mem_singleton.1 h)
    · cases h
  · cases hc.symm.trans (Decimal.isDigit_of_mem_digits h)

lemma ofText_integerText (n : Int) : ofText (Number.integerText n) = some (units (n * one)) := by
  have hr : readWhole (Number.integerText n).toList = n := by
    rw [Number.integerText, String.toList_ofList]
    by_cases hn : n < 0
    · rw [if_pos hn]
      have hd := Text.number_digits n.natAbs
      simp only [List.cons_append, List.nil_append, readWhole, hd]
      omega
    · rw [if_neg hn, List.nil_append, readWhole_digits]
      omega
  have hp := not_mem_integerText (c := '.') (by decide) (by decide) n
  have he := not_mem_integerText (c := 'e') (by decide) (by decide) n
  have hi := not_mem_integerText (c := 'I') (by decide) (by decide) n
  simp only [ofText, hp, he, hi, or_self, if_false, hr]

lemma ofText_write (negative : Bool) {m k : Nat} (h : IsCanonical m k) :
    ofText (String.ofList (Binary64.write (.finite negative m k h))) =
      Binary64.place? (.finite negative m k h) := by
  have hm := Binary64.mem_write negative h
  simp only [ofText, String.toList_ofList, if_pos hm, Binary64.read?_write 0 negative h,
    Option.bind_some]

end Place

namespace Number

variable {a b : Number} {n u : Int}

lemma text_of_whole (h : a.place? = some (.units (n * one))) : a.text = writeInteger n := by
  have h0 : (one : Int) ≠ 0 := Int.natCast_ne_zero.2 Binary64.one_pos.ne'
  cases a with
  | int m =>
    simp only [place?, Option.some.injEq, Place.units.injEq] at h
    rw [text, Int.eq_of_mul_eq_mul_right h0 h]
  | float x =>
    cases x with
    | nan label => cases h
    | infinite negative => cases negative <;> cases h
    | finite negative m k hc =>
      simp only [place?, Binary64.place?, Option.some.injEq, Place.units.injEq] at h
      have hs : (units m k : Int) = (if negative then -n else n) * one := by
        cases negative with
        | false => exact h
        | true =>
          rw [if_pos rfl, Int.neg_mul, ← h, if_pos rfl, Int.neg_neg]
      have hd : units m k % one = 0 := by
        have hdvd : (one : Int) ∣ units m k := ⟨_, hs.trans (Int.mul_comm _ _)⟩
        exact Nat.mod_eq_zero_of_dvd (Int.natCast_dvd_natCast.1 hdvd)
      have hq : ((units m k / one : Nat) : Int) = if negative then -n else n := by
        rw [Int.natCast_ediv, hs, Int.mul_ediv_cancel _ h0]
      have ht : (finite negative m k hc).truncate? = some n := by
        rw [truncate?, hq]
        cases negative <;> simp
      have hi : (finite negative m k hc).isInteger = true := by simp [isInteger, hd]
      simp only [text, hi, ht]

lemma exists_fraction (h : a.place? = some (.units u)) (hu : ¬ (one : Int) ∣ u) :
    ∃ negative m k hc, a = .float (.finite negative m k hc) ∧
      a.text = .ok (String.ofList (Binary64.write (.finite negative m k hc))) := by
  cases a with
  | int m =>
    cases h
    exact (hu (Int.dvd_mul_left _ _)).elim
  | float x =>
    cases x with
    | nan label => cases h
    | infinite negative => cases negative <;> cases h
    | finite negative m k hc =>
      have hd : ¬ one ∣ units m k := by
        intro hd
        have hi := Int.natCast_dvd_natCast.2 hd
        simp only [place?, Binary64.place?, Option.some.injEq, Place.units.injEq] at h
        subst h
        split at hu
        · exact hu (Int.dvd_neg.2 hi)
        · exact hu hi
      have hi : (finite negative m k hc).isInteger = false := by
        simpa [isInteger, Nat.dvd_iff_mod_eq_zero] using hd
      refine ⟨negative, m, k, hc, rfl, ?_⟩
      simp only [text, hi]

lemma eq_of_place? {x y : Binary64} (hx : x.place? = some (.units u))
    (hy : y.place? = some (.units u)) (hu : u ≠ 0) : x = y := by
  cases x with
  | nan label => cases hx
  | infinite negative => cases negative <;> cases hx
  | finite negative m k hc =>
    cases y with
    | nan label => cases hy
    | infinite negative => cases negative <;> cases hy
    | finite negative' m' k' hc' =>
      simp only [Binary64.place?, Option.some.injEq, Place.units.injEq] at hx hy
      have hs : negative = negative' ∧ units m k = units m' k' := by
        cases negative <;> cases negative' <;> simp at hx hy ⊢ <;> omega
      obtain ⟨rfl, he⟩ := hs
      obtain ⟨rfl, rfl⟩ := eq_of_units_eq hc hc' he
      rfl

lemma eq_infinite (negative : Bool) (h : a.place? = some (if negative then .bottom else .top)) :
    a = .float (.infinite negative) := by
  cases a with
  | int n => cases negative <;> cases h
  | float x =>
    cases x with
    | infinite negative' => cases negative <;> cases negative' <;> first | rfl | cases h
    | _ => cases negative <;> cases h

end Number

inductive Place.Spells : Place → String → Prop
  | top : Spells .top "Infinity"
  | bottom : Spells .bottom "-Infinity"
  | whole (n : Int) : Spells (.units (n * one)) (Number.integerText n)
  | fraction {u : Int} {negative m k hc} : ¬ (one : Int) ∣ u →
      Binary64.place? (.finite negative m k hc) = some (.units u) →
      Spells (.units u) (String.ofList (Binary64.write (.finite negative m k hc)))

namespace Place.Spells

variable {p : Place} {s t : String}

lemma ofText (h : Spells p s) : Place.ofText s = some p := by
  cases h with
  | top => decide
  | bottom => decide
  | whole n => exact ofText_integerText n
  | fraction _ hp => rw [ofText_write, hp]

lemma unique (hs : Spells p s) (ht : Spells p t) : s = t := by
  have h0 : (one : Int) ≠ 0 := Int.natCast_ne_zero.2 Binary64.one_pos.ne'
  generalize hq : p = q at ht
  cases hs with
  | top =>
    cases ht <;> cases hq
    rfl
  | bottom =>
    cases ht <;> cases hq
    rfl
  | whole n =>
    cases ht with
    | top => cases hq
    | bottom => cases hq
    | whole n' => rw [Int.eq_of_mul_eq_mul_right h0 (Place.units.inj hq)]
    | fraction hu =>
      cases hq
      exact (hu (Int.dvd_mul_left _ _)).elim
  | fraction hu hp =>
    cases ht with
    | top => cases hq
    | bottom => cases hq
    | whole n' =>
      cases hq
      exact (hu (Int.dvd_mul_left _ _)).elim
    | fraction _ hp' =>
      cases hq
      rw [Number.eq_of_place? hp hp' fun h => hu (h ▸ Int.dvd_zero _)]

end Place.Spells

namespace Number

variable {a b : Number} {p : Place} {s : String}

lemma integerText_of_writeInteger {n : Int} (h : writeInteger n = .ok s) : integerText n = s := by
  unfold writeInteger at h
  split_ifs at h
  exact Except.ok.inj h

lemma spells_of_text (hp : a.place? = some p) (hs : a.text = .ok s) : p.Spells s := by
  cases p with
  | top =>
    obtain rfl := eq_infinite false hp
    exact Except.ok.inj hs ▸ .top
  | bottom =>
    obtain rfl := eq_infinite true hp
    exact Except.ok.inj hs ▸ .bottom
  | units u =>
    by_cases hu : (one : Int) ∣ u
    · obtain ⟨n, rfl⟩ := hu
      rw [Int.mul_comm] at hp ⊢
      rw [text_of_whole hp] at hs
      exact integerText_of_writeInteger hs ▸ .whole n
    · obtain ⟨negative, m, k, hc, rfl, ht⟩ := exists_fraction hp hu
      rw [ht] at hs
      exact Except.ok.inj hs ▸ .fraction hu hp

/-- A whole number of at most 4300 digits, or a number of double precision that is defined. -/
inductive Legible : Number → Prop
  | int {n : Int} : ¬ TooLong n → Legible (.int n)
  | float {x : Binary64} : x.place? ≠ none → Legible (.float x)

lemma Legible.exists_text (h : a.Legible) : ∃ s, a.text = .ok s := by
  cases ht : a.text with
  | ok s => exact ⟨s, rfl⟩
  | error e =>
    cases h with
    | int hn => exact (hn (writeInteger_eq_error.1 ht).1).elim
    | float hx => exact (text_float _ e ht).elim

lemma Legible.exists_place (h : a.Legible) : ∃ p, a.place? = some p := by
  cases h with
  | int hn => exact ⟨_, rfl⟩
  | float hx => exact Option.ne_none_iff_exists'.1 hx

/-- Numbers of whatever kind have the same text exactly where they are equal. -/
theorem toText_eq_iff (ha : a.Legible) (hb : b.Legible) :
    ∃ s t, (Value.number a).toText = .ok s ∧ (Value.number b).toText = .ok t ∧
      (s = t ↔ Comparison.eq.holds (.number a) (.number b) = true) := by
  obtain ⟨s, hs⟩ := ha.exists_text
  obtain ⟨t, ht⟩ := hb.exists_text
  obtain ⟨p, hp⟩ := ha.exists_place
  obtain ⟨q, hq⟩ := hb.exists_place
  have hps := spells_of_text hp hs
  have hqt := spells_of_text hq ht
  refine ⟨s, t, hs, ht, ?_⟩
  have he : Comparison.eq.holds (.number a) (.number b) = true ↔ p = q := by
    have h := eq_iff (m := a) (n := b)
    rw [hp, hq] at h
    exact h.trans (by simp [eq_comm])
  rw [he]
  constructor
  · rintro rfl
    exact Option.some.inj (hps.ofText.symm.trans hqt.ofText)
  · rintro rfl
    exact hps.unique hqt

theorem toText_eq_iff_ten_quadrillion :
    let a : Number := .float (.finite false (5 * 10 ^ 15) 1075 (by decide))
    let b : Number := .int (10 ^ 16)
    a.Legible ∧ b.Legible ∧ Comparison.eq.holds (.number a) (.number b) = true ∧
      (Value.number a).toText = (Value.number b).toText := by
  intro a b
  have ha : a.Legible := .float nofun
  have hb : b.Legible := .int fun h => absurd (tooLong_iff.1 h) (by decide +kernel)
  have he : Comparison.eq.holds (.number a) (.number b) = true := by decide +kernel
  obtain ⟨s, t, hs, ht, h⟩ := toText_eq_iff ha hb
  exact ⟨ha, hb, he, by rw [hs, ht, h.2 he]⟩

end Number

end Stencil
