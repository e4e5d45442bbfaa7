import Mathlib.Data.List.TakeWhile
import Stencil.Proofs.Exactness
import Stencil.Proofs.Numerals

/-! The written form of a number of double precision reads back as the number. -/

namespace Stencil

namespace Text

lemma number_append_zeros (ds : List Char) (z : Nat) :
    number (ds ++ List.replicate z '0') = number ds * 10 ^ z := by
  induction z with
  | zero => simp
  | succ z ih =>
    have hz : digitValue '0' = 0 := by decide
    rw [List.replicate_succ', ← List.append_assoc, number_append_singleton, ih, hz]
    ring

end Text

namespace Decimal

open Text

variable {ds fs mid tail : List Char} {negative : Bool}

lemma exists_digits_eq (n : Nat) :
    ∃ z, digits n = significant n ++ List.replicate z '0' := by
  let zeros := (digits n).reverse.takeWhile (· == '0')
  have hz : zeros = List.replicate zeros.length '0' := by
    apply List.eq_replicate_of_mem
    intro c hc
    exact beq_iff_eq.1 (List.mem_takeWhile_imp hc :)
  refine ⟨zeros.length, ?_⟩
  rw [significant, ← List.reverse_replicate, ← hz, ← List.reverse_append,
    List.takeWhile_append_dropWhile, List.reverse_reverse]

lemma significant_ne_nil {n : Nat} (h : n ≠ 0) : significant n ≠ [] := by
  intro hs
  obtain ⟨z, hz⟩ := exists_digits_eq n
  apply h
  rw [← number_digits n, hz, hs, number_append_zeros, number_nil, Nat.zero_mul]

lemma isDigit_of_mem_significant {n : Nat} {c : Char} (h : c ∈ significant n) :
    c.isDigit = true := by
  obtain ⟨z, hz⟩ := exists_digits_eq n
  exact isDigit_of_mem_digits (hz ▸ List.mem_append_left _ h)

lemma toBinary64_significant (d : Decimal) :
    (mk (number (significant d.coefficient))
      ((digits d.coefficient).length + d.exponent - (significant d.coefficient).length)).toBinary64
        negative = d.toBinary64 negative := by
  obtain ⟨z, hz⟩ := exists_digits_eq d.coefficient
  have hc : number (significant d.coefficient) * 10 ^ z = d.coefficient := by
    rw [← number_append_zeros, ← hz, number_digits]
  have hl := congrArg List.length hz
  rw [List.length_append, List.length_replicate] at hl
  have hx : ((digits d.coefficient).length + d.exponent - (significant d.coefficient).length : Int)
      = d.exponent + z := by omega
  rw [hx, ← toBinary64_shift, hc]

lemma span_digits {rest : List Char} (hd : ∀ c ∈ ds, c.isDigit = true)
    (hr : ∀ c, rest.head? = some c → Text.isDigit c = false) :
    (ds ++ rest).takeWhile Text.isDigit = ds ∧ (ds ++ rest).dropWhile Text.isDigit = rest :=
  span_append (fun c hc => isDigit_of_isDigit (hd c hc)) hr

def exponentOf (tail : List Char) : Option Int :=
  match tail with
  | [] => some 0
  | _ :: r => readExponent? r

lemma read?_append (hd : ∀ c ∈ ds, c.isDigit = true) (hn : ds ≠ [])
    (hf : ∀ c ∈ fs, c.isDigit = true) (hm : mid = '.' :: fs ∨ mid = [] ∧ fs = [])
    (ht : ∀ c, tail.head? = some c → c = 'e') :
    read? (ds ++ (mid ++ tail)) =
      (exponentOf tail).map fun x => ⟨number (ds ++ fs), -(fs.length : Int) + x⟩ := by
  have ht' : ∀ c, tail.head? = some c → Text.isDigit c = false := by
    intro c hc
    rw [ht c hc]
    decide
  have hm' : ∀ c, (mid ++ tail).head? = some c → Text.isDigit c = false := by
    rcases hm with rfl | ⟨rfl, -⟩
    · rintro c hc
      cases hc
      decide
    · exact ht'
  obtain ⟨hw, hr⟩ := span_digits hd hm'
  obtain ⟨hw', hr'⟩ := span_digits hf ht'
  have he : ds.isEmpty = false := by simpa using hn
  unfold read?
  simp only [hw, hr, he, Bool.false_eq_true, if_false]
  rcases hm with rfl | ⟨rfl, rfl⟩
  · simp only [List.cons_append, hw', hr']
    cases tail with
    | nil => simp [exponentOf, ofDigits]
    | cons c r =>
      obtain rfl := ht c rfl
      rfl
  · cases tail with
    | nil => simp [exponentOf, ofDigits]
    | cons c r =>
      obtain rfl := ht c rfl
      rfl

lemma read?_point (hd : ∀ c ∈ ds, c.isDigit = true) (hn : ds ≠ [])
    (hf : ∀ c ∈ fs, c.isDigit = true) :
    read? (ds ++ '.' :: fs) = some ⟨number (ds ++ fs), -(fs.length : Int)⟩ := by
  have hr := read?_append hd hn hf (.inl rfl) (nofun : ∀ c, [].head? = some c → c = 'e')
  rw [List.append_nil] at hr
  simpa [exponentOf] using hr

lemma exponentOf_exponentText (x : Int) : exponentOf (exponentText x) = some x := by
  have hd : (Calendar.padded '0' 2 x.natAbs).all Text.isDigit = true := by
    apply List.all_eq_true.2
    intro c hc
    exact isDigit_of_isDigit (Calendar.isDigit_of_mem_padded hc)
  have hn : (Calendar.padded '0' 2 x.natAbs).isEmpty = false := by
    simp [Calendar.padded, digits, Nat.toDigits_ne_nil]
  have hr : exponentText x = 'e' :: (if x < 0 then '-' else '+') :: Calendar.padded '0' 2 x.natAbs :=
    rfl
  rw [hr, exponentOf]
  by_cases hx : x < 0
  · have hs : -(x.natAbs : Int) = x := by omega
    simp only [if_pos hx, readExponent?, hd, hn, Calendar.number_padded, Bool.or_self, Bool.not_true,
      Bool.false_eq_true, if_false, if_true, hs]
  · have hs : (x.natAbs : Int) = x := by omega
    simp only [if_neg hx, readExponent?, hd, hn, Calendar.number_padded, Bool.or_self, Bool.not_true,
      Bool.false_eq_true, if_false, hs]

lemma read?_arrange (hd : ∀ c ∈ ds, c.isDigit = true) (hn : ds ≠ []) (point : Int) :
    ∃ z : Nat, read? (arrange ds point) = some ⟨number ds * 10 ^ z, point - ds.length - z⟩ := by
  have hz : ∀ k, ∀ c ∈ List.replicate k '0', c.isDigit = true := by
    intro k c hc
    rw [List.eq_of_mem_replicate hc]
    decide
  have h0 : ∀ c ∈ ['0'], c.isDigit = true := hz 1
  simp only [arrange]
  split_ifs with hpos hp hl
  · -- All digits follow the point.
    have hf := List.forall_mem_append.2 ⟨hz (-point).toNat, hd⟩
    have hr := read?_point h0 (List.cons_ne_nil _ _) hf
    have hnum : number (['0'] ++ (List.replicate (-point).toNat '0' ++ ds)) = number ds :=
      number_zeros_append ((-point).toNat + 1) ds
    rw [hnum] at hr
    refine ⟨0, hr.trans ?_⟩
    simp
    omega
  · -- All digits precede the point.
    have hw := List.forall_mem_append.2 ⟨hd, hz (point.toNat - ds.length)⟩
    have hr := read?_point hw (by simp [hn]) h0
    have hnum : number (ds ++ List.replicate (point.toNat - ds.length) '0' ++ ['0']) =
        number ds * 10 ^ (point.toNat - ds.length + 1) := by
      rw [← number_append_zeros, List.replicate_succ', List.append_assoc]
    rw [hnum] at hr
    refine ⟨point.toNat - ds.length + 1, hr.trans ?_⟩
    simp
    omega
  · -- The point stands among the digits.
    have hw : ∀ c ∈ ds.take point.toNat, c.isDigit = true :=
      fun c hc => hd c (List.mem_of_mem_take hc)
    have hf : ∀ c ∈ ds.drop point.toNat, c.isDigit = true :=
      fun c hc => hd c (List.mem_of_mem_drop hc)
    have hr := read?_point hw (by simp [hn]; omega) hf
    rw [List.take_append_drop] at hr
    refine ⟨0, hr.trans ?_⟩
    simp
    omega
  · have he : ∀ c, (exponentText (point - 1)).head? = some c → c = 'e' := by
      rintro c hc
      cases hc
      rfl
    rcases ds with _ | ⟨d, _ | ⟨e, ds⟩⟩
    · exact (hn rfl).elim
    · have hf : ∀ c ∈ ([] : List Char), c.isDigit = true := nofun
      have hr := read?_append hd hn hf (.inr ⟨rfl, rfl⟩) he
      rw [exponentOf_exponentText] at hr
      refine ⟨0, hr.trans ?_⟩
      simp
    · obtain ⟨h1, h2⟩ := List.forall_mem_cons.1 hd
      have hr := read?_append (List.forall_mem_singleton.2 h1) (List.cons_ne_nil d []) h2
        (.inl rfl) he
      rw [exponentOf_exponentText] at hr
      refine ⟨0, hr.trans ?_⟩
      simp
      omega

lemma read?_write (d : Decimal) :
    ∃ d', read? d.write = some d' ∧ ∀ negative, d'.toBinary64 negative = d.toBinary64 negative := by
  obtain ⟨c, x⟩ := d
  by_cases hc : c = 0
  · subst hc
    refine ⟨⟨0, -1⟩, ?_, fun _ => toBinary64_zero _ _⟩
    rw [write, if_pos rfl]
    decide
  · have hs : ∀ e ∈ significant c, e.isDigit = true := fun e he => isDigit_of_mem_significant he
    obtain ⟨z, hr⟩ := read?_arrange hs (significant_ne_nil hc) ((digits c).length + x)
    have hw : (mk c x).write = arrange (significant c) ((digits c).length + x) := if_neg hc
    refine ⟨_, hw ▸ hr, fun negative => ?_⟩
    rw [toBinary64_shift, Int.sub_add_cancel]
    exact toBinary64_significant ⟨c, x⟩

lemma exists_digit_of_read? {cs : List Char} {d : Decimal} (h : read? cs = some d) :
    ∃ c r, cs = c :: r ∧ Text.isDigit c = true := by
  cases cs with
  | nil => cases h
  | cons c r =>
    refine ⟨c, r, rfl, ?_⟩
    by_contra hc
    simp [read?, hc] at h

lemma mem_write (d : Decimal) : '.' ∈ d.write ∨ 'e' ∈ d.write := by
  rw [write]
  split
  · exact .inl (by decide)
  · next hc =>
    simp only [arrange]
    split_ifs
    · simp
    · simp
    · simp
    · rcases hs : significant d.coefficient with _ | ⟨c, _ | ⟨c', cs⟩⟩
      · exact (significant_ne_nil hc hs).elim
      · simp [exponentText]
      · simp

end Decimal

namespace Binary64

variable {m k : Nat}

lemma read?_of_isDigit (label : Nat) {c : Char} (hc : Text.isDigit c = true) (r : List Char) :
    read? label (c :: r) = (Decimal.read? (c :: r)).map (·.toBinary64 false) := by
  have hne : ∀ a, Text.isDigit a = false → c ≠ a := by
    rintro a ha rfl
    cases hc.symm.trans ha
  have hn := hne 'n' (by decide)
  have hi := hne 'i' (by decide)
  have hm := hne '-' (by decide)
  simp [read?, hn, hi, hm]

lemma read?_of_minus (label : Nat) {c : Char} (hc : Text.isDigit c = true) (r : List Char) :
    read? label ('-' :: c :: r) = (Decimal.read? (c :: r)).map (·.toBinary64 true) := by
  have hi : c ≠ 'i' := by
    rintro rfl
    exact absurd hc (by decide)
  simp [read?, hi]

theorem read?_write (label : Nat) (negative : Bool) (h : IsCanonical m k) :
    read? label (write (.finite negative m k h)) = some (.finite negative m k h) := by
  obtain ⟨d, hd, hv⟩ := (Decimal.shortest m k h).read?_write
  obtain ⟨c, r, hw, hc⟩ := Decimal.exists_digit_of_read? hd
  have hs := (hv negative).trans (Decimal.toBinary64_shortest h)
  rw [hw] at hd
  cases negative with
  | false =>
    simp only [write, hw, Bool.false_eq_true, if_false, List.nil_append]
    rw [read?_of_isDigit label hc, hd, Option.map_some, hs]
  | true =>
    simp only [write, hw, if_true, List.cons_append, List.nil_append]
    rw [read?_of_minus label hc, hd, Option.map_some, hs]

lemma mem_write (negative : Bool) (h : IsCanonical m k) :
    '.' ∈ write (.finite negative m k h) ∨ 'e' ∈ write (.finite negative m k h) := by
  rw [write]
  exact (Decimal.shortest m k h).mem_write.imp (List.mem_append_right _) (List.mem_append_right _)

end Binary64

end Stencil
