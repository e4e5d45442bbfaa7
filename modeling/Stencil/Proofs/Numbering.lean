import Mathlib.Algebra.Ring.Nat
import Mathlib.Data.Nat.Find
import Mathlib.Order.Monotone.Basic
import Stencil.Calendar.Moment

/-! The numbers of dates: each date has a number of its own and is found again from it. -/

namespace Stencil.Calendar

def yearLength (y : Nat) : Nat :=
  (monthLengths y).sum

lemma yearLength_eq (y : Nat) : yearLength y = if isLeap y then 366 else 365 := by
  rw [yearLength, monthLengths]
  split <;> rfl

lemma succ_div_eq (d x : Nat) : (x + 1) / d = x / d + if (x + 1) % d = 0 then 1 else 0 := by
  rw [Nat.succ_div]
  simp only [Nat.dvd_iff_mod_eq_zero]

lemma daysBeforeYear_succ {y : Nat} (hy : 1 ≤ y) :
    daysBeforeYear (y + 1) = daysBeforeYear y + yearLength y := by
  obtain ⟨x, rfl⟩ := Nat.exists_eq_add_of_le' hy
  have hc : x / 100 ≤ x / 4 := by omega
  have hd : (x + 1) % 100 = 0 → (x + 1) % 4 = 0 := by omega
  have hd' : (x + 1) % 400 = 0 → (x + 1) % 100 = 0 := by omega
  simp only [yearLength_eq, daysBeforeYear, isLeap, Nat.add_sub_cancel, succ_div_eq,
    Bool.and_eq_true, Bool.or_eq_true, beq_iff_eq, bne_iff_ne]
  generalize x / 4 = a at *
  generalize x / 100 = b at *
  split_ifs <;> omega

lemma daysBeforeYear_mono {x y : Nat} (h : x ≤ y) : daysBeforeYear x ≤ daysBeforeYear y := by
  have hm : Monotone fun y => daysBeforeYear (y + 1) :=
    monotone_nat_of_le_succ fun y => by
      rw [daysBeforeYear_succ (Nat.le_add_left 1 y)]
      exact Nat.le_add_right _ _
  cases x with
  | zero => exact Nat.zero_le _
  | succ x =>
    obtain ⟨y, rfl⟩ := Nat.exists_eq_add_of_le' (Nat.le_trans (Nat.le_add_left 1 x) h)
    exact hm (Nat.le_of_succ_le_succ h)

lemma Date.yearOfNumber_eq {y n : Nat} (hy : 1 ≤ y) (hl : daysBeforeYear y < n)
    (hn : n ≤ daysBeforeYear (y + 1)) : yearOfNumber n = y := by
  -- The mean length of a year in a cycle of 400 of them misses the year by one at most.
  have hq : y ≤ 400 * (n - 1) / 146097 + 2 ∧ 400 * (n - 1) / 146097 + 1 ≤ y + 1 := by
    rw [daysBeforeYear] at hl hn
    omega
  obtain ⟨hq, hq'⟩ := hq
  rw [yearOfNumber]
  generalize 400 * (n - 1) / 146097 = q at hq hq' ⊢
  have hq : q + 1 = y ∨ q + 2 = y ∨ q = y := by omega
  rcases hq with rfl | rfl | rfl
  · rw [if_neg (Nat.not_lt.2 hn), if_neg (Nat.not_le.2 hl)]
  · rw [if_pos hl]
  · have hm := daysBeforeYear_mono (Nat.le_succ (q + 1))
    rw [if_neg (Nat.not_lt.2 (hn.trans hm)), if_pos hn, Nat.add_sub_cancel]

lemma exists_year {n : Nat} (hn : 1 ≤ n) :
    ∃ y, 1 ≤ y ∧ daysBeforeYear y < n ∧ n ≤ daysBeforeYear (y + 1) := by
  have he : ∃ y, n ≤ daysBeforeYear (y + 1) := ⟨n, by
    rw [daysBeforeYear, Nat.add_sub_cancel]
    omega⟩
  have hy : 1 ≤ Nat.find he := by
    rw [Nat.one_le_iff_ne_zero, ne_eq, Nat.find_eq_zero]
    exact Nat.not_le.2 hn
  have hl := Nat.find_min he (Nat.sub_lt hy Nat.one_pos)
  rw [Nat.sub_add_cancel hy, Nat.not_le] at hl
  exact ⟨Nat.find he, hy, hl, Nat.find_spec he⟩

lemma Date.yearOfNumber_le (n : Nat) : yearOfNumber n ≤ 400 * (n - 1) / 146097 + 2 := by
  rw [yearOfNumber]
  split_ifs <;> omega

lemma splitDays_of_lt (m d : Nat) {i : Nat} {ls : List Nat} (hi : i < ls.length) (hd : 1 ≤ d)
    (hl : d ≤ ls[i]) : Date.splitDays m ls ((ls.take i).sum + d) = (m + i, d) := by
  induction ls generalizing m i with
  | nil => exact absurd hi (Nat.not_lt_zero i)
  | cons l ls ih =>
    cases i with
    | zero =>
      have hl : d ≤ l := hl
      simp [Date.splitDays, hl]
    | succ i =>
      have hs : ((l :: ls).take (i + 1)).sum + d - l = (ls.take i).sum + d := by
        rw [List.take_succ_cons, List.sum_cons]
        omega
      have hn : ¬ ((l :: ls).take (i + 1)).sum + d ≤ l := by
        rw [List.take_succ_cons, List.sum_cons]
        omega
      rw [Date.splitDays, if_neg hn, hs, ih (m + 1) (Nat.lt_of_succ_lt_succ hi) hl]
      congr 1
      omega

lemma exists_month {d : Nat} {ls : List Nat} (hd : 1 ≤ d) (hl : d ≤ ls.sum) :
    ∃ i e, ∃ hi : i < ls.length, 1 ≤ e ∧ e ≤ ls[i] ∧ (ls.take i).sum + e = d := by
  induction ls generalizing d with
  | nil => exact absurd (hd.trans hl) (by decide)
  | cons l ls ih =>
    rw [List.sum_cons] at hl
    by_cases h : d ≤ l
    · exact ⟨0, d, Nat.zero_lt_succ _, hd, h, Nat.zero_add d⟩
    · obtain ⟨i, e, hi, he, hle, hs⟩ := ih (d := d - l) (by omega) (by omega)
      refine ⟨i + 1, e, Nat.succ_lt_succ hi, he, hle, ?_⟩
      rw [List.take_succ_cons, List.sum_cons]
      omega

lemma daysInMonth_le (y m : Nat) : daysInMonth y m ≤ 31 := by
  have h : ∀ l ∈ monthLengths y, l ≤ 31 := by
    rw [monthLengths]
    split <;> decide
  rw [daysInMonth]
  cases hl : (monthLengths y)[m - 1]? with
  | none => exact Nat.zero_le _
  | some l => exact h l (List.mem_of_getElem? hl)

lemma daysBeforeMonth_eq (y m : Nat) :
    daysBeforeMonth y m = ((monthLengths y).take (m - 1)).sum := by
  rw [List.sum_eq_foldl]
  rfl

namespace Date

variable (t : Date)

lemma monthIndex_lt : t.month - 1 < (monthLengths t.year).length := by
  have h := t.month_mem
  have hl : (monthLengths t.year).length = 12 := rfl
  omega

lemma day_le (hm : t.month - 1 < (monthLengths t.year).length) :
    t.day ≤ (monthLengths t.year)[t.month - 1] := by
  have h := t.day_mem.2
  rwa [daysInMonth, List.getElem?_eq_getElem hm, Option.getD_some] at h

lemma dayOfYear_le : t.dayOfYear ≤ yearLength t.year := by
  have hd := t.day_le t.monthIndex_lt
  have hs := congrArg List.sum (List.take_append_drop (t.month - 1) (monthLengths t.year))
  rw [List.sum_append, List.drop_eq_getElem_cons t.monthIndex_lt, List.sum_cons] at hs
  rw [dayOfYear, daysBeforeMonth_eq, yearLength]
  omega

lemma number_pos : 1 ≤ t.number := by
  have h := t.day_mem.1
  rw [number, dayOfYear]
  omega

lemma yearOfNumber_number : yearOfNumber t.number = t.year := by
  have h := t.day_mem.1
  refine yearOfNumber_eq t.year_mem.1 ?_ ?_
  · rw [number, dayOfYear]
    omega
  · rw [daysBeforeYear_succ t.year_mem.1]
    exact Nat.add_le_add_left t.dayOfYear_le _

lemma ofParts_eq_ok : ofParts t.year t.month t.day = .ok t := by
  rw [ofParts, dif_pos t.year_mem, dif_pos t.month_mem, dif_pos t.day_mem]

theorem ofNumber?_number : ofNumber? t.number = some t := by
  have hs := splitDays_of_lt 1 t.day t.monthIndex_lt t.day_mem.1 (t.day_le t.monthIndex_lt)
  have hm := t.month_mem.1
  rw [ofNumber?, t.yearOfNumber_number, number, Nat.add_sub_cancel_left, dayOfYear,
    daysBeforeMonth_eq]
  simp only [hs]
  rw [Nat.add_sub_of_le hm, t.ofParts_eq_ok]
  rfl

theorem exists_number {n : Nat} (hn : 1 ≤ n) (hl : n ≤ 3652059) : ∃ t : Date, t.number = n := by
  obtain ⟨y, hy, hlt, hle⟩ := exists_year hn
  rw [daysBeforeYear_succ hy] at hle
  have hy' : y ≤ 9999 := by
    by_contra h
    have hm : daysBeforeYear 10000 ≤ daysBeforeYear y := daysBeforeYear_mono (Nat.lt_of_not_le h)
    exact absurd (hm.trans_lt hlt) (Nat.not_lt.2 hl)
  have hle : n - daysBeforeYear y ≤ (monthLengths y).sum := Nat.sub_le_iff_le_add'.2 hle
  obtain ⟨i, d, hi, hd, hle, hs⟩ := exists_month (Nat.sub_pos_of_lt hlt) hle
  have hm : i + 1 ≤ 12 := hi
  refine ⟨⟨y, i + 1, d, ⟨hy, hy'⟩, ⟨Nat.le_add_left 1 i, hm⟩, hd, ?_⟩, ?_⟩
  · rwa [daysInMonth, Nat.add_sub_cancel, List.getElem?_eq_getElem hi, Option.getD_some]
  · have hd : daysBeforeMonth y (i + 1) + d = n - daysBeforeYear y := by
      rw [daysBeforeMonth_eq]
      exact hs
    exact (congrArg (daysBeforeYear y + ·) hd).trans (Nat.add_sub_of_le hlt.le)

lemma lt_number_iff {y : Nat} : daysBeforeYear y < t.number ↔ y ≤ t.year := by
  constructor
  · intro h
    by_contra hn
    have hm := daysBeforeYear_mono (Nat.succ_le_of_lt (Nat.lt_of_not_le hn))
    have hl := t.dayOfYear_le
    rw [daysBeforeYear_succ t.year_mem.1] at hm
    rw [number] at h
    omega
  · intro h
    have hm := daysBeforeYear_mono h
    have hd := t.day_mem.1
    rw [number, dayOfYear]
    omega

lemma number_le : t.number ≤ 3652059 := by
  have hn := t.lt_number_iff (y := 10000)
  have hy := t.year_mem.2
  have hd : daysBeforeYear 10000 = 3652059 := by decide
  omega

lemma ofNumber?_eq_none {n : Nat} (h : ¬ (1 ≤ n ∧ n ≤ 3652059)) : ofNumber? n = none := by
  by_cases hn : 1 ≤ n
  · obtain ⟨y, hy, hl, hu⟩ := exists_year hn
    have hy' : ¬ (1 ≤ yearOfNumber n ∧ yearOfNumber n ≤ 9999) := by
      rw [yearOfNumber_eq hy hl hu]
      rintro ⟨-, hle⟩
      have hm : daysBeforeYear (y + 1) ≤ 3652059 := daysBeforeYear_mono (Nat.succ_le_succ hle)
      omega
    simp only [ofNumber?, ofParts, dif_neg hy']
    rfl
  · obtain rfl : n = 0 := by omega
    rfl

theorem ofNumber?_eq_some_iff {n : Nat} {t : Date} : ofNumber? n = some t ↔ t.number = n := by
  constructor
  · intro h
    by_cases hn : 1 ≤ n ∧ n ≤ 3652059
    · obtain ⟨u, rfl⟩ := exists_number hn.1 hn.2
      rw [u.ofNumber?_number] at h
      rw [Option.some.inj h]
    · rw [ofNumber?_eq_none hn] at h
      cases h
  · rintro rfl
    exact t.ofNumber?_number

end Date

namespace Moment

variable (t : Moment)

def ordinal : Nat :=
  (t.date.number - 1) * 86400 + t.second

theorem ofMicroseconds?_eq_some {n : Int} {r : Nat} (hr : r < microsecondsPerSecond)
    (h : n = t.ordinal * microsecondsPerSecond + r) : ofMicroseconds? n = some t := by
  have hs := t.second_lt
  have hn := t.date.number_pos
  have hday : (t.ordinal * microsecondsPerSecond + r) / microsecondsPerDay + 1 = t.date.number := by
    rw [ordinal, microsecondsPerDay]
    unfold microsecondsPerSecond at *
    omega
  have hsecond : (t.ordinal * microsecondsPerSecond + r) % microsecondsPerDay /
      microsecondsPerSecond = t.second := by
    rw [ordinal, microsecondsPerDay]
    unfold microsecondsPerSecond at *
    omega
  have hnat : n.toNat = t.ordinal * microsecondsPerSecond + r := by
    rw [h]
    exact Int.toNat_natCast (t.ordinal * microsecondsPerSecond + r)
  rw [ofMicroseconds?, if_neg (by omega)]
  simp only [hnat, hday, hsecond, t.date.ofNumber?_number, Option.map_some]

theorem exists_ordinal {s : Nat} (hs : s < 3652059 * 86400) : ∃ t : Moment, t.ordinal = s := by
  obtain ⟨t, ht⟩ := Date.exists_number (n := s / 86400 + 1) (by omega) (by omega)
  refine ⟨⟨t, s % 86400, Nat.mod_lt s (by decide)⟩, ?_⟩
  rw [ordinal, ht, Nat.add_sub_cancel]
  exact Nat.div_add_mod' s 86400

theorem ordinal_injective : Function.Injective ordinal := by
  intro t u h
  have ht := t.ofMicroseconds?_eq_some (r := 0) (by decide) rfl
  have hu := u.ofMicroseconds?_eq_some (r := 0) (by decide) rfl
  rw [h, hu] at ht
  exact (Option.some.inj ht).symm

lemma ordinal_lt : t.ordinal < daysBeforeYear (t.date.year + 1) * 86400 := by
  have hn := (t.date.lt_number_iff (y := t.date.year + 1)).not.2 (Nat.not_succ_le_self _)
  have hs := t.second_lt
  have hp := t.date.number_pos
  rw [ordinal]
  omega

lemma ordinal_lt_end : t.ordinal < 3652059 * 86400 := by
  have hy := daysBeforeYear_mono (Nat.succ_le_succ t.date.year_mem.2)
  exact t.ordinal_lt.trans_le (Nat.mul_le_mul_right 86400 hy)

lemma le_ordinal : daysBeforeYear t.date.year * 86400 ≤ t.ordinal := by
  have hn := t.date.lt_number_iff.2 (Nat.le_refl t.date.year)
  rw [ordinal]
  omega

end Moment

end Stencil.Calendar
