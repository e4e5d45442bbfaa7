import Stencil.Calendar.Date
import Stencil.Calendar.Iso
import Stencil.Proofs.Numbering

/-! Weeks as spans of seven days. All days of a week have one number, which counts from the week of
the first Thursday of a year and is the one that the international notation has for the week. -/

namespace Stencil.Calendar

def WeekStart.weekday : WeekStart → Nat
  | .sunday => 0
  | .monday => 1

lemma WeekStart.weekday_le (start : WeekStart) : start.weekday ≤ 1 := by
  cases start <;> decide

/-- A week is told by the number of its first day, which may lie before the calendar. -/
structure Week (start : WeekStart) where
  first : Int
  first_emod : first % 7 = start.weekday

namespace Date

def weekYear (start : WeekStart) (t : Date) : Nat :=
  yearOfNumber (t.thursday start)

def IsFirstThursday (t : Date) : Prop :=
  t.weekday = 4 ∧ ∀ u : Date, u.year = t.year → u.weekday = 4 → t.number ≤ u.number

variable {t u : Date}

lemma number_eq (t : Date) : t.number = daysBeforeYear t.year + t.dayOfYear :=
  rfl

lemma dayOfWeek_eq (start : WeekStart) (t : Date) :
    (t.dayOfWeek start : Int) = (t.number - start.weekday) % 7 + start.weekday := by
  cases start with
  | sunday =>
    rw [dayOfWeek, weekday, WeekStart.weekday]
    omega
  | monday =>
    rw [dayOfWeek, weekday, WeekStart.weekday]
    by_cases h : t.number % 7 = 0
    · rw [if_pos h]
      omega
    · rw [if_neg h]
      omega

lemma dayOfYear_pos (t : Date) : 1 ≤ t.dayOfYear :=
  Nat.le_add_left_of_le t.day_mem.1

lemma exists_week_before (h : 7 < t.dayOfYear) :
    ∃ u : Date, u.year = t.year ∧ u.number + 7 = t.number := by
  have ht := t.number_eq
  have hl := t.number_le
  obtain ⟨u, hu⟩ := exists_number (n := t.number - 7) (by omega) (by omega)
  have hle := (u.lt_number_iff (y := t.year)).1 (by omega)
  have hlt := mt (u.lt_number_iff (y := t.year + 1)).2 fun h =>
    absurd (t.lt_number_iff.1 (h.trans (by omega))) (Nat.not_succ_le_self _)
  exact ⟨u, by omega, by omega⟩

lemma isFirstThursday_iff : t.IsFirstThursday ↔ t.weekday = 4 ∧ t.dayOfYear ≤ 7 := by
  have ht := t.number_eq
  constructor
  · rintro ⟨hd, hf⟩
    refine ⟨hd, ?_⟩
    by_contra h
    obtain ⟨u, hy, hu⟩ := exists_week_before (Nat.not_le.1 h)
    have hw : u.weekday = 4 := by
      rw [weekday] at hd ⊢
      omega
    have hle := hf u hy hw
    omega
  · rintro ⟨hd, h⟩
    refine ⟨hd, fun u hy hu => ?_⟩
    have hn := u.number_eq
    have hp := u.dayOfYear_pos
    rw [weekday] at hd hu
    rw [hy] at hn
    omega

end Date

namespace Week

variable {start : WeekStart} {w : Week start} {t u : Date}

instance : Membership Date (Week start) :=
  ⟨fun w t => w.first ≤ t.number ∧ t.number < w.first + 7⟩

lemma mem_iff : t ∈ w ↔ w.first ≤ t.number ∧ t.number < w.first + 7 :=
  Iff.rfl

def previous (w : Week start) : Week start :=
  ⟨w.first - 7, by
    have h := w.first_emod
    omega⟩

def thursday (w : Week start) : Int :=
  w.first + 4 - start.weekday

lemma thursday_previous : w.previous.thursday = w.thursday - 7 := by
  simp only [thursday, previous]
  omega

lemma exists_mem (start : WeekStart) (t : Date) : ∃ w : Week start, t ∈ w := by
  refine ⟨⟨t.number - (t.number - start.weekday) % 7, ?_⟩, ?_⟩
  · cases start <;> simp only [WeekStart.weekday] <;> omega
  · simp only [mem_iff]
    omega

lemma thursday_of_mem (ht : t ∈ w) :
    (t.thursday start : Int) = w.thursday ∧
      (t.number : Int) + 4 - t.dayOfWeek start = w.thursday := by
  obtain ⟨hl, hu⟩ := ht
  have hf := w.first_emod
  have hs := start.weekday_le
  have hp := t.number_pos
  have hd := t.dayOfWeek_eq start
  rw [Date.thursday, thursday]
  omega

lemma exists_thursday (ht : t ∈ w) : ∃ u ∈ w, u.weekday = 4 ∧ (u.number : Int) = w.thursday := by
  obtain ⟨hl, hu⟩ := ht
  have hf := w.first_emod
  have hp := t.number_pos
  have hle := t.number_le
  have hs := start.weekday_le
  -- The calendar begins on a Monday and ends on a Friday, so it has the Thursday of a week even
  -- where it has only a part of the week.
  obtain ⟨u, hu⟩ := Date.exists_number (n := w.thursday.toNat)
    (by rw [thursday]; omega) (by rw [thursday]; omega)
  rw [thursday] at hu
  refine ⟨u, ?_, ?_, ?_⟩
  · rw [mem_iff]
    omega
  · rw [Date.weekday]
    omega
  · rw [thursday]
    omega

lemma number_eq_thursday (hu : u ∈ w) (hd : u.weekday = 4) : (u.number : Int) = w.thursday := by
  obtain ⟨hl, hu⟩ := hu
  have hf := w.first_emod
  have hs := start.weekday_le
  rw [Date.weekday] at hd
  rw [thursday]
  omega

lemma week_of_mem (ht : t ∈ w) (hu : (u.number : Int) = w.thursday) :
    t.week start = (u.dayOfYear - 1) / 7 + 1 := by
  have hn : t.thursday start = u.number := Int.ofNat.inj ((thursday_of_mem ht).1.trans hu.symm)
  have hd : u.number - (daysBeforeYear u.year + 1) = u.dayOfYear - 1 := by
    rw [u.number_eq]
    omega
  simp only [Date.week, hn, u.yearOfNumber_number, hd]

lemma week_mem_range (ht : t ∈ w) : 1 ≤ t.week start ∧ t.week start ≤ 53 := by
  obtain ⟨u, -, -, hn⟩ := exists_thursday ht
  have hd := u.dayOfYear_le
  have hl : yearLength u.year ≤ 366 := by
    rw [yearLength_eq]
    split <;> decide
  rw [week_of_mem ht hn]
  omega

lemma week_eq_of_mem (ht : t ∈ w) (hu : u ∈ w) : u.week start = t.week start := by
  obtain ⟨v, -, -, hn⟩ := exists_thursday ht
  rw [week_of_mem ht hn, week_of_mem hu hn]

lemma week_eq_one_iff (ht : t ∈ w) : t.week start = 1 ↔ ∃ u ∈ w, u.IsFirstThursday := by
  have hone : ∀ u : Date, (u.number : Int) = w.thursday → (t.week start = 1 ↔ u.dayOfYear ≤ 7) :=
    fun u hu => by
      have hp := u.dayOfYear_pos
      rw [week_of_mem ht hu]
      omega
  constructor
  · intro h
    obtain ⟨u, hm, hd, hn⟩ := exists_thursday ht
    exact ⟨u, hm, Date.isFirstThursday_iff.2 ⟨hd, (hone u hn).1 h⟩⟩
  · rintro ⟨u, hm, hu⟩
    obtain ⟨hd, hle⟩ := Date.isFirstThursday_iff.1 hu
    exact (hone u (number_eq_thursday hm hd)).2 hle

lemma week_eq_succ (ht : t ∈ w) (h : t.week start ≠ 1) :
    (∃ u, u ∈ w.previous) ∧ ∀ u ∈ w.previous, t.week start = u.week start + 1 := by
  obtain ⟨v, hv, -, hn⟩ := exists_thursday ht
  have hw := week_of_mem ht hn
  obtain ⟨x, hy, hx⟩ := Date.exists_week_before (t := v) (by omega)
  have hn' : (x.number : Int) = w.previous.thursday := by
    rw [thursday_previous]
    omega
  have hd : x.dayOfYear + 7 = v.dayOfYear := by
    have hv := v.number_eq
    have hx := x.number_eq
    rw [hy] at hx
    omega
  refine ⟨⟨x, ?_⟩, fun u hu => ?_⟩
  · simp only [mem_iff, previous] at hv ⊢
    omega
  · have hp := x.dayOfYear_pos
    rw [hw, week_of_mem hu hn']
    omega

end Week

namespace Iso

lemma firstMonday_spec (y : Nat) :
    firstMonday y % 7 = 1 ∧ daysBeforeYear y + 1 ≤ firstMonday y + 3 ∧
      firstMonday y + 3 ≤ daysBeforeYear y + 7 := by
  simp only [firstMonday]
  split <;> omega

lemma hasWeek_iff {y n : Nat} (hy : 1 ≤ y) :
    hasWeek y n = true ↔
      1 ≤ n ∧ firstMonday y + 3 + (n - 1 : Nat) * 7 ≤ daysBeforeYear (y + 1) := by
  rw [daysBeforeYear_succ hy, yearLength_eq, hasWeek, firstMonday]
  cases isLeap y <;> grind

lemma ofWeek?_eq_some {y n d : Nat} {t : Date} :
    ofWeek? y n d = some t ↔
      (1 ≤ y ∧ hasWeek y n ∧ 1 ≤ d ∧ d ≤ 7) ∧
        (t.number : Int) = firstMonday y + (n - 1 : Nat) * 7 + (d - 1 : Nat) := by
  have hf := firstMonday_spec y
  rw [ofWeek?]
  split
  · next h =>
    rw [Date.ofNumber?_eq_some_iff]
    exact ⟨fun ht => ⟨h, by omega⟩, fun ht => by omega⟩
  · next h => exact ⟨nofun, fun ht => absurd ht.1 h⟩

theorem ofWeek?_eq_some_iff {y n d : Nat} {t : Date} :
    ofWeek? y n d = some t ↔
      y = t.weekYear .monday ∧ n = t.week .monday ∧ d = t.dayOfWeek .monday := by
  obtain ⟨w, ht⟩ := Week.exists_mem .monday t
  obtain ⟨u, -, hu4, hn⟩ := Week.exists_thursday ht
  obtain ⟨hth, hday⟩ := Week.thursday_of_mem ht
  have hyear : t.weekYear .monday = u.year := by
    rw [Date.weekYear, Int.ofNat.inj (hth.trans hn.symm), u.yearOfNumber_number]
  have hd := t.dayOfWeek_eq .monday
  have hu := u.number_eq
  have hp := u.dayOfYear_pos
  have hl := u.dayOfYear_le
  rw [Date.weekday] at hu4
  simp only [WeekStart.weekday] at hd
  rw [ofWeek?_eq_some, hyear, Week.week_of_mem ht hn]
  constructor
  -- A year that has the week has its Thursday, and no other year has that.
  · rintro ⟨⟨hy, hw, hd₁, hd₂⟩, hnum⟩
    obtain ⟨hf, hfl, hfu⟩ := firstMonday_spec y
    obtain ⟨hn₁, hn₂⟩ := (hasWeek_iff hy).1 hw
    have hdd : d = t.dayOfWeek .monday := by omega
    have hun : (u.number : Int) = firstMonday y + 3 + (n - 1 : Nat) * 7 := by omega
    have hyu : y = u.year :=
      (Date.yearOfNumber_eq hy (by omega) (by omega)).symm.trans u.yearOfNumber_number
    subst hyu
    exact ⟨rfl, by omega, hdd⟩
  · rintro ⟨rfl, rfl, rfl⟩
    obtain ⟨hf, hfl, hfu⟩ := firstMonday_spec u.year
    have hun : (u.number : Int) =
        firstMonday u.year + 3 + ((u.dayOfYear - 1) / 7 + 1 - 1 : Nat) * 7 := by omega
    rw [hasWeek_iff u.year_mem.1, daysBeforeYear_succ u.year_mem.1]
    exact ⟨⟨u.year_mem.1, ⟨Nat.le_add_left 1 _, by omega⟩, by omega, by omega⟩, by omega⟩

end Iso

namespace Date

/-- Where weeks begin with Monday, the number of a week is that of the international notation. In
both conventions it comes from a Thursday of the calendar, is the same on all days of the week, is
one where the week has the first Thursday of a year, and otherwise follows that of the week
before. -/
theorem week_numbering (t : Date) :
    (∀ y n d, Iso.ofWeek? y n d = some t ↔
        y = t.weekYear .monday ∧ n = t.week .monday ∧ d = t.dayOfWeek .monday) ∧
      ∀ start, ∃ w : Week start, t ∈ w ∧
        (∃ u ∈ w, (u.number : Int) = t.number + 4 - t.dayOfWeek start ∧
          t.week start = (u.dayOfYear - 1) / 7 + 1) ∧
        (1 ≤ t.week start ∧ t.week start ≤ 53) ∧
        (∀ u ∈ w, u.week start = t.week start) ∧
        (t.week start = 1 ↔ ∃ u ∈ w, u.IsFirstThursday) ∧
        (t.week start ≠ 1 →
          (∃ u, u ∈ w.previous) ∧ ∀ u ∈ w.previous, t.week start = u.week start + 1) := by
  refine ⟨fun y n d => Iso.ofWeek?_eq_some_iff, fun start => ?_⟩
  obtain ⟨w, ht⟩ := Week.exists_mem start t
  obtain ⟨u, hu, -, hn⟩ := Week.exists_thursday ht
  have hw := (Week.thursday_of_mem ht).2
  exact ⟨w, ht, ⟨u, hu, hn.trans hw.symm, Week.week_of_mem ht hn⟩, Week.week_mem_range ht,
    fun u hu => Week.week_eq_of_mem ht hu, Week.week_eq_one_iff ht, Week.week_eq_succ ht⟩

theorem week_numbering_new_year :
    let t : Date := ⟨2021, 1, 1, by decide, by decide, by decide⟩
    let u : Date := ⟨2020, 12, 27, by decide, by decide, by decide⟩
    (t.week .monday = 53 ∧ Iso.ofWeek? 2020 53 5 = some t) ∧
      t.week .monday ≠ 1 ∧ t.week .monday = u.week .monday + 1 := by
  intro t u
  obtain ⟨hiso, hweeks⟩ := week_numbering t
  obtain ⟨w, ht, -, -, -, -, hnext⟩ := hweeks .monday
  have hn : t.week .monday ≠ 1 := by decide
  have htn : t.number = 737791 := by decide
  have hun : u.number = 737786 := by decide
  have hf := w.first_emod
  have hm : u ∈ w.previous := by
    simp only [Week.mem_iff, Week.previous, WeekStart.weekday] at ht hf ⊢
    omega
  exact ⟨⟨by decide, (hiso 2020 53 5).2 (by decide)⟩, hn, (hnext hn).2 u hm⟩

end Date

end Stencil.Calendar
