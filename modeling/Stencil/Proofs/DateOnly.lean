import Stencil.Proofs.Dating
import Stencil.Proofs.Formats
import Stencil.Proofs.International

/-! Dates without a time of day: the date filter finds the day itself, whatever the local zone. -/

namespace Stencil

namespace Calendar

namespace Date

variable (t : Date)

def midnight : Moment :=
  ⟨t, 0, by decide⟩

def unpadded : List Char :=
  Decimal.digits t.year ++ '-' :: (padded '0' 2 t.month ++ '-' :: padded '0' 2 t.day)

lemma unpadded_eq_international_iff : t.unpadded = t.international ↔ 1000 ≤ t.year := by
  have hl := Nat.length_toDigits_le_iff (b := 10) (n := t.year) (k := 3) (by decide) (by decide)
  have hp := length_padded (w := 4) (by decide) t.year_lt
  rw [unpadded, international, List.append_left_inj]
  constructor
  · intro h
    rw [← h, Decimal.digits] at hp
    omega
  · intro h
    rw [padded, List.length_append, List.length_replicate] at hp
    have hd : 4 - (Decimal.digits t.year).length = 0 := by
      rw [Decimal.digits] at hp ⊢
      omega
    rw [padded, hd, List.replicate_zero, List.nil_append]

lemma isDigit_or_eq_of_mem_international {c : Char} (hc : c ∈ t.international) :
    c.isDigit = true ∨ c = '-' := by
  simp only [international, List.mem_append, List.mem_cons] at hc
  rcases hc with hc | hc | hc | hc | hc
  · exact .inl (isDigit_of_mem_padded hc)
  · exact .inr hc
  · exact .inl (isDigit_of_mem_padded hc)
  · exact .inr hc
  · exact .inl (isDigit_of_mem_padded hc)

lemma trim_international {u v : List Char} (hu : ∀ c ∈ u, Text.isBlank c)
    (hv : ∀ c ∈ v, Text.isBlank c) : Text.trim (u ++ t.international ++ v) = t.international := by
  refine Text.trim_surrounded hu hv fun c hc => ?_
  rcases t.isDigit_or_eq_of_mem_international hc with h | rfl
  · exact Text.not_isBlank_of_isDigit h
  · decide

lemma take_year : t.international.take 4 = padded '0' 4 t.year :=
  List.take_left' (length_padded (by decide) t.year_lt)

lemma drop_year :
    t.international.drop 4 = '-' :: (padded '0' 2 t.month ++ '-' :: padded '0' 2 t.day) :=
  List.drop_left' (length_padded (by decide) t.year_lt)

lemma take_month : (t.international.drop 5).take 2 = padded '0' 2 t.month := by
  rw [← List.drop_drop (i := 1) (j := 4), drop_year, List.drop_one, List.tail_cons]
  exact List.take_left' (length_padded (by decide) t.month_lt)

lemma drop_month : t.international.drop 7 = '-' :: padded '0' 2 t.day := by
  rw [← List.drop_drop (i := 3) (j := 4), drop_year, List.drop_succ_cons]
  exact List.drop_left' (length_padded (by decide) t.month_lt)

lemma drop_day : t.international.drop 8 = padded '0' 2 t.day := by
  rw [← List.drop_drop (i := 1) (j := 7), drop_month, List.drop_one, List.tail_cons]

lemma digits_international :
    ∀ c ∈ t.international.take 4 ++ (t.international.drop 5).take 2 ++ t.international.drop 8,
      c.isDigit = true := by
  rw [take_year, take_month, drop_day]
  intro c hc
  simp only [List.mem_append] at hc
  rcases hc with (hc | hc) | hc
  · exact isDigit_of_mem_padded hc
  · exact isDigit_of_mem_padded hc
  · exact isDigit_of_mem_padded hc

lemma isDateOnly_international : isDateOnly t.international = true := by
  have hd := List.all_eq_true.2 fun c hc => Text.isDigit_of_isDigit (t.digits_international c hc)
  have h4 : t.international[4]? = some '-' := by
    rw [← List.head?_drop, drop_year, List.head?_cons]
  have h7 : t.international[7]? = some '-' := by
    rw [← List.head?_drop, drop_month, List.head?_cons]
  rw [isDateOnly, hd, h4, h7, t.length_international]
  rfl

lemma dateOnly_international : dateOnly t.international = .ok (.ofParts t 0 0 0 0 none) := by
  rw [dateOnly, if_pos (List.all_eq_true.2 t.digits_international), take_year, take_month,
    drop_day, number_padded, number_padded, number_padded, t.ofParts_eq_ok]
  rfl

lemma stampOfText_international (g : Setting) :
    stampOfText g t.international = .ok (.ofParts t 0 0 0 0 none) := by
  rw [stampOfText, if_pos t.isDateOnly_international, t.dateOnly_international]
  rfl

lemma reads_surrounded (g : Setting) {u v : List Char} (hu : ∀ c ∈ u, Text.isBlank c)
    (hv : ∀ c ∈ v, Text.isBlank c) :
    g.Reads (String.ofList (u ++ t.international ++ v)) (.ofParts t 0 0 0 0 none) := by
  rw [Setting.Reads, String.toList_ofList, t.trim_international hu hv]
  exact ⟨by simp [international], t.stampOfText_international g⟩

lemma isLocal_midnight (z : Zone) : (Stamp.ofParts t 0 0 0 0 none).IsLocal z t.midnight := by
  refine .clock ?_
  simp only [Moment.Shows, Moment.ordinal, midnight]
  unfold microsecondsPerDay microsecondsPerSecond
  omega

end Date

lemma Moment.format_date (t : Moment) : t.format "%Y-%m-%d".toList = t.date.unpadded := by
  have hf : "%Y-%m-%d".toList = ['%', 'Y', '-', '%', 'm', '-', '%', 'd'] := rfl
  have hn : '-' ≠ '%' := by decide
  rw [hf, format_directive, format_character t hn, format_directive, format_character t hn,
    format_directive, Date.unpadded]
  simp only [directive?, format, Option.getD_some, List.append_nil]

end Calendar

namespace Filter

open Calendar

variable {g : Setting} {t : Date}

lemma isDated_dateOnly {u v : List Char} (hu : ∀ c ∈ u, Text.isBlank c)
    (hv : ∀ c ∈ v, Text.isBlank c) :
    (Value.ofString (u ++ t.international ++ v)).IsDated g t.midnight := by
  exact .text (t.reads_surrounded g hu hv) (t.isLocal_midnight g.zone)

lemma formatted_date (t : Moment) :
    formatted t (.text "%Y-%m-%d") = .ofString t.date.unpadded := by
  rw [formatted, if_neg (by decide), t.format_date]

lemma date_surrounded {u v : List Char} (hu : ∀ c ∈ u, Text.isBlank c)
    (hv : ∀ c ∈ v, Text.isBlank c) :
    (date g (.ofString (u ++ t.international ++ v)) (.text "%Y-%m-%d")).outcome =
      .ok (.ofString t.unpadded) := by
  rw [date_of_isDated rfl (isDated_dateOnly hu hv), formatted_date]
  rfl

/-- A date without a time of day keeps its day in every zone. It comes out as it was written, and so
again, from the year 1000 on; before that the year loses the zeros in front. -/
theorem date_dateOnly (g : Setting) (t : Date) (u v : List Char) (hu : ∀ c ∈ u, Text.isBlank c)
    (hv : ∀ c ∈ v, Text.isBlank c) :
    let format : Value := .text "%Y-%m-%d"
    (date g (.ofString (u ++ t.international ++ v)) format).outcome = .ok (.ofString t.unpadded) ∧
      (t.unpadded = t.international ↔ 1000 ≤ t.year) ∧
      (1000 ≤ t.year →
        (date g (.ofString t.unpadded) format).outcome = .ok (.ofString t.unpadded)) := by
  refine ⟨date_surrounded hu hv, t.unpadded_eq_international_iff, fun hy => ?_⟩
  have h := date_surrounded (g := g) (t := t) (u := []) (v := []) nofun nofun
  rwa [List.nil_append, List.append_nil, ← t.unpadded_eq_international_iff.2 hy] at h

theorem date_dateOnly_leap_day :
    let g : Setting := .international ⟨-28800⟩
    let t : Date := ⟨2024, 2, 29, by decide, by decide, by decide⟩
    let format : Value := .text "%Y-%m-%d"
    ((∀ c ∈ [' ', '\n'], Text.isBlank c) ∧ (∀ c ∈ ['\t'], Text.isBlank c) ∧ 1000 ≤ t.year) ∧
      (date g (.text " \n2024-02-29\t") format).outcome = .ok (.text "2024-02-29") ∧
      (date g (.text "2024-02-29") format).outcome = .ok (.text "2024-02-29") := by
  intro g t format
  have hu : ∀ c ∈ [' ', '\n'], Text.isBlank c := List.all_eq_true.1 (by decide)
  have hv : ∀ c ∈ ['\t'], Text.isBlank c := List.all_eq_true.1 (by decide)
  have hy : 1000 ≤ t.year := by decide
  have hs : [' ', '\n'] ++ t.international ++ ['\t'] = " \n2024-02-29\t".toList := by decide
  have ht : t.unpadded = "2024-02-29".toList := by decide
  obtain ⟨h, -, hagain⟩ := date_dateOnly g t _ _ hu hv
  have hagain := hagain hy
  rw [hs, ht, Value.ofString, Value.ofString, String.ofList_toList, String.ofList_toList] at h
  rw [ht, Value.ofString, String.ofList_toList] at hagain
  exact ⟨⟨hu, hv, hy⟩, h, hagain⟩

theorem date_dateOnly_year_99 :
    let g : Setting := .international ⟨0⟩
    (date g (.text "0099-03-04") (.text "%Y-%m-%d")).outcome = .ok (.text "99-03-04") ∧
      (date g (.text "0099-03-04") (.text "%Y-%m-%d")).outcome ≠ .ok (.text "0099-03-04") := by
  intro g
  let t : Date := ⟨99, 3, 4, by decide, by decide, by decide⟩
  have hs : [] ++ t.international ++ [] = "0099-03-04".toList := by decide
  have ht : t.unpadded = "99-03-04".toList := by decide
  have h := date_surrounded (g := g) (t := t) (u := []) (v := []) nofun nofun
  rw [hs, ht, Value.ofString, Value.ofString, String.ofList_toList, String.ofList_toList] at h
  refine ⟨h, fun hn => ?_⟩
  have he : Value.text "99-03-04" = .text "0099-03-04" := Except.ok.inj (h.symm.trans hn)
  exact absurd (Value.text.inj he) (by decide)

end Filter

end Stencil
