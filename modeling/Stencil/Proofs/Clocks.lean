import Stencil.Proofs.Dating
import Stencil.Proofs.International
import Stencil.Proofs.Rounding

/-! What clocks show at an instant, and that the date filter finds it from a number of milliseconds
and from a text in the international notation alike. -/

namespace Stencil

namespace Calendar

/-- The moment is what a clock so many seconds ahead of universal time shows, so many milliseconds
after the beginning of 1970. -/
def Moment.IsAt (t : Moment) (v seconds : Int) : Prop :=
  (t.ordinal : Int) = v / 1000 + epoch + seconds

instance (t : Moment) (v seconds : Int) : Decidable (t.IsAt v seconds) :=
  inferInstanceAs (Decidable (_ = _))

namespace Moment

variable {t : Moment} {v seconds : Int}

theorem existsUnique_isAt (hl : 0 ≤ v / 1000 + epoch + seconds)
    (hu : v / 1000 + epoch + seconds < 3652059 * 86400) :
    ∃! t : Moment, t.IsAt v seconds := by
  obtain ⟨s, hs⟩ := Int.eq_ofNat_of_zero_le hl
  rw [hs] at hu
  obtain ⟨t, ht⟩ := exists_ordinal (s := s) (by omega)
  refine ⟨t, (congrArg Int.ofNat ht).trans hs.symm, fun u hu => ordinal_injective ?_⟩
  rw [ht]
  exact Int.ofNat.inj (Eq.trans hu hs)

lemma reads_international (g : Setting) {ms : Nat} {minutes : Int} (hms : ms < 10 ^ 3)
    (hm : minutes.natAbs < 1440) :
    g.Reads (String.ofList (t.international ms minutes))
      ⟨(t.ordinal * microsecondsPerSecond + ms * 1000 : Nat),
        some (minutes * 60 * microsecondsPerSecond)⟩ := by
  rw [Setting.Reads, String.toList_ofList, trim_international]
  exact ⟨by simp [Moment.international], stampOfText_international g hms hm⟩

end Moment

namespace Instant

lemma isBeyondYears_ordinal (t : Moment) : isBeyondYears t.ordinal = false := by
  have ht := t.ordinal_lt_end
  have hy := Date.yearOfNumber_le (((t.ordinal : Int).fmod (146097 * 86400)).toNat / 86400 + 1)
  have hd : (t.ordinal : Int).fdiv (146097 * 86400) = t.ordinal / (146097 * 86400) :=
    Int.fdiv_eq_ediv_of_nonneg _ (by decide)
  have hm : (t.ordinal : Int).fmod (146097 * 86400) = t.ordinal % (146097 * 86400) :=
    Int.fmod_eq_emod_of_nonneg _ (by decide)
  have hl : Int.pow 2 31 = 2147483648 := by decide
  rw [isBeyondYears, yearOfSecond, hl]
  simp only [hd, hm] at hy ⊢
  rw [Bool.or_eq_false_iff, decide_eq_false_iff_not, decide_eq_false_iff_not]
  omega

lemma toLocal_of_finite (z : Zone) {n : Number} {negative : Bool} {m k : Nat}
    {hc : Binary64.IsCanonical m k} (h : thousandth n = .finite negative m k hc) :
    toLocal z n =
      let s := wholeSeconds negative m k
      let clock := s + epoch + z.seconds
      if s < -Int.pow 2 63 ∨ Int.pow 2 63 ≤ s then .error .beyondClock
      else if isBeyondYears (s + epoch) || isBeyondYears clock then .error .beyondYears
      else
        match Moment.ofMicroseconds? (clock * microsecondsPerSecond) with
        | none => .error (.year ((yearOfSecond clock).bmod (Nat.pow 2 32)))
        | some t => if clock < 86400 then .error (.year 0) else .ok t := by
  unfold toLocal
  rw [h]
  clear h
  cases n <;> rfl

theorem toLocal_int {z : Zone} {v : Int} {u l : Moment} (hu : u.IsAt v 0) (hl : l.IsAt v z.seconds)
    (hy : 2 ≤ l.date.year) : toLocal z (.int v) = .ok l := by
  have hlt := u.ordinal_lt_end
  have he : epoch = 62135596800 := rfl
  have hp : Int.pow 2 63 = 9223372036854775808 := by decide
  have hb : 365 * 86400 ≤ l.ordinal :=
    Nat.le_trans (Nat.mul_le_mul_right _ (daysBeforeYear_mono hy)) l.le_ordinal
  rw [Moment.IsAt] at hu hl
  rw [Int.add_zero] at hu
  rw [← hu, eq_comm] at hl
  obtain ⟨m, k, hc, hf, hs⟩ := exists_wholeSeconds (v := v) (by omega)
  have hm : Moment.ofMicroseconds? ((l.ordinal : Int) * microsecondsPerSecond) = some l :=
    l.ofMicroseconds?_eq_some (r := 0) (by decide) (by simp)
  rw [toLocal_of_finite z hf]
  simp only [hs, ← hu, hl, isBeyondYears_ordinal, hm]
  rw [if_neg (by omega), if_neg (by decide), if_neg (by omega)]

end Instant

namespace Stamp

lemma isLocal_of_isAt {z : Zone} {v o : Int} {u l w : Moment} (hu : u.IsAt v 0)
    (hl : l.IsAt v z.seconds) (hw : w.IsAt v (o * 60)) (ho : o.natAbs < 1440) :
    IsLocal z ⟨(w.ordinal * microsecondsPerSecond + (v % 1000).toNat * 1000 : Nat),
      some (o * 60 * microsecondsPerSecond)⟩ l := by
  rw [Moment.IsAt] at hu hl hw
  refine .instant ?_ (Moment.Shows.inCalendar (t := u) ?_) ?_
  · unfold microsecondsPerDay microsecondsPerSecond
    omega
  · rw [Moment.Shows]
    unfold microsecondsPerSecond
    omega
  · rw [Moment.Shows, localClock]
    unfold microsecondsPerSecond
    omega

end Stamp

end Calendar

namespace Filter

open Calendar

variable {g : Setting} {v o : Int} {u l w : Moment}

lemma findNumber_int (hu : u.IsAt v 0) (hl : l.IsAt v g.zone.seconds) (hy : 2 ≤ l.date.year) :
    findNumber g (.int v) = .moment l := by
  rw [findNumber, Instant.toLocal_int hu hl hy]

lemma findText_international (hu : u.IsAt v 0) (hl : l.IsAt v g.zone.seconds)
    (hw : w.IsAt v (o * 60)) (ho : o.natAbs < 1440) :
    findText g (String.ofList (w.international (v % 1000).toNat o)) = .moment l := by
  have hms : (v % 1000).toNat < 10 ^ 3 := by omega
  exact findText_of_isLocal (Moment.reads_international g hms ho)
    (Stamp.isLocal_of_isAt hu hl hw ho)

def dated (t : Moment) (format : Value) : FilterAnswer :=
  match formatFault? format with
  | some e => ⟨.error e, []⟩
  | none => ⟨.ok (formatted t format), []⟩

lemma date_number {n : Number} {t : Moment} (h : findNumber g n = .moment t) (format : Value) :
    date g (.number n) format = dated t format := by
  rw [date_number_eq, h]
  rfl

lemma date_text {s : String} {t : Moment} (h : findText g s = .moment t) (format : Value) :
    date g (.text s) format = dated t format := by
  rw [date_text_eq, h]
  rfl

theorem date_int_eq_date_international (g : Setting) (v o : Int) (format : Value) (u l w : Moment)
    (hu : u.IsAt v 0) (hl : l.IsAt v g.zone.seconds) (hw : w.IsAt v (o * 60)) (ho : o.natAbs < 1440)
    (hy : 2 ≤ l.date.year) :
    date g (.int v) format =
        date g (.text (String.ofList (w.international (v % 1000).toNat o))) format ∧
      date g (.int v) format = dated l format := by
  have hnumber := date_number (findNumber_int hu hl hy) format
  have htext := date_text (findText_international hu hl hw ho) format
  exact ⟨hnumber.trans htext.symm, hnumber⟩

theorem date_int_eq_date_international_before_epoch :
    let g : Setting := .international ⟨19800⟩
    let u : Moment := ⟨⟨1969, 12, 31, by decide, by decide, by decide⟩, 86399, by decide⟩
    let l : Moment := ⟨⟨1970, 1, 1, by decide, by decide, by decide⟩, 19799, by decide⟩
    let w : Moment := ⟨⟨1969, 12, 31, by decide, by decide, by decide⟩, 52199, by decide⟩
    let format : Value := .text "%Y-%m-%d %H:%M:%S"
    (u.IsAt (-1) 0 ∧ l.IsAt (-1) g.zone.seconds ∧ w.IsAt (-1) (-570 * 60) ∧ 2 ≤ l.date.year) ∧
      date g (.int (-1)) format = date g (.text "1969-12-31T14:29:59.999-09:30") format ∧
      date g (.int (-1)) format = ⟨.ok (.text "1970-01-01 05:29:59"), []⟩ := by
  intro g u l w format
  have hu : u.IsAt (-1) 0 := by decide +kernel
  have hl : l.IsAt (-1) g.zone.seconds := by decide +kernel
  have hw : w.IsAt (-1) (-570 * 60) := by decide +kernel
  have hy : 2 ≤ l.date.year := by decide
  have hs : w.international ((-1) % 1000 : Int).toNat (-570) =
      "1969-12-31T14:29:59.999-09:30".toList := by decide +kernel
  have hd : dated l format = ⟨.ok (.text "1970-01-01 05:29:59"), []⟩ := by cbv
  obtain ⟨h, h'⟩ :=
    date_int_eq_date_international g (-1) (-570) format u l w hu hl hw (by decide) hy
  rw [hs, String.ofList_toList] at h
  exact ⟨⟨hu, hl, hw, hy⟩, h, h'.trans hd⟩

end Filter

end Stencil
