import Stencil.Calendar.Reading
import Stencil.Proofs.Numbering
import Stencil.Proofs.Numerals
import Stencil.Proofs.Tokenizing

/-! Dates and times written in the international notation, and reading them back. -/

namespace Stencil.Calendar

namespace Date

variable (t : Date)

def international : List Char :=
  padded '0' 4 t.year ++ '-' :: (padded '0' 2 t.month ++ '-' :: padded '0' 2 t.day)

lemma year_lt : t.year < 10 ^ 4 :=
  Nat.lt_succ_of_le t.year_mem.2

lemma month_lt : t.month < 10 ^ 2 :=
  Nat.lt_of_le_of_lt t.month_mem.2 (by decide)

lemma day_lt : t.day < 10 ^ 2 := by
  have h := t.day_mem.2.trans (daysInMonth_le _ _)
  omega

lemma length_international : t.international.length = 10 := by
  rw [international]
  simp only [List.length_append, List.length_cons, length_padded (by decide) t.year_lt,
    length_padded (by decide) t.month_lt, length_padded (by decide) t.day_lt]

end Date

namespace Moment

def clockText (t : Moment) (ms : Nat) : List Char :=
  padded '0' 2 t.hour ++ ':' :: (padded '0' 2 t.minute ++ ':' ::
    (padded '0' 2 t.secondOfMinute ++ '.' :: padded '0' 3 ms))

end Moment

def distanceSign (minutes : Int) : Char :=
  if minutes < 0 then '-' else '+'

def distanceText (minutes : Int) : List Char :=
  distanceSign minutes ::
    (padded '0' 2 (minutes.natAbs / 60) ++ ':' :: padded '0' 2 (minutes.natAbs % 60))

def Moment.international (t : Moment) (ms : Nat) (minutes : Int) : List Char :=
  t.date.international ++ 'T' :: (t.clockText ms ++ distanceText minutes)

namespace Iso

lemma cutNumber?_padded {w n : Nat} (cs : List Char) (hw : 0 < w) (hn : n < 10 ^ w) :
    cutNumber? w (padded '0' w n ++ cs) = some (n, cs) := by
  have hl := length_padded hw hn
  have hd : (padded '0' w n).all Char.isDigit = true :=
    List.all_eq_true.2 fun c => isDigit_of_mem_padded
  rw [cutNumber?]
  simp only [List.take_left' hl, List.drop_left' hl, hl, hd, and_self, if_true, number_padded]

lemma cutNumber?_padded_self {w n : Nat} (hw : 0 < w) (hn : n < 10 ^ w) :
    cutNumber? w (padded '0' w n) = some (n, []) := by
  have h := cutNumber?_padded [] hw hn
  rwa [List.append_nil] at h

lemma ne_of_isDigit {c d : Char} (hc : c.isDigit = true) (hd : d.isDigit = false) : c ≠ d := by
  rintro rfl
  exact absurd (hc.symm.trans hd) (by decide)

lemma exists_padded_eq_cons {w n : Nat} (hw : 0 < w) (hn : n < 10 ^ w) :
    ∃ c cs, padded '0' w n = c :: cs ∧ c.isDigit = true := by
  obtain ⟨c, cs, h⟩ := List.exists_cons_of_length_pos (length_pos_padded hw hn)
  exact ⟨c, cs, h, isDigit_of_mem_padded (h ▸ List.mem_cons_self)⟩

lemma date?_international (t : Date) : date? t.international = some t := by
  obtain ⟨c, cs, hm, hc⟩ := exists_padded_eq_cons (by decide) t.month_lt
  have hw := ne_of_isDigit hc (by decide : 'W'.isDigit = false)
  have hm' := cutNumber?_padded ('-' :: padded '0' 2 t.day) (by decide) t.month_lt
  have hd := cutNumber?_padded_self (by decide) t.day_lt
  rw [hm, List.cons_append] at hm'
  rw [date?, Date.international, cutNumber?_padded _ (by decide) t.year_lt]
  simp [hm, hm', hd, hyphen?, hw, t.ofParts_eq_ok, Except.toOption]

section

variable {k n : Nat} {cs : List Char}

lemma numbers?_colon {colons : Option Bool} (hc : colons.getD true = true) (hk : k < 10 ^ 2)
    (hs : cs ≠ []) : numbers? colons (n + 1) (padded '0' 2 k ++ ':' :: cs) =
      (numbers? (some true) n cs).map fun r => (k :: r.1, r.2) := by
  obtain ⟨c, cs, rfl⟩ := List.exists_cons_of_ne_nil hs
  rw [numbers?, cutNumber?_padded _ (by decide) hk, Option.map_eq_bind]
  simp only [Option.bind_eq_bind, Option.bind_some, hc, beq_self_eq_true, Bool.and_self, if_true]
  rfl

lemma numbers?_point (hk : k < 10 ^ 2) (hs : cs ≠ []) :
    numbers? (some true) (n + 1) (padded '0' 2 k ++ '.' :: cs) =
      (fraction? cs).map fun f => ([k], f) := by
  obtain ⟨c, cs, rfl⟩ := List.exists_cons_of_ne_nil hs
  rw [numbers?, cutNumber?_padded _ (by decide) hk, Option.map_eq_bind]
  simp only [Option.bind_eq_bind, Option.bind_some]
  rfl

lemma numbers?_last (colons : Option Bool) (hk : k < 10 ^ 2) :
    numbers? colons (n + 1) (padded '0' 2 k) = some ([k], 0, false) := by
  rw [numbers?, cutNumber?_padded_self (by decide) hk]
  rfl

lemma fraction?_padded {ms : Nat} (hms : ms < 10 ^ 3) :
    fraction? (padded '0' 3 ms) = some (ms * 1000, false) := by
  have hl := length_padded (by decide) hms
  have hd := cutNumber?_padded_self (by decide) hms
  rw [fraction?, hl]
  simp [hd, isRagged]

lemma padded_ne_nil (hn : 0 < n) (hk : k < 10 ^ n) : padded '0' n k ≠ [] :=
  List.ne_nil_of_length_pos (length_pos_padded hn hk)

lemma padded_append_ne_nil (hn : 0 < n) (hk : k < 10 ^ n) (cs : List Char) :
    padded '0' n k ++ cs ≠ [] :=
  List.append_ne_nil_of_left_ne_nil (padded_ne_nil hn hk) cs

lemma clock?_clockText (t : Moment) {ms : Nat} (hms : ms < 10 ^ 3) :
    clock? (t.clockText ms) = some ⟨t.hour, t.minute, t.secondOfMinute, ms * 1000, false⟩ := by
  have hs := t.second_lt
  have hh : t.hour < 10 ^ 2 := by
    rw [Moment.hour]
    omega
  have hm : t.minute < 10 ^ 2 := by
    rw [Moment.minute]
    omega
  have hs : t.secondOfMinute < 10 ^ 2 := by
    rw [Moment.secondOfMinute]
    omega
  rw [clock?, Moment.clockText, numbers?_colon rfl hh (padded_append_ne_nil (by decide) hm _),
    numbers?_colon rfl hm (padded_append_ne_nil (by decide) hs _),
    numbers?_point hs (padded_ne_nil (by decide) hms), fraction?_padded hms]
  rfl

lemma clock?_distanceText {minutes : Int} (hm : minutes.natAbs < 1440) :
    clock? (distanceText minutes).tail =
      some ⟨minutes.natAbs / 60, minutes.natAbs % 60, 0, 0, false⟩ := by
  have hh : minutes.natAbs / 60 < 10 ^ 2 := by omega
  have hm : minutes.natAbs % 60 < 10 ^ 2 := by omega
  rw [clock?, distanceText, List.tail_cons, numbers?_colon rfl hh (padded_ne_nil (by decide) hm),
    numbers?_last _ hm]
  rfl

end

lemma not_isSign_of_mem_clockText {t : Moment} {ms : Nat} {c : Char} (hc : c ∈ t.clockText ms) :
    isSign c = false := by
  have hd : ∀ c : Char, c.isDigit = true → isSign c = false := by
    intro c hc
    rw [isSign, Bool.or_eq_false_iff, beq_eq_false_iff_ne, beq_eq_false_iff_ne]
    exact ⟨ne_of_isDigit hc (by decide), ne_of_isDigit hc (by decide)⟩
  simp only [Moment.clockText, List.mem_append, List.mem_cons] at hc
  rcases hc with hc | rfl | hc | rfl | hc | rfl | hc
  · exact hd c (isDigit_of_mem_padded hc)
  · rfl
  · exact hd c (isDigit_of_mem_padded hc)
  · rfl
  · exact hd c (isDigit_of_mem_padded hc)
  · rfl
  · exact hd c (isDigit_of_mem_padded hc)

lemma isSign_distanceSign (minutes : Int) : isSign (distanceSign minutes) = true := by
  rw [distanceSign]
  split <;> rfl

lemma distance_eq (minutes : Int) :
    Clock.distance ⟨minutes.natAbs / 60, minutes.natAbs % 60, 0, 0, false⟩ =
      minutes.natAbs * 60 * microsecondsPerSecond := by
  have hm : (minutes.natAbs / 60 * 60 + minutes.natAbs % 60) * 60 + 0 = minutes.natAbs * 60 := by
    omega
  rw [Clock.distance]
  simp only [hm, microsecondsPerSecond]
  split <;> omega

lemma signed_eq (minutes : Int) :
    (if distanceSign minutes == '-' then -((minutes.natAbs : Int) * 60 * microsecondsPerSecond)
      else (minutes.natAbs : Int) * 60 * microsecondsPerSecond) =
        minutes * 60 * microsecondsPerSecond := by
  rw [distanceSign, microsecondsPerSecond]
  by_cases hm : minutes < 0
  · rw [if_pos hm, if_pos (by decide)]
    omega
  · rw [if_neg hm, if_neg (by decide)]
    omega

lemma time?_clockText (t : Moment) {ms : Nat} {minutes : Int} (hms : ms < 10 ^ 3)
    (hm : minutes.natAbs < 1440) :
    time? (t.clockText ms ++ distanceText minutes) =
      some (⟨t.hour, t.minute, t.secondOfMinute, ms * 1000, false⟩,
        some (minutes * 60 * microsecondsPerSecond)) := by
  have hn : ∀ c ∈ t.clockText ms, (!isSign c) = true := fun c hc => by
    rw [not_isSign_of_mem_clockText hc]
    rfl
  have hs : ¬ (!isSign (distanceSign minutes)) = true := by
    rw [isSign_distanceSign]
    decide
  have hd := clock?_distanceText hm
  have hday : ¬ microsecondsPerDay ≤
      ((minutes.natAbs : Int) * 60 * microsecondsPerSecond).natAbs := by
    unfold microsecondsPerDay microsecondsPerSecond
    omega
  have hh : t.hour < 24 ∧ t.minute < 60 ∧ t.secondOfMinute < 60 := by
    have hs := t.second_lt
    rw [Moment.hour, Moment.minute, Moment.secondOfMinute]
    omega
  rw [distanceText, List.tail_cons] at hd
  rw [time?, distanceText, List.takeWhile_append_of_pos hn, List.dropWhile_append_of_pos hn,
    List.takeWhile_cons_of_neg (p := fun c => !isSign c) hs,
    List.dropWhile_cons_of_neg (p := fun c => !isSign c) hs, List.append_nil,
    clock?_clockText t hms]
  simp only [Option.bind_eq_bind, Option.bind_some, hd, distance_eq, Bool.false_eq_true, false_or,
    if_neg hday, signed_eq, if_pos hh]

lemma dateLength_international (t : Date) (c : Char) (cs : List Char) :
    dateLength (t.international ++ c :: cs) = 10 := by
  have hl := t.length_international
  have hy := length_padded (by decide) t.year_lt
  obtain ⟨d, ds, hm, hd⟩ := exists_padded_eq_cons (by decide) t.month_lt
  have h4 : (t.international ++ c :: cs)[4]? = some '-' := by
    rw [Date.international, List.append_assoc, List.getElem?_append_right (by omega), hy]
    rfl
  have h5 : (t.international ++ c :: cs)[5]? = some d := by
    rw [Date.international, List.append_assoc, List.getElem?_append_right (by omega), hy, hm]
    rfl
  have hw := ne_of_isDigit hd (by decide : 'W'.isDigit = false)
  have h7 : (t.international ++ c :: cs).length ≠ 7 := by
    rw [List.length_append, hl]
    omega
  rw [dateLength, if_neg h7, if_pos h4, h5, if_neg fun h => hw (Option.some.inj h)]

theorem stamp?_international (t : Moment) {ms : Nat} {minutes : Int} (hms : ms < 10 ^ 3)
    (hm : minutes.natAbs < 1440) :
    stamp? (t.international ms minutes) =
      some ⟨(t.ordinal * microsecondsPerSecond + ms * 1000 : Nat),
        some (minutes * 60 * microsecondsPerSecond)⟩ := by
  have hl := t.date.length_international
  have hs : (t.hour * 60 + t.minute) * 60 + t.secondOfMinute = t.second := by
    rw [Moment.hour, Moment.minute, Moment.secondOfMinute]
    omega
  rw [stamp?, Moment.international, dateLength_international, List.take_left' hl,
    List.drop_left' hl, date?_international]
  simp only [Option.bind_eq_bind, Option.bind_some, time?_clockText t hms hm, Stamp.ofParts, hs]
  have hc : ((t.date.number - 1 : Nat) : Int) * microsecondsPerDay +
      (t.second : Int) * microsecondsPerSecond + (ms * 1000 : Nat) =
        (t.ordinal * microsecondsPerSecond + ms * 1000 : Nat) := by
    rw [Moment.ordinal, microsecondsPerDay]
    unfold microsecondsPerSecond
    omega
  rw [hc]
  rfl

end Iso

lemma expandZulu_of_forall_ne {cs : List Char} (h : ∀ c ∈ cs, c ≠ 'Z') : expandZulu cs = cs := by
  induction cs with
  | nil => rfl
  | cons c cs ih =>
    have hs := ih fun d hd => h d (List.mem_cons_of_mem c hd)
    rw [expandZulu] at hs ⊢
    rw [List.flatMap_cons, if_neg (h c List.mem_cons_self), hs, List.singleton_append]

namespace Moment

variable {t : Moment} {ms : Nat} {minutes : Int}

lemma isDigit_or_mem_of_mem_international {c : Char} (hc : c ∈ t.international ms minutes) :
    c.isDigit = true ∨ c ∈ ['-', 'T', ':', '.', '+'] := by
  simp only [Moment.international, Date.international, clockText, distanceText, List.mem_append,
    List.mem_cons, distanceSign] at hc
  grind [isDigit_of_mem_padded]

lemma trim_international : Text.trim (t.international ms minutes) = t.international ms minutes := by
  have hb : ∀ c ∈ t.international ms minutes, ¬ Text.isBlank c := by
    have hm : (['-', 'T', ':', '.', '+'].all fun c => !Text.isBlank c) = true := by decide
    intro c hc hb
    rcases isDigit_or_mem_of_mem_international hc with h | h
    · exact Text.not_isBlank_of_isDigit h hb
    · have hn := List.all_eq_true.1 hm c h
      rw [hb] at hn
      cases hn
  have h := Text.trim_surrounded (u := []) (v := []) nofun nofun hb
  rwa [List.nil_append, List.append_nil] at h

lemma expandZulu_international :
    expandZulu (t.international ms minutes) = t.international ms minutes := by
  refine expandZulu_of_forall_ne ?_
  rintro c hc rfl
  exact absurd (isDigit_or_mem_of_mem_international hc) (by decide)

lemma isDateOnly_international : isDateOnly (t.international ms minutes) = false := by
  have hl := t.date.length_international
  have hn : (t.international ms minutes).length ≠ 10 := by
    simp [Moment.international, hl]
  rw [isDateOnly, beq_eq_false_iff_ne.2 hn]
  rfl

theorem stampOfText_international (g : Setting) (hms : ms < 10 ^ 3) (hm : minutes.natAbs < 1440) :
    stampOfText g (t.international ms minutes) =
      .ok ⟨(t.ordinal * microsecondsPerSecond + ms * 1000 : Nat),
        some (minutes * 60 * microsecondsPerSecond)⟩ := by
  rw [stampOfText, isDateOnly_international, expandZulu_international, if_neg Bool.false_ne_true,
    Iso.stamp?_international t hms hm]

end Moment

end Stencil.Calendar
