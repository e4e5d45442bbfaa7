import Stencil.Calendar.Reading
import Stencil.Proofs.Numbering
import Stencil.Proofs.Numerals
import Stencil.Proofs.Outcome

/-! Time stamps. What a text says on its own clock lies in the calendar, but the same instant on the
local clock may not. -/

namespace Stencil.Calendar

open Outcome

def InCalendar (n : Int) : Prop :=
  0 ≤ n ∧ n < 3652059 * microsecondsPerDay

instance (n : Int) : Decidable (InCalendar n) :=
  inferInstanceAs (Decidable (_ ∧ _))

namespace Moment

/-- The moment at which a clock is that shows so many microseconds of the calendar. -/
def Shows (t : Moment) (n : Int) : Prop :=
  (t.ordinal : Int) = n / microsecondsPerSecond

instance (t : Moment) (n : Int) : Decidable (t.Shows n) :=
  inferInstanceAs (Decidable (_ = _))

variable {t : Moment} {n : Int}

lemma exists_shows (h : InCalendar n) : ∃ t : Moment, t.Shows n := by
  obtain ⟨hl, hu⟩ := h
  unfold microsecondsPerDay microsecondsPerSecond at hu
  obtain ⟨t, ht⟩ := exists_ordinal (s := n.toNat / microsecondsPerSecond) (by
    unfold microsecondsPerSecond
    omega)
  refine ⟨t, ?_⟩
  rw [Shows, ht]
  unfold microsecondsPerSecond
  omega

lemma Shows.inCalendar (h : t.Shows n) : InCalendar n := by
  have ht := t.ordinal_lt_end
  rw [Shows] at h
  rw [InCalendar]
  unfold microsecondsPerDay
  unfold microsecondsPerSecond at *
  omega

lemma Shows.ofMicroseconds? (h : t.Shows n) : ofMicroseconds? n = some t := by
  have hr := Int.emod_nonneg n (b := microsecondsPerSecond) (by decide)
  refine t.ofMicroseconds?_eq_some (r := (n % microsecondsPerSecond).toNat) ?_ ?_
  · unfold microsecondsPerSecond at *
    omega
  · rw [Shows] at h
    unfold microsecondsPerSecond at *
    omega

lemma ofMicroseconds?_eq_none (h : ¬ InCalendar n) : Moment.ofMicroseconds? n = none := by
  rw [InCalendar] at h
  rw [Moment.ofMicroseconds?]
  split
  · rfl
  · next hn =>
    have hd : ¬ (1 ≤ n.toNat / microsecondsPerDay + 1 ∧
        n.toNat / microsecondsPerDay + 1 ≤ 3652059) := by
      unfold microsecondsPerDay microsecondsPerSecond at *
      omega
    rw [Date.ofNumber?_eq_none hd]
    rfl

end Moment

namespace Stamp

lemma at?_of_shows {n : Int} {t : Moment} (h : t.Shows n) : at? n = .ok t := by
  rw [at?, h.ofMicroseconds?]

lemma at?_of_not_inCalendar {n : Int} (h : ¬ InCalendar n) : at? n = .error .range := by
  rw [at?, Moment.ofMicroseconds?_eq_none h]

/-- What a clock of the zone shows where one that is ahead of universal time by the offset shows
`clock`. -/
def localClock (z : Zone) (clock offset : Int) : Int :=
  clock - offset + z.seconds * microsecondsPerSecond

inductive IsLocal (z : Zone) : Stamp → Moment → Prop
  | clock {c : Int} {t : Moment} : t.Shows c → IsLocal z ⟨c, none⟩ t
  | instant {c o : Int} {t : Moment} : o.natAbs < microsecondsPerDay → InCalendar (c - o) →
      t.Shows (localClock z c o) → IsLocal z ⟨c, some o⟩ t

inductive Escapes (z : Zone) : Stamp → StampFault → Prop
  | offset {c o : Int} : microsecondsPerDay ≤ o.natAbs → Escapes z ⟨c, some o⟩ .offset
  | range {c o : Int} : o.natAbs < microsecondsPerDay →
      ¬ (InCalendar (c - o) ∧ InCalendar (localClock z c o)) → Escapes z ⟨c, some o⟩ .range

variable {z : Zone} {s : Stamp} {c o : Int}

lemma toLocal_of_offset (ho : o.natAbs < microsecondsPerDay) :
    toLocal z ⟨c, some o⟩ = at? (c - o) >>= fun _ => at? (localClock z c o) :=
  if_neg (Nat.not_le.2 ho)

lemma IsLocal.toLocal {t : Moment} (h : s.IsLocal z t) : s.toLocal z = .ok t := by
  cases h with
  | clock ht => exact at?_of_shows ht
  | instant ho hc ht =>
    obtain ⟨u, hu⟩ := Moment.exists_shows hc
    rw [toLocal_of_offset ho, at?_of_shows hu, at?_of_shows ht]
    rfl

lemma Escapes.toLocal {f : StampFault} (h : s.Escapes z f) : s.toLocal z = .error f := by
  cases h with
  | offset ho => exact if_pos ho
  | @range c o ho hn =>
    rw [toLocal_of_offset ho]
    by_cases hc : InCalendar (c - o)
    · obtain ⟨u, hu⟩ := Moment.exists_shows hc
      rw [at?_of_shows hu, at?_of_not_inCalendar fun hl => hn ⟨hc, hl⟩]
      rfl
    · rw [at?_of_not_inCalendar hc]
      rfl

lemma isLocal_or_escapes (z : Zone) (hs : InCalendar s.clock) :
    (∃ t, s.IsLocal z t) ∨ ∃ f, s.Escapes z f := by
  obtain ⟨c, o⟩ := s
  cases o with
  | none =>
    obtain ⟨t, ht⟩ := Moment.exists_shows hs
    exact .inl ⟨t, .clock ht⟩
  | some o =>
    rcases Nat.lt_or_ge o.natAbs microsecondsPerDay with ho | ho
    · by_cases hn : InCalendar (c - o) ∧ InCalendar (localClock z c o)
      · obtain ⟨t, ht⟩ := Moment.exists_shows hn.2
        exact .inl ⟨t, .instant ho hn.1 ht⟩
      · exact .inr ⟨.range, .range ho hn⟩
    · exact .inr ⟨.offset, .offset ho⟩

lemma inCalendar_ofParts (t : Date) {h m s μ : Nat} (hh : h < 24) (hm : m < 60) (hs : s < 60)
    (hμ : μ < microsecondsPerSecond) (o : Option Int) :
    InCalendar (Stamp.ofParts t h m s μ o).clock := by
  have hp := t.number_pos
  have hl := t.number_le
  simp only [InCalendar, ofParts]
  unfold microsecondsPerDay
  unfold microsecondsPerSecond at *
  omega

end Stamp

namespace Iso

lemma number_lt_of_cutNumber? {w n : Nat} {cs rest : List Char}
    (h : cutNumber? w cs = some (n, rest)) : n < 10 ^ w := by
  rw [cutNumber?] at h
  split at h
  · next hw =>
    cases h
    exact (Text.number_lt (cs.take w)).trans_eq (congrArg (10 ^ ·) hw.1)
  · cases h

lemma fraction?_lt {cs : List Char} {μ : Nat} {ragged : Bool}
    (h : fraction? cs = some (μ, ragged)) : μ < microsecondsPerSecond := by
  rw [fraction?, Option.bind_eq_bind, Option.bind_eq_some_iff] at h
  obtain ⟨⟨n, rest⟩, hn, h⟩ := h
  cases h
  have hw : min cs.length 6 ≤ 6 := Nat.min_le_right _ _
  generalize min cs.length 6 = w at hn hw
  calc n * Nat.pow 10 (6 - w)
    _ < 10 ^ w * 10 ^ (6 - w) :=
      Nat.mul_lt_mul_of_pos_right (number_lt_of_cutNumber? hn) (Nat.pow_pos (by decide))
    _ = microsecondsPerSecond := by
      rw [← Nat.pow_add, Nat.add_sub_of_le hw]
      rfl

lemma numbers?_lt {colons : Option Bool} {n : Nat} {cs : List Char} {vs : List Nat} {μ : Nat}
    {ragged : Bool} (h : numbers? colons n cs = some (vs, μ, ragged)) :
    μ < microsecondsPerSecond := by
  induction n generalizing colons cs vs with
  | zero =>
    obtain ⟨r, hr, h⟩ := Option.map_eq_some_iff.1 h
    cases h
    exact fraction?_lt hr
  | succ n ih =>
    rw [numbers?, Option.bind_eq_bind, Option.bind_eq_some_iff] at h
    obtain ⟨⟨v, rest⟩, -, h⟩ := h
    dsimp only at h
    split at h
    · cases h
      decide
    · split at h
      · cases h
        decide
      · cases h
    · split at h
      · obtain ⟨⟨ws, f⟩, hf, h⟩ := Option.bind_eq_some_iff.1 h
        cases h
        exact ih hf
      · split at h
        · obtain ⟨f, hf, h⟩ := Option.bind_eq_some_iff.1 h
          cases h
          exact fraction?_lt hf
        · split at h
          · cases h
          · obtain ⟨⟨ws, f⟩, hf, h⟩ := Option.bind_eq_some_iff.1 h
            cases h
            exact ih hf

lemma clock?_lt {cs : List Char} {c : Clock} (h : clock? cs = some c) :
    c.microsecond < microsecondsPerSecond := by
  obtain ⟨⟨vs, μ, ragged⟩, hn, h⟩ := Option.bind_eq_some_iff.1 h
  cases h
  exact numbers?_lt hn

lemma time?_lt {cs : List Char} {c : Clock} {o : Option Int} (h : time? cs = some (c, o)) :
    (c.hour < 24 ∧ c.minute < 60 ∧ c.second < 60) ∧ c.microsecond < microsecondsPerSecond := by
  have hbound : ∀ {d : Clock} {x : Option (Option Int)},
      (x.bind fun o => if d.hour < 24 ∧ d.minute < 60 ∧ d.second < 60 then some (d, o) else none) =
        some (c, o) → d = c ∧ d.hour < 24 ∧ d.minute < 60 ∧ d.second < 60 := by
    intro d x h
    obtain ⟨p, -, h⟩ := Option.bind_eq_some_iff.1 h
    split at h
    · next hd =>
      cases h
      exact ⟨rfl, hd⟩
    · cases h
  obtain ⟨d, hd, h⟩ := Option.bind_eq_some_iff.1 h
  have hlt : d = c ∧ d.hour < 24 ∧ d.minute < 60 ∧ d.second < 60 := by
    simp only [Option.bind_eq_bind] at h
    split at h
    · split at h
      · exact hbound h
      · exact hbound h
    · obtain ⟨e, -, h⟩ := Option.bind_eq_some_iff.1 h
      split at h
      · exact hbound h
      · exact hbound h
  obtain ⟨rfl, hlt⟩ := hlt
  exact ⟨hlt, clock?_lt hd⟩

lemma inCalendar_of_stamp? {cs : List Char} {s : Stamp} (h : stamp? cs = some s) :
    InCalendar s.clock := by
  obtain ⟨t, -, h⟩ := Option.bind_eq_some_iff.1 h
  split at h
  · cases h
    exact Stamp.inCalendar_ofParts t (by decide) (by decide) (by decide) (by decide) none
  · obtain ⟨⟨c, o⟩, hc, h⟩ := Option.bind_eq_some_iff.1 h
    cases h
    obtain ⟨⟨hh, hm, hs⟩, hμ⟩ := time?_lt hc
    exact Stamp.inCalendar_ofParts t hh hm hs hμ o

end Iso

lemma inCalendar_of_dateOnly {cs : List Char} {s : Stamp} (h : dateOnly cs = .ok s) :
    InCalendar s.clock := by
  rw [dateOnly] at h
  split at h
  · obtain ⟨t, -, rfl⟩ := map_eq_ok.1 h
    exact Stamp.inCalendar_ofParts t (by decide) (by decide) (by decide) (by decide) none
  · cases h

namespace Setting

/-- What is relied on of the parser: the times that it gives lie in the calendar, and it raises
exceptions of two kinds only. -/
structure Documented (g : Setting) : Prop where
  inCalendar : ∀ cs x, g.parse cs = .ok x → InCalendar x.clock
  raises : ∀ cs r, g.parse cs = .error r → r.kind = .value ∨ r.kind = .overflow

def Reads (g : Setting) (s : String) (x : Stamp) : Prop :=
  Text.trim s.toList ≠ [] ∧ stampOfText g (Text.trim s.toList) = .ok x

variable {g : Setting} {cs : List Char}

lemma Documented.inCalendar_of_stampOfText (hg : g.Documented) {x : Stamp}
    (h : stampOfText g cs = .ok x) : InCalendar x.clock := by
  rw [stampOfText] at h
  split at h
  · exact inCalendar_of_dateOnly (mapError_eq_ok.1 h)
  · split at h
    · next hs =>
      cases h
      exact Iso.inCalendar_of_stamp? hs
    · exact hg.inCalendar cs x (mapError_eq_ok.1 h)

lemma Documented.stampOfText_ne_raised (hg : g.Documented) (r : Raised) :
    stampOfText g cs ≠ .error (.raised r) := by
  intro h
  rw [stampOfText] at h
  split at h
  · obtain ⟨u, -, hu⟩ := mapError_eq_error.1 h
    cases hu
  · split at h
    · cases h
    · obtain ⟨q, hp, hr⟩ := mapError_eq_error.1 h
      have hq : q.kind.isCaught := by
        rcases hg.raises cs q hp with hk | hk <;> rw [hk] <;> rfl
      rw [if_pos hq] at hr
      cases hr

end Setting

end Stencil.Calendar
