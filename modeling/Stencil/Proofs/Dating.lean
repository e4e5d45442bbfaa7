import Stencil.Filter.Date
import Stencil.Proofs.Stamps

/-! What the date filter answers to numbers and texts: a text, unless it reads a time stamp that
stands for no moment of the local clock. -/

namespace Stencil

open Calendar

namespace Value

inductive IsDated (g : Setting) : Value → Moment → Prop
  | number {n : Number} {t : Moment} : Instant.toLocal g.zone n = .ok t → IsDated g (.number n) t
  | text {s : String} {x : Stamp} {t : Moment} : g.Reads s x → x.IsLocal g.zone t →
      IsDated g (.text s) t

/-- The text is read as a time stamp that stands for no moment of the local clock. -/
inductive Eludes (g : Setting) : Value → FilterError → Prop
  | stamp {s : String} {x : Stamp} {f : StampFault} : g.Reads s x → x.Escapes g.zone f →
      Eludes g (.text s) f.toFilterError

end Value

namespace Filter

variable {g : Setting} {s : String} {x : Stamp}

lemma findText_of_ne_nil (hn : Text.trim s.toList ≠ []) :
    findText g s =
      match stampOfText g (Text.trim s.toList) with
      | .error (.unreadable u) => .unreadable u
      | .error (.raised r) => .fault (.raised r)
      | .ok x =>
        match x.toLocal g.zone with
        | .ok t => .moment t
        | .error f => .fault f.toFilterError := by
  rw [findText]
  exact if_neg (mt List.isEmpty_iff.1 hn)

lemma findText_of_isLocal {t : Moment} (h : g.Reads s x) (ht : x.IsLocal g.zone t) :
    findText g s = .moment t := by
  rw [findText_of_ne_nil h.1, h.2]
  simp only [ht.toLocal]

lemma findText_of_escapes {f : StampFault} (h : g.Reads s x) (hf : x.Escapes g.zone f) :
    findText g s = .fault f.toFilterError := by
  rw [findText_of_ne_nil h.1, h.2]
  simp only [hf.toLocal]

lemma findText_of_not_reads (hg : g.Documented) (h : ∀ x, ¬ g.Reads s x) :
    findText g s = .nothing ∨ ∃ u, findText g s = .unreadable u := by
  by_cases hn : Text.trim s.toList = []
  · left
    rw [findText, hn]
    rfl
  · right
    rw [findText_of_ne_nil hn]
    cases hs : stampOfText g (Text.trim s.toList) with
    | ok x => exact absurd ⟨hn, hs⟩ (h x)
    | error f =>
      cases f with
      | unreadable u => exact ⟨u, rfl⟩
      | raised r => exact absurd hs (hg.stampOfText_ne_raised r)

variable {v format : Value}

lemma date_number_eq (g : Setting) (n : Number) (format : Value) :
    date g (.number n) format =
      match formatFault? format with
      | some e => ⟨.error e, []⟩
      | none => answer (.number n) format (findNumber g n) :=
  rfl

lemma date_text_eq (g : Setting) (s : String) (format : Value) :
    date g (.text s) format =
      match formatFault? format with
      | some e => ⟨.error e, []⟩
      | none => answer (.text s) format (findText g s) :=
  rfl

lemma date_of_isDated {t : Moment} (hf : formatFault? format = none) (h : v.IsDated g t) :
    (date g v format).outcome = .ok (formatted t format) := by
  cases h with
  | number h => rw [date_number_eq, hf, findNumber, h, answer]
  | text h ht => rw [date_text_eq, hf, findText_of_isLocal h ht, answer]

lemma date_of_eludes {e : FilterError} (hf : formatFault? format = none) (h : v.Eludes g e) :
    (date g v format).outcome = .error e := by
  cases h with
  | stamp h he => rw [date_text_eq, hf, findText_of_escapes h he, answer]

lemma date_of_neither (hg : g.Documented) (hv : (∃ n, v = .number n) ∨ ∃ s, v = .text s)
    (hf : formatFault? format = none) (hd : ∀ t, ¬ v.IsDated g t) (he : ∀ e, ¬ v.Eludes g e) :
    (date g v format).outcome = .ok (.text "") := by
  rcases hv with ⟨n, rfl⟩ | ⟨s, rfl⟩
  · rw [date_number_eq, hf, findNumber]
    cases h : Instant.toLocal g.zone n with
    | ok t => exact absurd (.number h) (hd t)
    | error f => rfl
  · have hr : ∀ x, ¬ g.Reads s x := by
      intro x h
      rcases x.isLocal_or_escapes g.zone (hg.inCalendar_of_stampOfText h.2) with ⟨t, ht⟩ | ⟨f, hf⟩
      · exact hd t (.text h ht)
      · exact he _ (.stamp h hf)
    rw [date_text_eq, hf]
    rcases findText_of_not_reads hg hr with hu | ⟨u, hu⟩ <;> rw [hu] <;> rfl

lemma exists_formatted (t : Moment) (format : Value) : ∃ s, formatted t format = .text s := by
  cases format <;> exact ⟨_, rfl⟩

/-- To a number or a text, with no format or with a text for one, the date filter answers with a
text, unless it reads a time stamp that the local clock cannot show. The text is the date in that
format, and empty where there is no date. -/
theorem date_returns (g : Setting) (hg : g.Documented) (v format : Value)
    (hv : (∃ n, v = .number n) ∨ ∃ s, v = .text s) (hf : format = .null ∨ ∃ f, format = .text f) :
    ((∃ s, (date g v format).outcome = .ok (.text s)) ↔ ∀ e, ¬ v.Eludes g e) ∧
      (∀ t, v.IsDated g t → (date g v format).outcome = .ok (formatted t format)) ∧
      ((∀ t, ¬ v.IsDated g t) → (∀ e, ¬ v.Eludes g e) →
        (date g v format).outcome = .ok (.text "")) ∧
      ∀ e, v.Eludes g e → (date g v format).outcome = .error e := by
  have hf : formatFault? format = none := by
    rcases hf with rfl | ⟨f, rfl⟩ <;> rfl
  refine ⟨⟨?_, fun he => ?_⟩, fun t => date_of_isDated hf, date_of_neither hg hv hf,
    fun e => date_of_eludes hf⟩
  · rintro ⟨s, hs⟩ e he
    rw [date_of_eludes hf he] at hs
    cases hs
  · by_cases hd : ∃ t, v.IsDated g t
    · obtain ⟨t, ht⟩ := hd
      obtain ⟨s, hs⟩ := exists_formatted t format
      exact ⟨s, (date_of_isDated hf ht).trans (congrArg _ hs)⟩
    · exact ⟨"", date_of_neither hg hv hf (not_exists.1 hd) he⟩

theorem date_returns_first_instant :
    let day : Date := ⟨2024, 1, 15, by decide, by decide, by decide⟩
    let parse (cs : List Char) : Except Raised Stamp :=
      if cs = "15 January 2024".toList then .ok (.ofParts day 0 0 0 0 none)
      else .error ⟨.value, "Unknown string format: " ++ String.ofList cs⟩
    let east : Setting := ⟨⟨19800⟩, parse⟩
    let west : Setting := ⟨⟨-28800⟩, parse⟩
    let first : Value := .text "0001-01-01T00:00:00Z"
    let format : Value := .text "%d %H:%M"
    (east.Documented ∧ west.Documented) ∧
      (date east first format).outcome = .ok (.text "01 05:30") ∧
      (date west first format).outcome = .error .dateRange ∧
      (date west (.text " 15 January 2024") format).outcome = .ok (.text "15 00:00") ∧
      (date west (.text "soon") format).outcome = .ok (.text "") := by
  intro day parse east west first format
  have hparse : ∀ z, (⟨z, parse⟩ : Setting).Documented := by
    refine fun z => ⟨fun cs x h => ?_, fun cs r h => ?_⟩
    · obtain ⟨-, h⟩ | ⟨-, h⟩ := ite_eq_iff.1 h
      · cases h
        decide
      · cases h
    · obtain ⟨-, h⟩ | ⟨-, h⟩ := ite_eq_iff.1 h
      · cases h
      · cases h
        exact .inl rfl
  have hf : format = .null ∨ ∃ f, format = .text f := .inr ⟨_, rfl⟩
  have heast :
      first.IsDated east ⟨⟨1, 1, 1, by decide, by decide, by decide⟩, 19800, by decide⟩ := by
    have hr : east.Reads "0001-01-01T00:00:00Z" ⟨0, some 0⟩ :=
      ⟨by decide +kernel, by decide +kernel⟩
    exact .text hr (.instant (by decide) (by decide) (by decide +kernel))
  have hwest : first.Eludes west .dateRange := by
    have hr : west.Reads "0001-01-01T00:00:00Z" ⟨0, some 0⟩ :=
      ⟨by decide +kernel, by decide +kernel⟩
    exact .stamp (f := .range) hr (.range (by decide) (by decide))
  have hday : (Value.text " 15 January 2024").IsDated west ⟨day, 0, by decide⟩ := by
    have hr : west.Reads " 15 January 2024" (.ofParts day 0 0 0 0 none) :=
      ⟨by decide +kernel, by decide +kernel⟩
    exact .text hr (.clock (by decide +kernel))
  have hsoon : ∀ x, ¬ west.Reads "soon" x := by
    have he : stampOfText west (Text.trim "soon".toList) =
        .error (.unreadable (.raised ⟨.value, "Unknown string format: soon"⟩)) := by
      decide +kernel
    rintro x ⟨-, h⟩
    cases he.symm.trans h
  obtain ⟨-, hdated, -, -⟩ := date_returns east (hparse _) first format (.inr ⟨_, rfl⟩) hf
  obtain ⟨-, -, -, heludes⟩ := date_returns west (hparse _) first format (.inr ⟨_, rfl⟩) hf
  obtain ⟨-, hread, -, -⟩ :=
    date_returns west (hparse _) (.text " 15 January 2024") format (.inr ⟨_, rfl⟩) hf
  obtain ⟨-, -, hneither, -⟩ :=
    date_returns west (hparse _) (.text "soon") format (.inr ⟨_, rfl⟩) hf
  refine ⟨⟨hparse _, hparse _⟩, ?_, heludes _ hwest, ?_, ?_⟩
  · have ht : formatted ⟨⟨1, 1, 1, by decide, by decide, by decide⟩, 19800, by decide⟩ format =
        .text "01 05:30" := by cbv
    rw [hdated _ heast, ht]
  · have ht : formatted ⟨day, 0, by decide⟩ format = .text "15 00:00" := by cbv
    rw [hread _ hday, ht]
  · refine hneither (fun t h => ?_) fun e h => ?_
    · cases h with
      | text h _ => exact hsoon _ h
    · cases h with
      | stamp h _ => exact hsoon _ h

theorem date_before_calendar :
    let g : Setting := .international ⟨0⟩
    let v : Value := .text "0001-01-01T00:00:00+05:00"
    let format : Value := .text "%Y-%m-%d"
    g.Reads "0001-01-01T00:00:00+05:00" ⟨0, some 18000000000⟩ ∧
      (date g v format).outcome = .error .dateRange ∧
      ¬ ∃ s, (date g v format).outcome = .ok (.text s) := by
  intro g v format
  have hs : g.Reads "0001-01-01T00:00:00+05:00" ⟨0, some 18000000000⟩ :=
    ⟨by decide +kernel, by decide +kernel⟩
  have he : v.Eludes g .dateRange := .stamp (f := .range) hs (.range (by decide) (by decide))
  have ho : (date g v format).outcome = .error .dateRange := date_of_eludes rfl he
  refine ⟨hs, ho, ?_⟩
  rintro ⟨s, h⟩
  rw [ho] at h
  cases h

end Filter

end Stencil
