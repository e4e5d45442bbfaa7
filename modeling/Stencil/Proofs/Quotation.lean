import Stencil.Proofs.Conversion
import Stencil.Proofs.Escaping

/-! A directive ends outside strings, both for the cut that ends it and for the scan of its body. -/

namespace Stencil

namespace Quoting

variable {d : Delimiter}

lemma run_cons (s : Quoting) (c : Char) (cs : List Char) :
    run d s (c :: cs) = run d (s.step d c) cs :=
  rfl

lemma run_append (s : Quoting) (cs ds : List Char) : run d s (cs ++ ds) = run d (run d s cs) ds :=
  List.foldl_append

def Marked (d : Delimiter) : Quoting → Prop
  | .outside => True
  | .inside q => d.opensString q
  | .escaped q => d.opensString q

lemma Marked.step {s : Quoting} (h : s.Marked d) (c : Char) : (s.step d c).Marked d := by
  cases s with
  | outside =>
    rw [Quoting.step]
    split
    · assumption
    · trivial
  | inside q =>
    rw [Quoting.step]
    split
    · exact h
    · split
      · trivial
      · exact h
  | escaped q => exact h

lemma Marked.run {s : Quoting} (h : s.Marked d) (cs : List Char) : (run d s cs).Marked d := by
  induction cs generalizing s with
  | nil => exact h
  | cons c cs ih => exact ih (h.step c)

end Quoting

namespace Delimiter

variable {d : Delimiter}

lemma opensString_iff {c : Char} (hd : d ≠ .comment) : d.opensString c ↔ c = '\'' ∨ c = '"' := by
  simp [opensString, hd]

lemma ordinary_of {p : Char → Bool} {c : Char}
    (hp : (['\'', '"', '}', '%', '#'].all fun m => !p m) = true) (h : p c) : d.Ordinary c := by
  have hc : c ∉ ['\'', '"', '}', '%', '#'] := by
    intro hm
    have hn := List.all_eq_true.1 hp c hm
    simp [h] at hn
  constructor
  · rintro rfl
    cases d <;> simp [closer] at hc
  · cases d <;> simp_all [opensString]

lemma ordinary_of_isBlank {c : Char} (h : Text.isBlank c) : d.Ordinary c :=
  ordinary_of (by decide) h

lemma run_outside {cs : List Char} (h : ∀ c ∈ cs, d.opensString c = false) :
    Quoting.run d .outside cs = .outside := by
  induction cs with
  | nil => rfl
  | cons c cs ih =>
    obtain ⟨hc, hcs⟩ := List.forall_mem_cons.1 h
    rw [Quoting.run_cons, Quoting.step, if_neg (by simp [hc])]
    exact ih hcs

end Delimiter

namespace Lexeme

open Quoting

variable {d : Delimiter}

lemma isDigit_of_cutDigits? {cs ds rest : List Char} (h : cutDigits? cs = some (ds, rest)) :
    ∀ c ∈ ds, Text.isDigit c := by
  simp only [cutDigits?] at h
  split at h
  · cases h
  · cases h
    exact fun c hc => List.mem_takeWhile_imp hc

def isNumeric (c : Char) : Bool :=
  c == '-' || c == '.' || Text.isDigit c

lemma isNumeric_of_cutUnsigned? {negative : Bool} {cs rest : List Char} {n : Numeral}
    (h : Numeral.cutUnsigned? negative cs = some (n, rest)) : ∀ c ∈ n.text, isNumeric c := by
  have hs : ∀ c ∈ (if negative then ['-'] else []), isNumeric c := by
    cases negative <;> simp [isNumeric]
  have hd : ∀ {cs ds rest}, cutDigits? cs = some (ds, rest) → ∀ c ∈ ds, isNumeric c := by
    intro cs ds rest h c hc
    simp [isNumeric, isDigit_of_cutDigits? h c hc]
  unfold Numeral.cutUnsigned? at h
  split at h
  · cases h
  · rename_i whole r hw
    split at h
    · rename_i hf
      cases h
      simp only [Numeral.text, List.forall_mem_append, List.forall_mem_cons]
      exact ⟨⟨hs, hd hw⟩, rfl, hd hf⟩
    · cases h
      simp only [Numeral.text, List.append_nil, List.forall_mem_append]
      exact ⟨hs, hd hw⟩
  · rename_i hw
    cases h
    simp only [Numeral.text, List.append_nil, List.forall_mem_append]
    exact ⟨hs, hd hw⟩

lemma continuesName_of_beginsName {c : Char} (h : beginsName c) : continuesName c := by
  simp only [beginsName, continuesName, Char.isAlphanum, Bool.or_eq_true] at h ⊢
  exact h.imp_left .inl

inductive Takes : List Char → Lexeme → List Char → Prop
  | quoted {q cs body rest} : q = '\'' ∨ q = '"' → cutString? q cs = some (body, rest) →
      Takes (q :: cs) (.quoted q body) rest
  | plain {l rest} : (∀ d, ∀ c ∈ l.text.toList, Delimiter.Ordinary d c) →
      Takes (l.text.toList ++ rest) l rest

lemma takes_of_cut? {cs rest : List Char} {l : Lexeme} (h : cut? cs = some (l, rest)) :
    Takes cs l rest := by
  have he := eq_of_cut? h
  unfold cut? at h
  split at h
  · rename_i n r hn
    cases h
    rw [he]
    refine .plain fun d c hc => Delimiter.ordinary_of (p := isNumeric) (by decide) ?_
    have hnum : ∀ c ∈ n.text, isNumeric c := by
      unfold Numeral.cut? at hn
      split at hn
      · exact isNumeric_of_cutUnsigned? hn
      · exact isNumeric_of_cutUnsigned? hn
    rw [text, String.toList_ofList] at hc
    exact hnum c hc
  · split at h
    · cases h
    · rename_i c r _
      split at h
      · rename_i hq
        obtain ⟨⟨b, r'⟩, hr, he⟩ := Option.map_eq_some_iff.1 h
        cases he
        exact .quoted hq hr
      · split at h
        · rename_i o r' ho
          cases h
          rw [he]
          refine .plain fun d c hc => ?_
          have hall : ∀ o : Comparison, o.text.toList.all ['=', '!', '<', '>'].contains := by
            intro o
            cases o <;> decide
          exact Delimiter.ordinary_of (by decide) (List.all_eq_true.1 (hall o) c hc)
        · split at h
          · rename_i hb
            cases h
            rw [he]
            refine .plain fun d a ha => Delimiter.ordinary_of (p := continuesName) (by decide) ?_
            rw [text, String.toList_ofList] at ha
            rcases List.mem_cons.1 ha with rfl | ha
            · exact continuesName_of_beginsName hb
            · exact List.mem_takeWhile_imp ha
          · split at h
            · rename_i hp
              cases h
              rw [he]
              refine .plain fun d a ha => Delimiter.ordinary_of (p := isPunct) (by decide) ?_
              obtain rfl : a = c := by simpa [text] using ha
              exact hp
            · cases h

lemma run_inside_of_cutString? {q : Char} {cs body rest : List Char} (hq : q ≠ '\\')
    (h : cutString? q cs = some (body, rest)) : run d (.inside q) cs = run d .outside rest := by
  fun_induction cutString? q cs generalizing body rest with
  | case1 => cases h
  | case2 cs =>
    cases h
    rw [run_cons, step, if_neg hq, if_pos rfl]
  | case3 => cases h
  | case4 _ e cs ih =>
    obtain ⟨⟨b, r⟩, hr, he⟩ := Option.map_eq_some_iff.1 h
    cases he
    exact ih hr
  | case5 c cs hc hb ih =>
    obtain ⟨⟨b, r⟩, hr, he⟩ := Option.map_eq_some_iff.1 h
    cases he
    rw [run_cons, step, if_neg hb, if_neg hc]
    exact ih hr

lemma run_inside_of_cutString?_eq_none {q : Char} {cs : List Char} (h : cutString? q cs = none) :
    run d (.inside q) cs ≠ .outside := by
  fun_induction cutString? q cs with
  | case1 => exact inside_ne q
  | case2 => cases h
  | case3 => exact escaped_ne q
  | case4 _ e cs ih => exact ih (Option.map_eq_none_iff.1 h)
  | case5 c cs hc hb ih =>
    rw [run_cons, step, if_neg hb, if_neg hc]
    exact ih (Option.map_eq_none_iff.1 h)

lemma closesFrom_inside_of_cutString? {q : Char} {cs body rest : List Char} (hq : q ≠ '\\')
    (h : cutString? q cs = some (body, rest)) (hr : d.Closes rest) :
    d.ClosesFrom (.inside q) cs := by
  fun_induction cutString? q cs generalizing body rest with
  | case1 => cases h
  | case2 cs =>
    cases h
    rw [Delimiter.closesFrom_cons_of_ne (inside_ne q), step, if_neg hq, if_pos rfl]
    exact hr
  | case3 => cases h
  | case4 _ e cs ih =>
    obtain ⟨⟨b, r⟩, hs, he⟩ := Option.map_eq_some_iff.1 h
    cases he
    rw [Delimiter.closesFrom_cons_of_ne (inside_ne q), step, if_pos rfl]
    exact (Delimiter.closesFrom_cons_of_ne (escaped_ne q)).2 (ih hs hr)
  | case5 c cs hc hb ih =>
    obtain ⟨⟨b, r⟩, hs, he⟩ := Option.map_eq_some_iff.1 h
    cases he
    rw [Delimiter.closesFrom_cons_of_ne (inside_ne q), step, if_neg hb, if_neg hc]
    exact ih hs hr

lemma Takes.run_outside {cs rest : List Char} {l : Lexeme} (hd : d ≠ .comment)
    (h : Takes cs l rest) : run d .outside cs = run d .outside rest := by
  cases h with
  | quoted hq hs =>
    rw [run_cons, step, if_pos ((Delimiter.opensString_iff hd).2 hq)]
    exact run_inside_of_cutString? (mark_ne_backslash hq) hs
  | plain hl => rw [run_append, Delimiter.run_outside fun c hc => (hl d c hc).2]

lemma Takes.closes {cs rest : List Char} {l : Lexeme} (hd : d ≠ .comment) (h : Takes cs l rest)
    (hr : d.Closes rest) : d.Closes cs := by
  cases h with
  | @quoted q _ _ _ hq hs =>
    have ho := (Delimiter.opensString_iff hd).2 hq
    refine Delimiter.closesFrom_cons.2 ⟨fun _ hp => ?_, ?_⟩
    · rw [(Delimiter.prefix_closing.1 hp).1, Delimiter.closer_not_opensString] at ho
      cases ho
    · rw [step, if_pos ho]
      exact closesFrom_inside_of_cutString? (mark_ne_backslash hq) hs hr
  | plain hl => exact Delimiter.closes_append (hl d) hr

lemma closes_of_scanChars {cs : List Char} {ls : List Lexeme} (hd : d ≠ .comment)
    (h : scanChars cs = .ok ls) : d.Closes cs := by
  fun_induction scanChars cs generalizing ls with
  | case1 => exact Delimiter.closesFrom_nil.2 rfl
  | case2 c cs hb ih =>
    have hc := Delimiter.ordinary_of_isBlank (d := d) hb
    exact Delimiter.closes_cons_of_ne hc.1 hc.2 (ih h)
  | case3 => cases h
  | case4 c cs _ l rest hl _ ih =>
    obtain ⟨ms, hms, -⟩ := Outcome.map_eq_ok.1 h
    exact (takes_of_cut? hl).closes hd (ih hms)

lemma not_mark_of_scanChars {cs : List Char} {c : Char} (hd : d ≠ .comment)
    (hr : run d .outside cs = .outside) (h : scanChars cs = .error c) : c ≠ '\'' ∧ c ≠ '"' := by
  fun_induction scanChars cs generalizing c with
  | case1 => cases h
  | case2 a cs hb ih =>
    rw [run_cons, step, if_neg (by simp [(Delimiter.ordinary_of_isBlank (d := d) hb).2])] at hr
    exact ih hr h
  | case3 a cs _ hn =>
    obtain rfl : a = c := Except.error.inj h
    rw [← not_or]
    intro hq
    rw [cut?_mark hq, Option.map_eq_none_iff] at hn
    rw [run_cons, step, if_pos ((Delimiter.opensString_iff hd).2 hq)] at hr
    exact run_inside_of_cutString?_eq_none hn hr
  | case4 a cs _ l rest hl _ ih =>
    rw [(takes_of_cut? hl).run_outside hd] at hr
    exact ih hr (Outcome.map_eq_error.1 h)

end Lexeme

namespace Token

open Quoting

variable {d : Delimiter}

lemma run_blanks {cs : List Char} (h : ∀ c ∈ cs, Text.isBlank c) : run d .outside cs = .outside :=
  Delimiter.run_outside fun c hc => (Delimiter.ordinary_of_isBlank (h c hc)).2

lemma eq_outside_of_run_blanks {s : Quoting} {cs : List Char} (hs : s.Marked d)
    (hb : ∀ c ∈ cs, Text.isBlank c) (h : run d s cs = .outside) : s = .outside := by
  induction cs generalizing s with
  | nil => exact h
  | cons c cs ih =>
    obtain ⟨hc, hcs⟩ := List.forall_mem_cons.1 hb
    have hn := ih (hs.step c) hcs h
    cases s with
    | outside => rfl
    | inside q =>
      rw [step] at hn
      split at hn
      · cases hn
      · split at hn
        · rename_i hq
          subst hq
          have ho : d.opensString c = false := (Delimiter.ordinary_of_isBlank hc).2
          cases ho.symm.trans hs
        · cases hn
    | escaped q => cases hn

lemma run_trim {cs : List Char} (h : run d .outside cs = .outside) :
    run d .outside (Text.trim cs) = .outside := by
  obtain ⟨u, v, hcs, hu, hv, -⟩ := Text.trimmed_trim cs
  rw [hcs, run_append, run_append, run_blanks hu] at h
  have ho : Quoting.outside.Marked d := trivial
  exact eq_outside_of_run_blanks (ho.run _) hv h

lemma run_trimLeft (cs : List Char) : run d .outside (Text.trimLeft cs) = run d .outside cs := by
  have hs := List.takeWhile_append_dropWhile (p := Text.isBlank) (l := cs)
  conv_rhs => rw [← hs, run_append, run_blanks fun c hc => List.mem_takeWhile_imp hc]
  rfl

lemma run_cutWord {cs : List Char} (hw : ∀ c ∈ (Text.cutWord cs).1, d.opensString c = false) :
    run d .outside (Text.cutWord cs).2 = run d .outside cs := by
  have hs := List.takeWhile_append_dropWhile (p := fun c => !Text.isBlank c) (l := Text.trimLeft cs)
  have ho : run d .outside ((Text.trimLeft cs).takeWhile fun c => !Text.isBlank c) = .outside :=
    Delimiter.run_outside hw
  rw [Text.cutWord, run_trimLeft, ← run_trimLeft cs]
  conv_rhs => rw [← hs, run_append, ho]

lemma run_directive {source : String} {ts : List Token} {t : Token} (hs : ofSource source = .ok ts)
    (ht : t ∈ ts) :
    t.kind = .text ∨ ∃ d, d ≠ .comment ∧ run d .outside t.value.toList = .outside ∧
      (t.kind = .output ∨ t.kind = .tag) := by
  obtain ⟨ps, hps, rfl⟩ := ofSource_ok.1 hs
  obtain ⟨hl, -⟩ := Cut.ofSource_eq_iff.1 hps
  obtain ⟨n, p, hp, htp⟩ := of_mem_ofPieces ht
  obtain ⟨u, v, rfl⟩ := List.append_of_mem hp
  have hpl := hl u p v rfl
  cases p with
  | text cs =>
    cases htp
    exact .inl rfl
  | directive d body =>
    have hr := run_trim hpl.1.1
    cases d with
    | output =>
      cases htp
      refine .inr ⟨.output, nofun, ?_, .inl rfl⟩
      rwa [String.toList_ofList]
    | tag =>
      cases htp
      refine .inr ⟨.tag, nofun, ?_, .inr rfl⟩
      rwa [String.toList_ofList]
    | comment => cases htp
  | indent cs => cases htp
  | newline cs => cases htp

lemma scan_outside (line : Option Int) {cs : List Char} (hd : d ≠ .comment)
    (h : run d .outside cs = .outside) :
    (∃ ls, Lexeme.scan line (String.ofList cs) = .ok ls) ∨
      ∃ c, c ≠ '\'' ∧ c ≠ '"' ∧
        Lexeme.scan line (String.ofList cs) = .error (.malformed (.strayCharacter c) line) := by
  rw [Lexeme.scan, String.toList_ofList]
  cases hs : Lexeme.scanChars cs with
  | ok ls => exact .inl ⟨ls, rfl⟩
  | error c =>
    obtain ⟨h1, h2⟩ := Lexeme.not_mark_of_scanChars hd h hs
    exact .inr ⟨c, h1, h2, rfl⟩

/-- The row of lexemes in a directive never ends inside a string, unless a string begins in the
keyword of a tag: it is all read, or stops at a character that is no quotation mark. -/
theorem row_of_ofSource {source : String} {ts : List Token} {t : Token}
    (hs : ofSource source = .ok ts) (ht : t ∈ ts)
    (hw : t.kind = .tag → ∀ c ∈ (Text.cutWord t.value.toList).1, c ≠ '\'' ∧ c ≠ '"') :
    (∃ ls, t.row = .ok ls) ∨
      ∃ c, c ≠ '\'' ∧ c ≠ '"' ∧ t.row = .error (.malformed (.strayCharacter c) (some t.line)) := by
  rcases t with ⟨kind, value, line⟩
  rcases run_directive hs ht with hk | ⟨d, hd, hr, hk⟩
  · obtain rfl : kind = .text := hk
    exact .inl ⟨[], rfl⟩
  · rcases hk with hk | hk
    · obtain rfl : kind = .output := hk
      have ho := scan_outside (some line) hd hr
      rwa [String.ofList_toList] at ho
    · obtain rfl : kind = .tag := hk
      refine scan_outside _ hd ?_
      rw [run_cutWord, hr]
      intro c hc
      obtain ⟨h1, h2⟩ := hw rfl c hc
      simp [Delimiter.opensString, h1, h2]

theorem row_of_ofSource_condition :
    ofSource "\x7b% if a == '%\x7d' %\x7d" = .ok [⟨.tag, "if a == '%\x7d'", 1⟩] ∧
      ((∃ ls, row ⟨.tag, "if a == '%\x7d'", 1⟩ = .ok ls) ∨
        ∃ c, c ≠ '\'' ∧ c ≠ '"' ∧ row ⟨.tag, "if a == '%\x7d'", 1⟩ =
          .error (.malformed (.strayCharacter c) (some 1))) := by
  have hs : ofSource "\x7b% if a == '%\x7d' %\x7d" = .ok [⟨.tag, "if a == '%\x7d'", 1⟩] := by
    decide +kernel
  have hw : (Text.cutWord "if a == '%\x7d'".toList).1 = ['i', 'f'] := by decide
  refine ⟨hs, row_of_ofSource hs List.mem_cons_self fun _ => ?_⟩
  rw [hw]
  simp

example : row ⟨.tag, "a' '", 1⟩ = .error (.malformed (.strayCharacter '\'') (some 1)) := by
  decide +kernel

end Token

end Stencil
