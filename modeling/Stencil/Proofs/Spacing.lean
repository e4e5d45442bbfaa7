import Stencil.Proofs.Numerals
import Stencil.Proofs.Quotation

/-! White space separates lexemes, and means nothing around them. -/

namespace Stencil

namespace Text

/-- The text is empty or begins with white space. -/
def Gap (cs : List Char) : Prop :=
  ∀ c, cs.head? = some c → isBlank c

def IsSpace (cs : List Char) : Prop :=
  ∀ c ∈ cs, isBlank c

variable {u v : List Char}

lemma isSpace_nil : IsSpace [] :=
  List.forall_mem_nil _

lemma IsSpace.gap (h : IsSpace v) : Gap v :=
  fun c hc => h c (List.mem_of_mem_head? hc)

lemma gap_cons {c : Char} (cs : List Char) (hc : isBlank c) : Gap (c :: cs) := by
  rintro _ h
  cases h
  exact hc

lemma not_of_isBlank {p : Char → Bool} {c : Char} (hp : (blanks.all fun c => !p c) = true)
    (hc : isBlank c) : p c = false := by
  have h := List.all_eq_true.1 hp c (List.contains_iff_mem.1 hc)
  simpa using h

lemma takeWhile_gap {p : Char → Bool} (hp : (blanks.all fun c => !p c) = true) (hv : Gap v)
    (cs : List Char) :
    (cs ++ v).takeWhile p = cs.takeWhile p ∧ (cs ++ v).dropWhile p = cs.dropWhile p ++ v := by
  induction cs with
  | nil =>
    cases v with
    | nil => exact ⟨rfl, rfl⟩
    | cons c v =>
      have hc := not_of_isBlank hp (hv c rfl)
      simp [hc]
  | cons c cs ih =>
    by_cases hc : p c
    · simpa [hc] using ih
    · simp [hc]

lemma trim_space (hu : IsSpace u) (hv : IsSpace v) (cs : List Char) :
    trim (u ++ cs ++ v) = trim cs := by
  obtain ⟨u', v', hcs, hu', hv', hh, hl⟩ := trimmed_trim cs
  have hu : ∀ c ∈ u ++ u', isBlank c := List.forall_mem_append.2 ⟨hu, hu'⟩
  have hv : ∀ c ∈ v' ++ v, isBlank c := List.forall_mem_append.2 ⟨hv', hv⟩
  conv_lhs => rw [hcs]
  have ht := trim_append hu hv hh hl
  simpa only [List.append_assoc] using ht

lemma cutWord_append {word cs : List Char} (hw : ∀ c ∈ word, ¬ isBlank c) (hn : word ≠ [])
    (hu : IsSpace u) (hg : Gap (u ++ cs)) (hh : ∀ c, cs.head? = some c → ¬ isBlank c) :
    cutWord (word ++ (u ++ cs)) = (word, cs) := by
  obtain ⟨c, w, rfl⟩ := List.exists_cons_of_ne_nil hn
  have hl : trimLeft (c :: w ++ (u ++ cs)) = c :: w ++ (u ++ cs) :=
    List.dropWhile_cons_of_neg (hw c List.mem_cons_self)
  have hall : ∀ a ∈ c :: w, (!isBlank a) = true := by simpa using hw
  have hspan : (u ++ cs).takeWhile (fun a => !isBlank a) = [] ∧
      (u ++ cs).dropWhile (fun a => !isBlank a) = u ++ cs := by
    cases he : u ++ cs with
    | nil => exact ⟨rfl, rfl⟩
    | cons a as =>
      have ha : isBlank a := hg a (by rw [he]; rfl)
      simp [ha]
  have hr : trimLeft (u ++ cs) = cs := by
    rw [trimLeft, List.dropWhile_append_of_pos hu]
    cases cs with
    | nil => rfl
    | cons a as => exact List.dropWhile_cons_of_neg (hh a rfl)
  simp only [cutWord, hl, List.takeWhile_append_of_pos hall, List.dropWhile_append_of_pos hall,
    hspan, hr, List.append_nil]

lemma cutWord_trim {word cs : List Char} (hw : ∀ c ∈ word, ¬ isBlank c) (hn : word ≠ [])
    (hg : Gap cs) : cutWord (trim (word ++ cs)) = (word, trim cs) := by
  obtain ⟨u, v, hcs, hu, hv, hh, hl⟩ := trimmed_trim cs
  have hhead : ∀ c, word.head? = some c → ¬ isBlank c := fun c hc => hw c (List.mem_of_mem_head? hc)
  by_cases ht : trim cs = []
  · have hlast : ∀ c, word.getLast? = some c → ¬ isBlank c :=
      fun c hc => hw c (List.mem_of_getLast? hc)
    have hs : IsSpace cs := by
      rw [hcs, ht, List.append_nil]
      exact List.forall_mem_append.2 ⟨hu, hv⟩
    have hword := trim_append isSpace_nil hs hhead hlast
    rw [List.nil_append] at hword
    have hc : cutWord (word ++ ([] ++ [])) = (word, []) := cutWord_append hw hn nofun nofun nofun
    rw [List.append_nil, List.append_nil] at hc
    rw [hword, ht, hc]
  · have hlast : ∀ c, (word ++ (u ++ trim cs)).getLast? = some c → ¬ isBlank c := by
      intro c hc
      rw [List.getLast?_append_of_ne_nil _ (by simp [ht]),
        List.getLast?_append_of_ne_nil _ ht] at hc
      exact hl c hc
    have hgap : Gap (u ++ trim cs) := by
      intro c hc
      apply hg
      rw [hcs, List.head?_append, hc]
      rfl
    have hfirst : ∀ c, (word ++ (u ++ trim cs)).head? = some c → ¬ isBlank c := by
      intro c hc
      rw [List.head?_append_of_ne_nil _ hn] at hc
      exact hhead c hc
    have hword := trim_append isSpace_nil hv hfirst hlast
    have he : [] ++ (word ++ (u ++ trim cs)) ++ v = word ++ cs := by
      rw [List.nil_append, List.append_assoc, ← hcs]
    rw [← he, hword]
    exact cutWord_append hw hn hu hgap hh

end Text

open Text

def Keeps {α : Type} (v : List Char) (f : List Char → Option (α × List Char)) (cs : List Char) :
    Prop :=
  f (cs ++ v) = (f cs).map fun r => (r.1, r.2 ++ v)

variable {v : List Char}

lemma keeps_nil {α : Type} (f : List Char → Option (α × List Char)) (cs : List Char) :
    Keeps [] f cs := by
  rw [Keeps, List.append_nil]
  cases f cs <;> simp

lemma cutDigits?_keeps (hv : Gap v) (cs : List Char) : Keeps v cutDigits? cs := by
  obtain ⟨ht, hd⟩ := takeWhile_gap (by decide : (blanks.all fun c => !isDigit c) = true) hv cs
  rw [Keeps]
  simp only [cutDigits?, ht, hd]
  split <;> rfl

namespace Numeral

lemma cutUnsigned?_keeps (hv : Gap v) (negative : Bool) (cs : List Char) :
    Keeps v (cutUnsigned? negative) cs := by
  have hw : cutDigits? (cs ++ v) = _ := cutDigits?_keeps hv cs
  rw [Keeps, cutUnsigned?, hw, cutUnsigned?]
  cases cutDigits? cs with
  | none => rfl
  | some r =>
    obtain ⟨whole, rest⟩ := r
    rcases rest with _ | ⟨c, rest⟩
    · cases v with
      | nil => rfl
      | cons b v =>
        have hb : b ≠ '.' := by
          rintro rfl
          exact absurd (hv _ rfl) (by decide)
        simp [hb]
    · by_cases hc : c = '.'
      · subst hc
        have hf : cutDigits? (rest ++ v) = _ := cutDigits?_keeps hv rest
        simp only [Option.map_some, List.cons_append, hf]
        cases cutDigits? rest <;> rfl
      · simp [hc]

lemma cut?_keeps (hv : Gap v) (c : Char) (cs : List Char) : Keeps v cut? (c :: cs) := by
  by_cases hc : c = '-'
  · subst hc
    exact cutUnsigned?_keeps hv true cs
  · have he : ∀ ds, cut? (c :: ds) = cutUnsigned? false (c :: ds) := by
      intro ds
      rw [cut?]
      rintro _ h
      exact hc (List.cons.inj h).1
    rw [Keeps, List.cons_append, he, he]
    exact cutUnsigned?_keeps hv false (c :: cs)

end Numeral

namespace Lexeme

lemma cutString?_body {q : Char} {cs body rest : List Char}
    (h : cutString? q cs = some (body, rest)) (v : List Char) :
    cutString? q (body ++ q :: v) = some (body, v) := by
  fun_induction cutString? q cs generalizing body rest with
  | case1 => cases h
  | case2 cs =>
    cases h
    rw [List.nil_append, cutString?.eq_def]
    exact if_pos rfl
  | case3 => cases h
  | case4 e cs hq ih =>
    obtain ⟨⟨b, r⟩, hr, he⟩ := Option.map_eq_some_iff.1 h
    cases he
    rw [List.cons_append, List.cons_append, cutString?, if_neg hq, if_pos rfl, ih hr]
    rfl
  | case5 c cs hq hb ih =>
    obtain ⟨⟨b, r⟩, hr, he⟩ := Option.map_eq_some_iff.1 h
    cases he
    rw [List.cons_append, cutString?.eq_def]
    simp [hq, hb, ih hr]

lemma cutString?_append {q : Char} {cs body rest : List Char}
    (h : cutString? q cs = some (body, rest)) (v : List Char) :
    cutString? q (cs ++ v) = some (body, rest ++ v) := by
  rw [eq_of_cutString? h, List.append_assoc, List.cons_append]
  exact cutString?_body h (rest ++ v)

lemma cutString?_space {q : Char} (hq : isBlank q = false) (hv : IsSpace v) :
    cutString? q v = none := by
  induction v with
  | nil => rfl
  | cons c v ih =>
    obtain ⟨hc, hv⟩ := List.forall_mem_cons.1 hv
    have hn : c ≠ q := by
      rintro rfl
      cases hc.symm.trans hq
    have hb : c ≠ '\\' := by
      rintro rfl
      exact absurd hc (by decide)
    rw [cutString?.eq_def]
    simp [hn, hb, ih hv]

lemma cutString?_keeps {q : Char} (hq : isBlank q = false) (hv : IsSpace v) (cs : List Char) :
    Keeps v (cutString? q) cs := by
  cases h : cutString? q cs with
  | some r =>
    rw [Keeps, h]
    exact cutString?_append h v
  | none =>
    rw [Keeps, h]
    fun_induction cutString? q cs with
    | case1 => exact cutString?_space hq hv
    | case2 => cases h
    | case3 hs =>
      cases v with
      | nil =>
        rw [List.append_nil, cutString?, if_neg hs, if_pos rfl]
        rfl
      | cons c v =>
        rw [List.cons_append, List.nil_append, cutString?, if_neg hs, if_pos rfl,
          cutString?_space hq (List.forall_mem_cons.1 hv).2]
        rfl
    | case4 e cs hs ih =>
      rw [List.cons_append, List.cons_append, cutString?, if_neg hs, if_pos rfl,
        ih (Option.map_eq_none_iff.1 h)]
      rfl
    | case5 c cs hs hb ih =>
      rw [List.cons_append, cutString?.eq_def]
      simp [hs, hb, ih (Option.map_eq_none_iff.1 h)]

lemma cutComparison?_eq_none {c : Char} (cs : List Char) (hc : c ∉ ['=', '!', '>', '<']) :
    cutComparison? (c :: cs) = none := by
  simp only [List.mem_cons, List.not_mem_nil, or_false, not_or] at hc
  unfold cutComparison?
  split <;> simp_all

lemma cutComparison?_keeps (hv : Gap v) (c : Char) (cs : List Char) :
    Keeps v cutComparison? (c :: cs) := by
  by_cases hc : c ∈ ['=', '!', '>', '<']
  · simp only [List.mem_cons, List.not_mem_nil, or_false] at hc
    rcases cs with _ | ⟨d, cs⟩
    · rcases v with _ | ⟨b, v⟩
      · exact keeps_nil _ _
      · have hb : b ≠ '=' := by
          rintro rfl
          exact absurd (hv _ rfl) (by decide)
        rcases hc with rfl | rfl | rfl | rfl <;> simp [Keeps, cutComparison?, hb]
    · by_cases hd : d = '='
      · subst hd
        rcases hc with rfl | rfl | rfl | rfl <;> rfl
      · rcases hc with rfl | rfl | rfl | rfl <;> simp [Keeps, cutComparison?, hd]
  · rw [Keeps, List.cons_append, cutComparison?_eq_none _ hc, cutComparison?_eq_none _ hc]
    rfl

lemma cut?_keeps {c : Char} {cs : List Char} (hv : Gap v)
    (hs : c = '\'' ∨ c = '"' → Keeps v (cutString? c) cs) : Keeps v cut? (c :: cs) := by
  have hn : Numeral.cut? (c :: cs ++ v) = _ := Numeral.cut?_keeps hv c cs
  have ho : cutComparison? (c :: cs ++ v) = _ := cutComparison?_keeps hv c cs
  obtain ⟨ht, hd⟩ := takeWhile_gap (by decide : (blanks.all fun c => !continuesName c) = true) hv cs
  rw [Keeps]
  rw [cut?.eq_def, hn, cut?.eq_def (c :: cs)]
  cases Numeral.cut? (c :: cs) with
  | some r => rfl
  | none =>
    simp only [Option.map_none, List.cons_append]
    split
    · rename_i hq
      have hs : cutString? c (cs ++ v) = _ := hs hq
      rw [hs, Option.map_map, Option.map_map]
      rfl
    · rw [← List.cons_append, ho]
      cases cutComparison? (c :: cs) with
      | some r => rfl
      | none =>
        simp only [Option.map_none]
        rw [ht, hd]
        split
        · rfl
        · split <;> rfl

lemma not_isBlank_of_mark {q : Char} (hq : q = '\'' ∨ q = '"') : isBlank q = false := by
  rcases hq with rfl | rfl <;> decide

lemma scanChars_blank {c : Char} (hc : isBlank c) (cs : List Char) :
    scanChars (c :: cs) = scanChars cs := by
  rw [scanChars, if_pos hc]

lemma scanChars_space {u : List Char} (hu : IsSpace u) (cs : List Char) :
    scanChars (u ++ cs) = scanChars cs := by
  induction u with
  | nil => rfl
  | cons c u ih =>
    obtain ⟨hc, hu⟩ := List.forall_mem_cons.1 hu
    rw [List.cons_append, scanChars_blank hc, ih hu]

lemma scanChars_of_cut?_eq_none {c : Char} {cs : List Char} (hc : isBlank c = false)
    (h : cut? (c :: cs) = none) : scanChars (c :: cs) = .error c := by
  rw [scanChars, if_neg (by simp [hc])]
  split
  · rfl
  · rename_i hs
    cases h.symm.trans hs

lemma scanChars_append_space (hv : IsSpace v) (cs : List Char) :
    scanChars (cs ++ v) = scanChars cs := by
  have hk : ∀ c cs, Keeps v cut? (c :: cs) := fun c cs =>
    cut?_keeps hv.gap fun hq => cutString?_keeps (not_isBlank_of_mark hq) hv cs
  fun_induction scanChars cs with
  | case1 =>
    have hs := scanChars_space hv []
    rwa [List.append_nil, scanChars] at hs
  | case2 c cs hc ih => rw [List.cons_append, scanChars_blank hc, ih]
  | case3 c cs hc hn =>
    have hs : cut? (c :: (cs ++ v)) = _ := hk c cs
    rw [hn] at hs
    exact scanChars_of_cut?_eq_none (by simpa using hc) hs
  | case4 c cs hc l rest hl _ ih =>
    have hs : cut? (c :: (cs ++ v)) = _ := hk c cs
    rw [hl] at hs
    rw [List.cons_append, scanChars_of_cut? (by simpa using hc) hs, ih]

lemma scanChars_append {cs : List Char} {ls : List Lexeme} (h : scanChars cs = .ok ls)
    (hv : Gap v) : scanChars (cs ++ v) = (scanChars v).map (ls ++ ·) := by
  fun_induction scanChars cs generalizing ls with
  | case1 =>
    cases h
    rw [List.nil_append]
    cases scanChars v <;> rfl
  | case2 c cs hc ih => rw [List.cons_append, scanChars_blank hc, ih h]
  | case3 => cases h
  | case4 c cs hc l rest hl _ ih =>
    obtain ⟨ms, hms, rfl⟩ := Outcome.map_eq_ok.1 h
    have hk : c = '\'' ∨ c = '"' → Keeps v (cutString? c) cs := by
      intro hq
      rw [cut?_mark hq] at hl
      obtain ⟨r, hr, -⟩ := Option.map_eq_some_iff.1 hl
      rw [Keeps, hr]
      exact cutString?_append hr v
    have hs : cut? (c :: (cs ++ v)) = _ := cut?_keeps hv hk
    rw [hl] at hs
    rw [List.cons_append, scanChars_of_cut? (by simpa using hc) hs, ih hms]
    cases scanChars v <;> rfl

lemma scanChars_trim (cs : List Char) : scanChars (trim cs) = scanChars cs := by
  obtain ⟨u, v, hcs, hu, hv, -⟩ := trimmed_trim cs
  conv_rhs => rw [hcs, List.append_assoc, scanChars_space hu, scanChars_append_space hv]

def IsName (s : String) : Prop :=
  ∃ c cs, s.toList = c :: cs ∧ beginsName c ∧ ∀ d ∈ cs, continuesName d

lemma isDigit_of_beginsName {c : Char} (h : beginsName c) : isDigit c = false := by
  have hz : ∀ z ∈ zeros, z = 0x30 ∨ 0x660 ≤ z := by decide
  have hc : 0x3a ≤ c.toNat ∧ c.toNat < 0x660 := by
    rw [beginsName] at h
    delta Char.isAlpha Char.isUpper Char.isLower at h
    simp only [Bool.or_eq_true, Bool.and_eq_true, decide_eq_true_eq, beq_iff_eq, ge_iff_le,
      UInt32.le_iff_toNat_le] at h
    rcases h with (⟨hl, hr⟩ | ⟨hl, hr⟩) | rfl
    · exact ⟨Nat.le_trans (by decide) hl, Nat.lt_of_le_of_lt hr (by decide)⟩
    · exact ⟨Nat.le_trans (by decide) hl, Nat.lt_of_le_of_lt hr (by decide)⟩
    · decide
  rw [isDigit, digit?, Option.isSome_eq_false_iff, Option.isNone_iff_eq_none,
    List.findSome?_eq_none_iff]
  intro z hm
  rw [if_neg]
  rcases hz z hm with rfl | hz <;> omega

lemma ne_of_beginsName {c m : Char} (h : beginsName c) (hm : beginsName m = false) : c ≠ m := by
  rintro rfl
  cases h.symm.trans hm

def EndsName (cs : List Char) : Prop :=
  ∀ c, cs.head? = some c → continuesName c = false

lemma cut?_name {c : Char} {cs rest : List Char} (hc : beginsName c)
    (hcs : ∀ d ∈ cs, continuesName d) (hr : EndsName rest) :
    cut? (c :: (cs ++ rest)) = some (.name (String.ofList (c :: cs)), rest) := by
  have hn := numeralCut?_eq_none (cs ++ rest) (ne_of_beginsName hc (by decide))
    (isDigit_of_beginsName hc)
  have hq : ¬ (c = '\'' ∨ c = '"') :=
    not_or.2 ⟨ne_of_beginsName hc (by decide), ne_of_beginsName hc (by decide)⟩
  have ho : c ∉ ['=', '!', '>', '<'] := by
    intro hm
    have hf : (['=', '!', '>', '<'].all fun m => !beginsName m) = true := by decide
    have hn := List.all_eq_true.1 hf c hm
    simp [hc] at hn
  obtain ⟨ht, hd⟩ := span_append hcs hr
  rw [cut?, hn]
  simp only [if_neg hq, cutComparison?_eq_none (cs ++ rest) ho, hc, if_true]
  rw [ht, hd]

lemma IsName.not_isBlank {s : String} (hs : IsName s) : ∀ c ∈ s.toList, ¬ isBlank c := by
  obtain ⟨c, cs, he, hc, hcs⟩ := hs
  have hn : ∀ d, continuesName d → ¬ isBlank d := by
    intro d hd hb
    cases hd.symm.trans (not_of_isBlank (by decide) hb)
  rw [he]
  exact List.forall_mem_cons.2 ⟨hn c (continuesName_of_beginsName hc), fun d hd => hn d (hcs d hd)⟩

lemma IsName.toList_ne_nil {s : String} (hs : IsName s) : s.toList ≠ [] := by
  obtain ⟨c, cs, he, -⟩ := hs
  rw [he]
  exact List.cons_ne_nil c cs

lemma scanChars_name_append {s : String} {rest : List Char} (hs : IsName s) (hr : EndsName rest) :
    scanChars (s.toList ++ rest) = (scanChars rest).map (.name s :: ·) := by
  have hb := hs.not_isBlank
  obtain ⟨c, cs, he, hc, hcs⟩ := hs
  rw [he] at hb
  have hn : isBlank c = false := by simpa using hb c List.mem_cons_self
  rw [he, List.cons_append, scanChars_of_cut? hn (cut?_name hc hcs hr), ← he, String.ofList_toList]

lemma scanChars_name {s : String} (hs : IsName s) : scanChars s.toList = .ok [.name s] := by
  have h := scanChars_name_append hs (nofun : EndsName [])
  rwa [List.append_nil, scanChars] at h

section

variable {cs : List Char} {ls : List Lexeme}

def chars (ls : List Lexeme) : List Char :=
  ls.flatMap fun l => l.text.toList

@[simp] lemma chars_nil : chars [] = [] := rfl

@[simp] lemma chars_cons (l : Lexeme) (ls : List Lexeme) :
    chars (l :: ls) = l.text.toList ++ chars ls := rfl

@[simp] lemma chars_append (ls ms : List Lexeme) : chars (ls ++ ms) = chars ls ++ chars ms :=
  List.flatMap_append

def Formed : Lexeme → Prop
  | .number n => n.whole ≠ []
  | .name s => IsName s
  | _ => True

lemma formed_of_cut? {rest : List Char} {l : Lexeme} (h : cut? cs = some (l, rest)) : l.Formed := by
  unfold cut? at h
  split at h
  · rename_i hn
    cases h
    exact (Numeral.eq_of_cut? hn).2
  split at h
  · cases h
  rename_i c r _
  split at h
  · obtain ⟨_, -, he⟩ := Option.map_eq_some_iff.1 h
    cases he
    trivial
  split at h
  · cases h
    trivial
  split at h
  · rename_i hb
    cases h
    exact ⟨c, r.takeWhile continuesName, String.toList_ofList, hb, fun d hd =>
      List.mem_takeWhile_imp hd⟩
  split at h
  · cases h
    trivial
  · cases h

lemma scanChars_spec (h : scanChars cs = .ok ls) :
    (chars ls).Sublist cs ∧ ∀ l ∈ ls, l.Formed := by
  fun_induction scanChars cs generalizing ls with
  | case1 =>
    cases h
    exact ⟨.slnil, List.forall_mem_nil _⟩
  | case2 c cs hc ih =>
    obtain ⟨hs, hf⟩ := ih h
    exact ⟨hs.cons c, hf⟩
  | case3 => cases h
  | case4 c cs hc l rest hcut _ ih =>
    obtain ⟨ms, hms, rfl⟩ := Outcome.map_eq_ok.1 h
    obtain ⟨hs, hf⟩ := ih hms
    refine ⟨?_, List.forall_mem_cons.2 ⟨formed_of_cut? hcut, hf⟩⟩
    rw [eq_of_cut? hcut]
    exact hs.append_left _

end

end Lexeme

end Stencil
