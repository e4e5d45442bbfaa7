import Stencil.Proofs.Locality
import Stencil.Proofs.Written

/-! A text is its lexemes with white space between them, and as long as there is some between any two
of them, the lexemes stay the same whatever it is. -/

namespace Stencil

open Text

namespace Numeral

structure Digital (n : Numeral) : Prop where
  whole : n.whole ≠ [] ∧ ∀ c ∈ n.whole, isDigit c
  fraction : ∀ ds, n.fraction = some ds → ds ≠ [] ∧ ∀ c ∈ ds, isDigit c

def Ends (cs : List Char) : Prop :=
  ∀ c, cs.head? = some c → c ≠ '.' ∧ isDigit c = false

lemma cutDigits?_spec {cs ds rest : List Char} (h : cutDigits? cs = some (ds, rest)) :
    ds ≠ [] ∧ ∀ c ∈ ds, isDigit c :=
  ⟨(eq_of_cutDigits? h).2, Lexeme.isDigit_of_cutDigits? h⟩

lemma cutDigits?_append {ds cs : List Char} (hd : ds ≠ [] ∧ ∀ c ∈ ds, isDigit c)
    (hc : ∀ c, cs.head? = some c → isDigit c = false) : cutDigits? (ds ++ cs) = some (ds, cs) := by
  obtain ⟨ht, hr⟩ := span_append hd.2 hc
  rw [cutDigits?, ht, hr, if_neg (by simpa using hd.1)]

lemma digital_of_cutUnsigned? {negative : Bool} {cs rest : List Char} {n : Numeral}
    (h : cutUnsigned? negative cs = some (n, rest)) : n.Digital := by
  unfold cutUnsigned? at h
  split at h
  · cases h
  · rename_i hw
    split at h
    · rename_i hf
      cases h
      exact ⟨cutDigits?_spec hw, fun ds hds => Option.some.inj hds ▸ cutDigits?_spec hf⟩
    · cases h
      exact ⟨cutDigits?_spec hw, nofun⟩
  · rename_i hw
    cases h
    exact ⟨cutDigits?_spec hw, nofun⟩

lemma digital_of_cut? {cs rest : List Char} {n : Numeral} (h : cut? cs = some (n, rest)) :
    n.Digital := by
  unfold cut? at h
  split at h
  · exact digital_of_cutUnsigned? h
  · exact digital_of_cutUnsigned? h

section

variable {cs whole ds : List Char} (hc : Ends cs) (hw : whole ≠ [] ∧ ∀ c ∈ whole, isDigit c)

include hc hw

lemma cutUnsigned?_whole (negative : Bool) :
    cutUnsigned? negative (whole ++ cs) = some (⟨negative, whole, none⟩, cs) := by
  rw [cutUnsigned?, cutDigits?_append hw fun c h => (hc c h).2]
  cases cs with
  | nil => rfl
  | cons c cs => simp [(hc c rfl).1]

lemma cutUnsigned?_fraction (negative : Bool) (hd : ds ≠ [] ∧ ∀ c ∈ ds, isDigit c) :
    cutUnsigned? negative (whole ++ '.' :: (ds ++ cs)) =
      some (⟨negative, whole, some ds⟩, cs) := by
  have hpoint : ∀ c, ('.' :: (ds ++ cs)).head? = some c → isDigit c = false := by
    rintro _ h
    cases h
    decide
  rw [cutUnsigned?, cutDigits?_append hw hpoint]
  simp only [cutDigits?_append hd fun c h => (hc c h).2]

end

lemma cut?_text {n : Numeral} (hn : n.Digital) {cs : List Char} (hc : Ends cs) :
    cut? (n.text ++ cs) = some (n, cs) := by
  have hu : ∃ ds, n.text = (if n.negative then ['-'] else []) ++ n.whole ++ ds ∧
      cutUnsigned? n.negative (n.whole ++ (ds ++ cs)) = some (n, cs) := by
    rcases n with ⟨negative, whole, _ | ds⟩
    · exact ⟨[], rfl, cutUnsigned?_whole hc hn.whole negative⟩
    · exact ⟨'.' :: ds, rfl, cutUnsigned?_fraction hc hn.whole negative (hn.fraction ds rfl)⟩
  obtain ⟨ds, ht, hu⟩ := hu
  rw [ht, List.append_assoc, List.append_assoc]
  cases hs : n.negative with
  | true =>
    rw [hs] at hu
    exact hu
  | false =>
    obtain ⟨d, es, hd⟩ := List.exists_cons_of_ne_nil hn.whole.1
    have hm : d ≠ '-' := by
      rintro rfl
      exact absurd (hn.whole.2 '-' (by simp [hd])) (by decide)
    rw [hs, hd] at hu
    simpa [cut?, hd, hm] using hu

end Numeral

namespace Lexeme

lemma cut?_text {cs rest : List Char} {l : Lexeme} (h : cut? cs = some (l, rest)) :
    cut? l.text.toList = some (l, []) := by
  unfold cut? at h
  split at h
  · rename_i hn
    cases h
    have ht := Numeral.cut?_text (Numeral.digital_of_cut? hn) (nofun : Numeral.Ends [])
    rw [List.append_nil] at ht
    rw [text, String.toList_ofList, cut?.eq_def, ht]
  split at h
  · cases h
  rename_i c r _
  split at h
  · rename_i hq
    obtain ⟨⟨body, r'⟩, hr, he⟩ := Option.map_eq_some_iff.1 h
    cases he
    rw [text, String.toList_ofList, List.cons_append, cut?_mark hq, cutString?_body hr]
    rfl
  split at h
  · rename_i o _ _
    cases h
    cases o <;> decide
  split at h
  · rename_i hb
    cases h
    have hcs : ∀ d ∈ r.takeWhile continuesName, continuesName d := fun d hd =>
      List.mem_takeWhile_imp hd
    have ht := cut?_name hb hcs (nofun : EndsName [])
    rw [List.append_nil] at ht
    rw [text, String.toList_ofList, ht]
  split at h
  · rename_i hp
    cases h
    simp only [isPunct, List.contains_iff_mem, List.mem_cons, List.not_mem_nil, or_false] at hp
    rcases hp with rfl | rfl | rfl | rfl | rfl | rfl | rfl | rfl <;> decide
  · cases h

lemma scanChars_text {c : Char} {cs rest : List Char} {l : Lexeme} (hc : isBlank c = false)
    (h : cut? (c :: cs) = some (l, rest)) : scanChars l.text.toList = .ok [l] := by
  have ht := cut?_text h
  obtain ⟨d, ds, hd⟩ := List.exists_cons_of_ne_nil (text_ne_nil_of_cut? h)
  have he := eq_of_cut? h
  rw [hd] at ht he ⊢
  obtain rfl : c = d := (List.cons.inj he).1
  rw [scanChars_of_cut? hc ht, scanChars]
  rfl

/-- The lexemes in their order, with white space before, between and after them, where what follows
each of them has the property `p`. -/
inductive Spread (p : List Char → Prop) : List Lexeme → List Char → Prop
  | nil {v} : IsSpace v → Spread p [] v
  | cons {u l ls cs} : IsSpace u → p cs → Spread p ls cs →
      Spread p (l :: ls) (u ++ (l.text.toList ++ cs))

variable {p : List Char → Prop} {ls : List Lexeme} {cs : List Char}

lemma Spread.space {u : List Char} (hu : IsSpace u) (h : Spread p ls cs) :
    Spread p ls (u ++ cs) := by
  cases h with
  | nil hv => exact .nil (List.forall_mem_append.2 ⟨hu, hv⟩)
  | cons hv hp h =>
    rw [← List.append_assoc]
    exact .cons (List.forall_mem_append.2 ⟨hu, hv⟩) hp h

lemma spread_of_scanChars (h : scanChars cs = .ok ls) :
    Spread (fun _ => True) ls cs ∧ ∀ l ∈ ls, scanChars l.text.toList = .ok [l] := by
  fun_induction scanChars cs generalizing ls with
  | case1 =>
    cases h
    exact ⟨.nil isSpace_nil, List.forall_mem_nil _⟩
  | case2 c cs hc ih =>
    obtain ⟨hs, hl⟩ := ih h
    exact ⟨hs.space (u := [c]) (by simpa [IsSpace] using hc), hl⟩
  | case3 => cases h
  | case4 c cs hc l rest hcut _ ih =>
    obtain ⟨ms, hms, rfl⟩ := Outcome.map_eq_ok.1 h
    obtain ⟨hs, hl⟩ := ih hms
    refine ⟨?_, List.forall_mem_cons.2 ⟨scanChars_text (by simpa using hc) hcut, hl⟩⟩
    rw [eq_of_cut? hcut]
    exact .cons isSpace_nil trivial hs

lemma scanChars_spread (hl : ∀ l ∈ ls, scanChars l.text.toList = .ok [l]) (h : Spread Gap ls cs) :
    scanChars cs = .ok ls := by
  induction h with
  | nil hv =>
    have hs := scanChars_space hv []
    rwa [List.append_nil, scanChars] at hs
  | cons hu hgap _ ih =>
    obtain ⟨hl, hls⟩ := List.forall_mem_cons.1 hl
    rw [scanChars_space hu, scanChars_append hl hgap, ih hls]
    rfl

lemma spread_intercalate {w : List Char} (hw : IsSpace w) (hn : w ≠ []) (ls : List Lexeme) :
    Spread Gap ls (w.intercalate (ls.map fun l => l.text.toList)) := by
  induction ls with
  | nil => exact .nil isSpace_nil
  | cons l ls ih =>
    cases ls with
    | nil =>
      have h : Spread Gap [l] ([] ++ (l.text.toList ++ [])) :=
        .cons isSpace_nil isSpace_nil.gap (.nil isSpace_nil)
      simpa using h
    | cons m ls =>
      have hgap : Gap (w ++ w.intercalate ((m :: ls).map fun l => l.text.toList)) := by
        obtain ⟨c, cs, rfl⟩ := List.exists_cons_of_ne_nil hn
        exact gap_cons _ (hw c List.mem_cons_self)
      rw [List.map_cons, List.map_cons, List.intercalate_cons_cons, List.append_assoc]
      exact .cons isSpace_nil hgap (ih.space hw)

end Lexeme

def Reader.answers (line : Option Int) :
    List Reader → List Lexeme → List (Except ReadError Reader.Found)
  | [], _ => []
  | r :: rs, ls => (r.read line ls).outcome :: answers line rs (r.read line ls).rest

namespace Lexeme

theorem scan_respaced (line : Option Int) {source : String} {ls : List Lexeme}
    (h : scan line source = .ok ls) :
    Spread (fun _ => True) ls source.toList ∧ (∀ l ∈ ls, l.text ≠ "") ∧
      (∀ t : String, Spread Gap ls t.toList → scan line t = .ok ls ∧
        ∀ rs, (scan line t).map (Reader.answers line rs) =
          (scan line source).map (Reader.answers line rs)) ∧
      ∀ w : String, w ≠ "" → IsSpace w.toList →
        Spread Gap ls (w.intercalate (ls.map text)).toList := by
  obtain ⟨hs, hl⟩ := spread_of_scanChars (scan_eq_ok.1 h)
  refine ⟨hs, fun l hm he => ?_, fun t ht => ?_, fun w hn hw => ?_⟩
  · have hempty := hl l hm
    rw [he, String.toList_empty, scanChars] at hempty
    cases hempty
  · have hscan : scan line t = .ok ls := scan_eq_ok.2 (scanChars_spread hl ht)
    exact ⟨hscan, fun rs => by rw [hscan, h]⟩
  · rw [String.toList_intercalate, List.map_map]
    exact spread_intercalate hw (fun he => hn (String.toList_eq_nil_iff.1 he)) ls

theorem scan_respaced_equals :
    let source := "x[-01.5]==='a b'"
    let ls : List Lexeme := [.name "x", .punct '[', .number ⟨true, ['0', '1'], some ['5']⟩,
      .punct ']', .op .eq, .punct '=', .quoted '\'' ['a', ' ', 'b']]
    scan none source = .ok ls ∧ scan none "x [ -01.5 ] == = 'a b'" = .ok ls := by
  intro source ls
  have h : scan none source = .ok ls := by decide +kernel
  obtain ⟨-, -, hscan, hjoin⟩ := scan_respaced none h
  have hspace : IsSpace " ".toList := List.all_eq_true.1 (by decide)
  have hj : Spread Gap ls "x [ -01.5 ] == = 'a b'".toList := hjoin " " (by decide) hspace
  exact ⟨h, (hscan _ hj).1⟩

end Lexeme

end Stencil
