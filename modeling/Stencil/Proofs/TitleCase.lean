import Stencil.Filter.Builtin
import Stencil.Proofs.Spacing

/-! Title case is made word by word, from the first word character of each word on. -/

namespace Stencil.Text

lemma not_isWord_of_isBlank {c : Char} (hc : isBlank c) : isWord c = false := by
  -- Bounds compared as numbers are evaluated faster than the test of the class itself.
  have hall : (blanks.all fun c => wordRanges.all fun r =>
      Nat.blt c.toNat r.1 || Nat.blt r.2 c.toNat) = true := by decide +kernel
  rw [← Bool.not_eq_true, isWord, Ranges.contains_iff]
  rintro ⟨r, hr, hlow, hhigh⟩
  have h := List.all_eq_true.1 (List.all_eq_true.1 hall c (List.contains_iff_mem.1 hc)) r hr
  simp only [Bool.or_eq_true, Nat.blt_eq] at h
  omega

lemma title_cons_of_isWord {c : Char} (hc : isWord c) (cs : List Char) :
    title (c :: cs) = upperChar c ++ lower (cs.takeWhile fun d => !isBlank d) ++
      title (cs.dropWhile fun d => !isBlank d) := by
  rw [title, if_pos hc]

lemma title_cons_of_not_isWord {c : Char} (hc : isWord c = false) (cs : List Char) :
    title (c :: cs) = c :: title cs := by
  rw [title, if_neg (by simp [hc])]

lemma title_append_blank {w : Char} (hw : isBlank w) (a b : List Char) :
    title (a ++ w :: b) = title a ++ w :: title b := by
  fun_induction title a with
  | case1 => exact title_cons_of_not_isWord (not_isWord_of_isBlank hw) b
  | case2 c cs hc ih =>
    obtain ⟨ht, hd⟩ := takeWhile_gap (p := fun d => !isBlank d) (by decide) (gap_cons b hw) cs
    rw [List.cons_append, title_cons_of_isWord hc, ht, hd, ih]
    simp only [List.append_assoc]
  | case3 c cs hc ih =>
    rw [List.cons_append, title_cons_of_not_isWord (by simpa using hc), ih, List.cons_append]

lemma title_append_of_not_isWord {a : List Char} (ha : ∀ c ∈ a, ¬ isWord c) (b : List Char) :
    title (a ++ b) = a ++ title b := by
  induction a with
  | nil => rfl
  | cons c cs ih =>
    obtain ⟨hc, hcs⟩ := List.forall_mem_cons.1 ha
    rw [List.cons_append, title_cons_of_not_isWord (by simpa using hc), ih hcs, List.cons_append]

lemma title_of_not_isWord {a : List Char} (ha : ∀ c ∈ a, ¬ isWord c) : title a = a := by
  have h := title_append_of_not_isWord ha []
  rwa [title, List.append_nil] at h

lemma title_word {c : Char} (hc : isWord c) {cs : List Char} (hcs : ∀ d ∈ cs, ¬ isBlank d) :
    title (c :: cs) = upper [c] ++ lower cs := by
  have hall : ∀ d ∈ cs, (!isBlank d) = true := by simpa using hcs
  rw [title_cons_of_isWord hc, List.takeWhile_eq_self_iff.2 hall, List.dropWhile_eq_nil_iff.2 hall,
    title, List.append_nil]
  simp [upper]

/-- White space sets words apart and stays as it is. In a text without it, the first word character
is put in upper case and all that follows it in lower case. -/
theorem title_words :
    (∀ g s, Builtin.title.filter g (.text s) [] = .ofExcept (.ok (.ofString (title s.toList)))) ∧
      (∀ w, isBlank w → ∀ a b, title (a ++ w :: b) = title a ++ w :: title b) ∧
      ∀ cs, (∀ d ∈ cs, ¬ isBlank d) →
        (∀ i c, cs[i]? = some c → isWord c → (∀ d ∈ cs.take i, ¬ isWord d) →
          title cs = cs.take i ++ (upper [c] ++ lower (cs.drop (i + 1)))) ∧
        ((∀ d ∈ cs, ¬ isWord d) → title cs = cs) := by
  refine ⟨fun _ _ => rfl, fun w => title_append_blank, fun cs hcs => ⟨?_, title_of_not_isWord⟩⟩
  intro i c hi hc hbefore
  obtain ⟨hlt, rfl⟩ := List.getElem?_eq_some_iff.1 hi
  have hrest : ∀ d ∈ cs.drop (i + 1), ¬ isBlank d := fun d hd => hcs d (List.mem_of_mem_drop hd)
  rw [← title_word hc hrest, ← title_append_of_not_isWord hbefore, ← List.drop_eq_getElem_cons hlt,
    List.take_append_drop]

theorem title_words_quoted :
    let a := "«ΣΟΦΟΣ»".toList
    let b := "_o'NEIL".toList
    isBlank '\u2003' ∧ title (a ++ '\u2003' :: b) = "«Σοφος»\u2003_o'neil".toList := by
  intro a b
  obtain ⟨-, happend, hword⟩ := title_words
  have hnone : ∀ (p : Char → Bool) (cs : List Char),
      (cs.all fun d => !p d) = true → ∀ d ∈ cs, ¬ p d := by
    intro p cs h
    simpa using h
  have hw : isBlank '\u2003' := by decide
  have ha := (hword a (hnone isBlank a (by decide))).1 1 'Σ' rfl (by decide +kernel)
    (hnone isWord (a.take 1) (by decide +kernel))
  have hb := (hword b (hnone isBlank b (by decide))).1 0 '_' rfl (by decide +kernel) nofun
  refine ⟨hw, ?_⟩
  rw [happend _ hw, ha, hb]
  decide +kernel

end Stencil.Text
