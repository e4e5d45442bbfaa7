import Stencil.Proofs.Rescanning

/-! A path written out, and what is read from its text. -/

namespace Stencil

def Reading.wholePath (line : Option Int) (s : String) : Except ReadError Path := do
  let ls ← Lexeme.scan line s
  complete line (path line ls)

/-- Some text holds the path, wherever in its row of lexemes. -/
def Path.Readable (p : Path) : Prop :=
  ∃ line source before ls rest, Lexeme.scan line source = .ok (before ++ ls) ∧
    Reading.path line ls = Reading.found p rest

namespace Lexeme

variable {cs : List Char} {ls : List Lexeme}

lemma endsName_punct {c : Char} (hc : c = '.' ∨ c = '[' ∨ c = ']') (cs : List Char) :
    EndsName (c :: cs) := by
  rintro _ h
  cases h
  rcases hc with rfl | rfl | rfl <;> decide

lemma scanChars_punct {c : Char} (hc : c = '.' ∨ c = '[' ∨ c = ']')
    (h : scanChars cs = .ok ls) : scanChars (c :: cs) = .ok (.punct c :: ls) := by
  have hb : Text.isBlank c = false := by
    rcases hc with rfl | rfl | rfl <;> decide
  rw [scanChars_of_cut? hb (cut?_punct cs hc), h]
  rfl

end Lexeme

namespace Numeral

lemma ends_bracket (cs : List Char) : Ends (']' :: cs) := by
  rintro _ h
  cases h
  decide

lemma cut?_bracket (negative : Bool) {ds : List Char} (hd : ∀ c ∈ ds, Text.isDigit c)
    (hn : ds ≠ []) (cs : List Char) :
    cut? (text ⟨negative, ds, none⟩ ++ ']' :: cs) = some (⟨negative, ds, none⟩, ']' :: cs) := by
  have hdigital : Digital ⟨negative, ds, none⟩ := ⟨⟨hn, hd⟩, nofun⟩
  exact cut?_text hdigital (ends_bracket cs)

end Numeral

namespace Lexeme

lemma toList_integerText (n : Int) :
    (Number.integerText n).toList = Numeral.text ⟨n < 0, Decimal.digits n.natAbs, none⟩ := by
  simp [Number.integerText, Numeral.text]

lemma scanChars_integerText (n : Int) {cs : List Char} {ls : List Lexeme}
    (h : scanChars (']' :: cs) = .ok ls) :
    scanChars ((Number.integerText n).toList ++ ']' :: cs) =
      .ok (.number ⟨n < 0, Decimal.digits n.natAbs, none⟩ :: ls) := by
  have hd : ∀ c ∈ Decimal.digits n.natAbs, c.isDigit := fun c => Decimal.isDigit_of_mem_digits
  have hn := Numeral.cut?_bracket (n < 0) (fun c hc => Text.isDigit_of_isDigit (hd c hc))
    Decimal.digits_ne_nil cs
  have hb : ∀ c ∈ (Number.integerText n).toList, Text.isBlank c = false := by
    intro c hc
    rw [Number.integerText, String.toList_ofList, List.mem_append] at hc
    rcases hc with hc | hc
    · split at hc
      · rw [List.mem_singleton.1 hc]
        decide
      · cases hc
    · simpa using Text.not_isBlank_of_isDigit (hd c hc)
  rw [← toList_integerText] at hn
  cases he : (Number.integerText n).toList with
  | nil => simp [Number.integerText, Decimal.digits_ne_nil] at he
  | cons c es =>
    rw [he, List.cons_append] at hn
    rw [he] at hb
    rw [List.cons_append, scanChars_of_cut? (hb c List.mem_cons_self) (by rw [cut?, hn]), h]
    rfl

end Lexeme

namespace Grammar

variable {s : Step} {ss : List Step}

def Integer.plain (n : Integer) : Integer where
  negative := n.value < 0
  digits := Decimal.digits n.value.natAbs
  short := by
    have h := n.not_tooLong
    rw [Number.tooLong_iff, Nat.not_le] at h
    exact (Decimal.length_digits_le (k := DigitLimit.most) (by decide)).2 h

lemma Integer.value_plain (n : Integer) : n.plain.value = n.value := by
  rw [value, plain, Text.number_digits]
  by_cases h : n.value < 0
  · simp only [h, decide_true, if_true]
    omega
  · simp only [h, decide_false, Bool.false_eq_true, if_false]
    omega

lemma Integer.text_plain (n : Integer) : n.plain.lexeme.text = Number.integerText n.value := by
  apply String.ext
  rw [Lexeme.toList_integerText]
  exact String.toList_ofList

def Step.plain : Step → Step
  | .property name => .property name
  | .index n => .index n.plain
  | .key _ body => .property (Grammar.key body)

lemma Step.segment_plain (s : Step) : s.plain.segment = s.segment := by
  cases s with
  | property name => rfl
  | index n => exact congrArg Segment.index (ShortInt.ext n.value_plain)
  | key mark body => rfl

lemma Step.text_segment (s : Step) : s.segment.text.toList = Lexeme.chars s.plain.lexemes := by
  cases s with
  | property name => simp [segment, Segment.text, plain, lexemes, Lexeme.text]
  | index n =>
    simp only [segment, Segment.text, plain, lexemes, Lexeme.chars_cons, n.text_plain]
    simp [Lexeme.text]
  | key mark body => simp [segment, Segment.text, plain, lexemes, Lexeme.text]

def Path.plain (t : Path) : Path :=
  ⟨t.head, t.steps.map Step.plain⟩

lemma Path.path_plain (t : Path) : t.plain.path = t.path := by
  simp [plain, path, Step.segment_plain]

lemma Path.toList_text (t : Path) : t.path.text.toList =
    t.head.text.toList ++ t.steps.flatMap fun s => s.segment.text.toList := by
  simp [Stencil.Path.text, path, List.flatMap_map]

def Step.Named (s : Step) : Prop :=
  ∀ n, s.segment = .key n → Lexeme.IsName n

lemma endsName_steps (ss : List Step) :
    Lexeme.EndsName (ss.flatMap fun s => s.segment.text.toList) := by
  cases ss with
  | nil => exact nofun
  | cons s ss =>
    rw [List.flatMap_cons, s.text_segment]
    cases s with
    | property name => exact Lexeme.endsName_punct (.inl rfl) _
    | index n => exact Lexeme.endsName_punct (.inr (.inl rfl)) _
    | key mark body => exact Lexeme.endsName_punct (.inl rfl) _

lemma scanChars_property {n : String} {cs : List Char} {ls : List Lexeme} (hn : Lexeme.IsName n)
    (hc : Lexeme.EndsName cs) (h : Lexeme.scanChars cs = .ok ls) :
    Lexeme.scanChars ('.' :: (n.toList ++ cs)) = .ok (.punct '.' :: .name n :: ls) := by
  apply Lexeme.scanChars_punct (.inl rfl)
  rw [Lexeme.scanChars_name_append hn hc, h]
  rfl

lemma scanChars_step {cs : List Char} {ls : List Lexeme} (hs : s.Named)
    (hc : Lexeme.EndsName cs) (h : Lexeme.scanChars cs = .ok ls) :
    Lexeme.scanChars (s.segment.text.toList ++ cs) = .ok (s.plain.lexemes ++ ls) := by
  cases s with
  | property name =>
    have hn := scanChars_property (hs name rfl) hc h
    simpa [Step.segment, Segment.text, Step.plain, Step.lexemes] using hn
  | key mark body =>
    have hn := scanChars_property (hs (key body) rfl) hc h
    simpa [Step.segment, Segment.text, Step.plain, Step.lexemes] using hn
  | index n =>
    have hb := Lexeme.scanChars_punct (.inr (.inr rfl)) h
    have hn := Lexeme.scanChars_integerText n.value hb
    have hi := Lexeme.scanChars_punct (.inr (.inl rfl)) hn
    simpa [Step.segment, Segment.text, Step.plain, Step.lexemes, Integer.lexeme, Integer.plain]
      using hi

lemma scanChars_steps (hs : ∀ s ∈ ss, s.Named) :
    Lexeme.scanChars (ss.flatMap fun s => s.segment.text.toList) =
      .ok ((ss.map Step.plain).flatMap Step.lexemes) := by
  induction ss with
  | nil => rw [List.flatMap_nil, Lexeme.scanChars, List.map_nil, List.flatMap_nil]
  | cons s ss ih =>
    obtain ⟨hn, hs⟩ := List.forall_mem_cons.1 hs
    rw [List.flatMap_cons, List.map_cons, List.flatMap_cons]
    exact scanChars_step hn (endsName_steps ss) (ih hs)

lemma scanChars_path {t : Path} (hh : Lexeme.IsName t.head.text) (hs : ∀ s ∈ t.steps, s.Named) :
    Lexeme.scanChars t.path.text.toList = .ok t.plain.lexemes := by
  rw [t.toList_text, Lexeme.scanChars_name_append hh (endsName_steps t.steps), scanChars_steps hs]
  rfl

lemma Integer.length_text {n : Integer} (h : n.digits ≠ []) :
    (Number.integerText n.value).toList.length ≤ n.lexeme.text.toList.length := by
  have hd : (Decimal.digits n.value.natAbs).length ≤ n.digits.length := by
    rw [Decimal.length_digits_le (List.length_pos_iff.2 h), n.natAbs_value]
    exact Text.number_lt n.digits
  have hs : n.value < 0 → n.negative := by
    intro hv
    by_contra hn
    rw [value, if_neg hn] at hv
    omega
  rw [Number.integerText, String.toList_ofList, lexeme, Lexeme.text, String.toList_ofList,
    Numeral.text]
  simp only [List.append_nil, List.length_append]
  refine Nat.add_le_add ?_ hd
  split
  · rename_i hv
    rw [if_pos (hs hv)]
  · exact Nat.zero_le _

lemma Step.length_text (hf : ∀ l ∈ s.lexemes, l.Formed) :
    s.segment.text.toList.length ≤ (Lexeme.chars s.lexemes).length ∧
      ((Lexeme.chars s.lexemes).length ≤ s.segment.text.toList.length → s.Named) := by
  cases s with
  | property name =>
    refine ⟨by simp [segment, Segment.text, lexemes, Lexeme.text], fun _ n hn => ?_⟩
    cases hn
    exact hf (.name name) (by simp [lexemes])
  | index n =>
    have hn := Integer.length_text (hf n.lexeme (by simp [lexemes]) : n.digits ≠ [])
    have ht : (segment (.index n)).text.toList.length =
        (Number.integerText n.value).toList.length + 2 := by
      simp [segment, Segment.text]
    have hl : (Lexeme.chars (lexemes (.index n))).length = n.lexeme.text.toList.length + 2 := by
      simp [lexemes, Lexeme.text]
    rw [ht, hl]
    exact ⟨Nat.add_le_add_right hn 2, fun _ _ hk => by cases hk⟩
  | key mark body =>
    have hu := Lexeme.length_unescape body
    have ht : (segment (.key mark body)).text.toList.length = (Lexeme.unescape body).length + 1 := by
      simp [segment, Segment.text, Grammar.key]
    have hl : (Lexeme.chars (lexemes (.key mark body))).length = body.length + 4 := by
      simp [lexemes, Lexeme.text]
    rw [ht, hl]
    exact ⟨by omega, fun h => by omega⟩

lemma length_steps (hf : ∀ l ∈ ss.flatMap Step.lexemes, l.Formed) :
    (ss.flatMap fun s => s.segment.text.toList).length ≤
        (Lexeme.chars (ss.flatMap Step.lexemes)).length ∧
      ((Lexeme.chars (ss.flatMap Step.lexemes)).length ≤
          (ss.flatMap fun s => s.segment.text.toList).length →
        ∀ s ∈ ss, s.Named) := by
  induction ss with
  | nil => exact ⟨Nat.le_refl _, nofun⟩
  | cons s ss ih =>
    rw [List.flatMap_cons] at hf
    obtain ⟨hs, hss⟩ := List.forall_mem_append.1 hf
    obtain ⟨hle, hkey⟩ := Step.length_text hs
    obtain ⟨hles, hkeys⟩ := ih hss
    simp only [List.flatMap_cons, Lexeme.chars_append, List.length_append]
    exact ⟨Nat.add_le_add hle hles, fun h =>
      List.forall_mem_cons.2 ⟨hkey (by omega), hkeys (by omega)⟩⟩

lemma named_of_scanChars {t : Path} (h : Lexeme.scanChars t.path.text.toList = .ok t.lexemes) :
    ∀ s ∈ t.steps, s.Named := by
  obtain ⟨hs, hf⟩ := Lexeme.scanChars_spec h
  have hl := hs.length_le
  have hc : Lexeme.chars t.lexemes =
      t.head.text.toList ++ Lexeme.chars (t.steps.flatMap Step.lexemes) := by
    simp [Path.lexemes, Lexeme.text]
  rw [t.toList_text, hc, List.length_append, List.length_append] at hl
  have hlen := length_steps fun l hl => hf l (List.mem_append_right _ hl)
  exact hlen.2 (Nat.le_of_add_le_add_left hl)

end Grammar

lemma Path.Readable.exists_tree {p : Path} (h : p.Readable) :
    ∃ t : Grammar.Path, t.path = p ∧ Lexeme.IsName t.head.text := by
  obtain ⟨line, source, before, ls, rest, hs, hp⟩ := h
  obtain ⟨t, rfl, ht⟩ := (Grammar.exact_path line).derives ls p rest hp
  obtain ⟨-, hf⟩ := Lexeme.scanChars_spec (Lexeme.scan_eq_ok.1 hs)
  exact ⟨t, ht, hf (.name t.head.text) (by simp [Grammar.Path.lexemes])⟩

lemma Reading.wholePath_eq_ok {line : Option Int} {s : String} {p : Path} :
    wholePath line s = .ok p ↔
      ∃ t : Grammar.Path, Lexeme.scanChars s.toList = .ok t.lexemes ∧ t.path = p := by
  rw [wholePath, Outcome.bind_eq_ok]
  constructor
  · rintro ⟨ls, hs, hc⟩
    obtain ⟨t, rfl, ht⟩ := (Grammar.exact_path line).whole.1 ((Grammar.complete_eq_ok line).1 hc)
    exact ⟨t, Lexeme.scan_eq_ok.1 hs, ht⟩
  · rintro ⟨t, hs, ht⟩
    have hp := (Grammar.exact_path line).whole.2 ⟨t, rfl, ht⟩
    exact ⟨t.lexemes, Lexeme.scan_eq_ok.2 hs, (Grammar.complete_eq_ok line).2 hp⟩

lemma Path.readable_of_wholePath {line : Option Int} {s : String} {p : Path}
    (h : Reading.wholePath line s = .ok p) : p.Readable := by
  obtain ⟨ls, hs, hc⟩ := Outcome.bind_eq_ok.1 h
  exact ⟨line, s, [], ls, [], hs, (Grammar.complete_eq_ok line).1 hc⟩

lemma Path.forall_key {t : Grammar.Path} :
    (∀ s, .key s ∈ t.path.steps → Lexeme.IsName s) ↔ ∀ s ∈ t.steps, s.Named := by
  constructor
  · intro h s hs n hn
    exact h n (List.mem_map.2 ⟨s, hs, hn⟩)
  · intro h n hn
    obtain ⟨s, hs, he⟩ := List.mem_map.1 hn
    exact h s hs n he

lemma Path.Readable.wholePath_eq_ok_iff {p : Path} (h : p.Readable) {line : Option Int} :
    Reading.wholePath line p.text = .ok p ↔ ∀ s, .key s ∈ p.steps → Lexeme.IsName s := by
  rw [Reading.wholePath_eq_ok]
  constructor
  · rintro ⟨t, ht, rfl⟩
    exact forall_key.2 (Grammar.named_of_scanChars ht)
  · intro hk
    obtain ⟨t, rfl, hh⟩ := h.exists_tree
    exact ⟨t.plain, Grammar.scanChars_path hh (forall_key.1 hk), t.path_plain⟩

/-- A path that was read can be written out. Reading its text gives the path back exactly if every
key in it is a name, and otherwise fails or gives another path. -/
theorem Path.wholePath_text {p : Path} (h : p.Readable) (line : Option Int) :
    (∀ n, .index n ∈ p.steps → Number.writeInteger n.value = .ok (Number.integerText n.value)) ∧
      (Reading.wholePath line p.text = .ok p ↔ ∀ s, .key s ∈ p.steps → Lexeme.IsName s) ∧
      ((∃ s, .key s ∈ p.steps ∧ ¬ Lexeme.IsName s) →
        (∃ e, Reading.wholePath line p.text = .error e) ∨
          ∃ q, Reading.wholePath line p.text = .ok q ∧ q ≠ p) := by
  refine ⟨fun n _ => if_pos n.short, h.wholePath_eq_ok_iff, ?_⟩
  rintro ⟨s, hs, hn⟩
  cases hr : Reading.wholePath line p.text with
  | error e => exact .inl ⟨e, rfl⟩
  | ok q =>
    refine .inr ⟨q, rfl, ?_⟩
    rintro rfl
    exact hn (h.wholePath_eq_ok_iff.1 hr s hs)

theorem Path.wholePath_text_title :
    let p : Path := ⟨"m", [.index ⟨-1, by decide +kernel⟩, .key "title"]⟩
    let q : Path := ⟨"m", [.key "a.b"]⟩
    p.Readable ∧ Reading.wholePath none p.text = .ok p ∧ q.Readable ∧
      Reading.wholePath none q.text ≠ .ok q := by
  intro p q
  have hp : p.Readable :=
    readable_of_wholePath (by decide +kernel : Reading.wholePath none "m[-01]['title']" = .ok p)
  have hq : q.Readable :=
    readable_of_wholePath (by decide +kernel : Reading.wholePath none "m['a.b']" = .ok q)
  have hk : ∀ s, .key s ∈ p.steps → Lexeme.IsName s := by
    intro s hs
    obtain rfl : s = "title" := by simpa [p] using hs
    exact ⟨'t', ['i', 't', 'l', 'e'], by decide, by decide, List.all_eq_true.1 (by decide)⟩
  have hn : ¬ Lexeme.IsName "a.b" := by
    rintro ⟨c, cs, hc, -, hcs⟩
    have hd : cs = ['.', 'b'] := (List.cons.inj hc).2.symm
    exact absurd (hcs '.' (by simp [hd])) (by decide)
  obtain ⟨-, hread, -⟩ := wholePath_text hp none
  obtain ⟨-, hback, -⟩ := wholePath_text hq none
  exact ⟨hp, hread.2 hk, hq, fun h => hn (hback.1 h "a.b" List.mem_cons_self)⟩

end Stencil
