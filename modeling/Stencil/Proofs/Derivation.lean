import Stencil.Proofs.BuilderStep
import Stencil.Proofs.Grammar
import Stencil.Proofs.Readers

/-! What the readers of expressions accept: exactly the rows that the grammar derives, each of them
in one way. -/

namespace Stencil

namespace Reading

variable {T U V α β γ : Type} {line : Option Int}

lemma andThen_eq_found {r : Reading α} {k : α → List Lexeme → Reading β} {b : β}
    {rest : List Lexeme} :
    r.andThen k = found b rest ↔ ∃ a mid, r = found a mid ∧ k a mid = found b rest := by
  rcases r with ⟨_ | a, mid⟩
  · constructor
    · intro h
      cases h
    · rintro ⟨_, _, h, -⟩
      cases h
  · constructor
    · intro h
      exact ⟨a, mid, rfl, h⟩
    · rintro ⟨_, _, h, hk⟩
      cases h
      exact hk

lemma map_eq_found {r : Reading α} {f : α → β} {b : β} {rest : List Lexeme} :
    r.map f = found b rest ↔ ∃ a, r = found a rest ∧ f a = b := by
  rcases r with ⟨_ | a, mid⟩
  · constructor
    · intro h
      cases h
    · rintro ⟨_, h, -⟩
      cases h
  · constructor
    · intro h
      cases h
      exact ⟨a, rfl, rfl⟩
    · rintro ⟨_, h, rfl⟩
      cases h
      rfl

def Stops (cs : List Char) (ls : List Lexeme) : Prop :=
  ∀ c ∈ cs, ls.head? ≠ some (.punct c)

lemma stops_nil (cs : List Char) : Stops cs [] :=
  nofun

lemma stops_none (ls : List Lexeme) : Stops [] ls :=
  nofun

lemma Stops.mono {cs ds : List Char} {ls : List Lexeme} (h : Stops cs ls) (hs : ds ⊆ cs) :
    Stops ds ls :=
  fun c hc => h c (hs hc)

lemma stops_cons {cs : List Char} {l : Lexeme} (hl : ∀ c ∈ cs, l ≠ .punct c) (ls : List Lexeme) :
    Stops cs (l :: ls) :=
  fun c hc h => hl c hc (Option.some.inj h)

lemma stops_punct {cs : List Char} {c : Char} (hc : c ∉ cs) (ls : List Lexeme) :
    Stops cs (.punct c :: ls) := by
  refine stops_cons (fun d hd h => ?_) ls
  cases h
  exact hc hd

lemma stops_op (cs : List Char) (op : Comparison) (ls : List Lexeme) : Stops cs (.op op :: ls) := by
  refine stops_cons (fun c _ h => ?_) ls
  cases h

/-- A reader finds the values of the trees that derive what it takes from a row, and a row begins
with one such tree at most, unless one of the characters `cs` goes on. -/
structure Exact (lexemes : T → List Lexeme) (value : T → α) (cs : List Char)
    (r : List Lexeme → Reading α) : Prop where
  reads : ∀ t rest, Stops cs rest → r (lexemes t ++ rest) = found (value t) rest
  derives : ∀ ls a rest, r ls = found a rest → ∃ t, lexemes t ++ rest = ls ∧ value t = a
  unique : ∀ t u rest rest', Stops cs rest → Stops cs rest' →
    lexemes t ++ rest = lexemes u ++ rest' → t = u ∧ rest = rest'

variable {lex : T → List Lexeme} {val : T → α} {cs ds : List Char} {r : List Lexeme → Reading α}
  {lex' : U → List Lexeme} {val' : U → β} {q : List Lexeme → Reading β}

lemma Exact.mono (h : Exact lex val cs r) (hs : cs ⊆ ds) : Exact lex val ds r where
  reads t rest hr := h.reads t rest (hr.mono hs)
  derives := h.derives
  unique t u rest rest' hr hr' := h.unique t u rest rest' (hr.mono hs) (hr'.mono hs)

lemma Exact.congr {r' : List Lexeme → Reading α} (h : Exact lex val cs r)
    (hr : ∀ ls a rest, r' ls = found a rest ↔ r ls = found a rest) : Exact lex val cs r' where
  reads t rest hs := (hr _ _ _).2 (h.reads t rest hs)
  derives ls a rest ha := h.derives ls a rest ((hr _ _ _).1 ha)
  unique := h.unique

lemma Exact.whole (h : Exact lex val cs r) {ls : List Lexeme} {a : α} :
    r ls = found a [] ↔ ∃ t, lex t = ls ∧ val t = a := by
  constructor
  · intro ha
    obtain ⟨t, rfl, rfl⟩ := h.derives ls a [] ha
    exact ⟨t, (List.append_nil _).symm, rfl⟩
  · rintro ⟨t, rfl, rfl⟩
    have ht := h.reads t [] (stops_nil cs)
    rwa [List.append_nil] at ht

lemma Exact.injective (h : Exact lex val cs r) : Function.Injective lex := by
  intro t u he
  exact (h.unique t u [] [] (stops_nil cs) (stops_nil cs) (by rw [he])).1

lemma Exact.seq {first : V → T} {second : V → U} (f : α → β → γ) (h : Exact lex val cs r)
    (h' : Exact lex' val' ds q) (hs : ∀ u rest, Stops ds rest → Stops cs (lex' u ++ rest))
    (pair : T → U → V) (hp : ∀ t u, first (pair t u) = t ∧ second (pair t u) = u)
    (hv : ∀ v, pair (first v) (second v) = v) :
    Exact (fun v => lex (first v) ++ lex' (second v))
      (fun v => f (val (first v)) (val' (second v))) ds
      (fun ls => (r ls).andThen fun a ls => (q ls).map (f a)) where
  reads v rest hr := by
    rw [List.append_assoc, h.reads _ _ (hs _ rest hr), andThen_found, h'.reads _ rest hr]
    rfl
  derives ls c rest hc := by
    obtain ⟨a, mid, ha, hc⟩ := andThen_eq_found.1 hc
    obtain ⟨b, hb, rfl⟩ := map_eq_found.1 hc
    obtain ⟨t, rfl, rfl⟩ := h.derives ls a mid ha
    obtain ⟨u, rfl, rfl⟩ := h'.derives mid b rest hb
    obtain ⟨h₁, h₂⟩ := hp t u
    exact ⟨pair t u, by rw [h₁, h₂, List.append_assoc], by rw [h₁, h₂]⟩
  unique v w rest rest' hr hr' he := by
    simp only [List.append_assoc] at he
    obtain ⟨h₁, he⟩ := h.unique _ _ _ _ (hs _ rest hr) (hs _ rest' hr') he
    obtain ⟨h₂, he⟩ := h'.unique _ _ _ _ hr hr' he
    exact ⟨by rw [← hv v, ← hv w, h₁, h₂], he⟩

lemma Stops.flatMap {c : Char} (hn : c ∉ cs) {rest : List Lexeme} (h : Stops (c :: cs) rest)
    (ts : List T) : Stops cs ((ts.flatMap fun t => .punct c :: lex t) ++ rest) := by
  cases ts with
  | nil => exact h.mono (List.subset_cons_self c cs)
  | cons t ts => exact stops_punct hn _

lemma Exact.many {c : Char} {many : List Lexeme → Reading (List α)} (h : Exact lex val cs r)
    (hn : c ∉ cs)
    (hc : ∀ ls, many (.punct c :: ls) = (r ls).andThen fun a ls => (many ls).map (a :: ·))
    (hs : ∀ ls, ls.head? ≠ some (.punct c) → many ls = found [] ls) :
    Exact (fun ts : List T => ts.flatMap fun t => .punct c :: lex t) (List.map val) (c :: cs)
      many where
  reads ts rest hr := by
    induction ts with
    | nil => exact hs rest (hr c List.mem_cons_self)
    | cons t ts ih =>
      simp only [List.flatMap_cons, List.cons_append, List.append_assoc]
      rw [hc, h.reads t _ (hr.flatMap hn ts), andThen_found, ih]
      rfl
  derives ls as rest ha := by
    -- Only what the reader does after a `c` is known, so the induction is on the row's length.
    induction hl : ls.length using Nat.strongRecOn generalizing ls as with
    | _ n ih =>
      by_cases hh : ls.head? = some (.punct c)
      · obtain ⟨ls, rfl⟩ := List.head?_eq_some_iff.1 hh
        rw [hc] at ha
        obtain ⟨a, mid, hr, ha⟩ := andThen_eq_found.1 ha
        obtain ⟨as, hm, rfl⟩ := map_eq_found.1 ha
        obtain ⟨t, rfl, rfl⟩ := h.derives ls a mid hr
        have hlt : mid.length < n := by
          rw [← hl, List.length_cons, List.length_append]
          omega
        obtain ⟨ts, rfl, rfl⟩ := ih mid.length hlt mid as hm rfl
        exact ⟨t :: ts, by simp, rfl⟩
      · rw [hs ls hh] at ha
        cases ha
        exact ⟨[], rfl, rfl⟩
  unique ts us rest rest' hr hr' he := by
    induction ts generalizing us with
    | nil =>
      cases us with
      | nil => exact ⟨rfl, he⟩
      | cons u us =>
        rw [List.flatMap_nil, List.nil_append] at he
        exact (hr c List.mem_cons_self (by rw [he]; rfl)).elim
    | cons t ts ih =>
      cases us with
      | nil =>
        rw [List.flatMap_nil, List.nil_append] at he
        exact (hr' c List.mem_cons_self (by rw [← he]; rfl)).elim
      | cons u us =>
        simp only [List.flatMap_cons, List.cons_append, List.append_assoc, List.cons.injEq,
          true_and] at he
        obtain ⟨rfl, hm⟩ := h.unique t u _ _ (hr.flatMap hn ts) (hr'.flatMap hn us) he
        obtain ⟨rfl, hrest⟩ := ih us hm
        exact ⟨rfl, hrest⟩

end Reading

namespace Grammar

open Reading

variable (line : Option Int)

lemma literalWord?_eq_some {s : String} {v : Value} :
    Reading.literalWord? s = some v ↔ ∃ w : Word, w.text = s ∧ w.value = v := by
  constructor
  · intro h
    unfold Reading.literalWord? at h
    split at h
    · cases h
      exact ⟨.true, rfl, rfl⟩
    · cases h
      exact ⟨.false, rfl, rfl⟩
    · cases h
      exact ⟨.none, rfl, rfl⟩
    · cases h
      exact ⟨.null, rfl, rfl⟩
    · cases h
  · rintro ⟨w, rfl, rfl⟩
    cases w <;> rfl

lemma literalWord?_eq_none {s : String} :
    Reading.literalWord? s = none ↔ s ∉ ["true", "false", "none", "null"] := by
  constructor
  · intro h hs
    simp only [List.mem_cons, List.not_mem_nil, or_false] at hs
    rcases hs with rfl | rfl | rfl | rfl <;> cases h
  · intro hs
    cases h : Reading.literalWord? s with
    | none => rfl
    | some v =>
      obtain ⟨w, rfl, -⟩ := literalWord?_eq_some.1 h
      cases w <;> exact (hs (by decide)).elim

lemma Name.eq_of_text {m n : Name} (h : m.text = n.text) : m = n := by
  cases m
  cases n
  cases h
  rfl

lemma Integer.eq_of_lexeme {m n : Integer} (h : m.lexeme = n.lexeme) : m = n := by
  cases m
  cases n
  cases h
  rfl

lemma readInteger_eq_ok {negative : Bool} {ds : List Char} {i : ShortInt} :
    Number.readInteger negative ds = .ok i ↔
      ∃ n : Integer, n.negative = negative ∧ n.digits = ds ∧ n.number = i := by
  by_cases hd : ds.length ≤ DigitLimit.most
  · rw [Number.readInteger, dif_pos hd]
    constructor
    · intro h
      cases h
      exact ⟨⟨negative, ds, hd⟩, rfl, rfl, rfl⟩
    · rintro ⟨n, rfl, rfl, rfl⟩
      rfl
  · rw [Number.readInteger, dif_neg hd]
    constructor
    · intro h
      cases h
    · rintro ⟨n, rfl, rfl, rfl⟩
      exact (hd n.short).elim

lemma Word.eq_of_text {v w : Word} (h : v.text = w.text) : v = w := by
  cases v <;> cases w <;> first | rfl | exact absurd h (by decide)

lemma Literal.eq_of_lexeme {l m : Literal} (h : l.lexeme = m.lexeme) : l = m := by
  cases l <;> cases m <;> simp only [lexeme, Integer.lexeme, reduceCtorEq] at h
  case quoted.quoted =>
    cases h
    rfl
  case integer.integer a b => rw [Integer.eq_of_lexeme h]
  case decimal.decimal =>
    cases h
    rfl
  case word.word v w => rw [Word.eq_of_text (Lexeme.name.inj h)]
  all_goals cases h

lemma exact_identifier : Exact (fun n : Name => [.name n.text]) Name.text [] (identifier line) where
  reads n rest _ := by
    have hn : Reading.literalWord? n.text = none := literalWord?_eq_none.2 n.free
    simp only [List.cons_append, List.nil_append, identifier, hn, Option.isSome_none,
      Bool.false_eq_true, if_false]
  derives ls s rest h := by
    rcases ls with _ | ⟨l, ls⟩
    · cases h
    cases l with
    | name t =>
      cases ht : Reading.literalWord? t with
      | some v =>
        simp only [identifier, ht, Option.isSome_some, if_true] at h
        cases h
      | none =>
        simp only [identifier, ht, Option.isSome_none, Bool.false_eq_true, if_false] at h
        cases h
        exact ⟨⟨s, literalWord?_eq_none.1 ht⟩, rfl, rfl⟩
    | _ => cases h
  unique m n rest rest' _ _ h := by
    simp only [List.cons_append, List.nil_append, List.cons.injEq, Lexeme.name.injEq] at h
    exact ⟨Name.eq_of_text h.1, h.2⟩

lemma exact_literal : Exact (fun l : Literal => [l.lexeme]) Literal.value [] (literal line) where
  reads l rest _ := by
    cases l with
    | integer n =>
      have hv : (Numeral.value ⟨n.negative, n.digits, none⟩) = .ok (.int n.value) := by
        rw [Numeral.value, readInteger_eq_ok.2 ⟨n, rfl, rfl, rfl⟩]
        rfl
      simp only [List.cons_append, List.nil_append, Literal.lexeme, Integer.lexeme, literal, hv]
      rfl
    | word w =>
      simp only [List.cons_append, List.nil_append, Literal.lexeme, literal,
        literalWord?_eq_some.2 ⟨w, rfl, rfl⟩]
      rfl
    | _ => rfl
  derives ls v rest h := by
    rcases ls with _ | ⟨l, ls⟩
    · cases h
    cases l with
    | quoted mark body =>
      cases h
      exact ⟨.quoted mark body, rfl, rfl⟩
    | number n =>
      rcases n with ⟨negative, whole, _ | fraction⟩
      · cases hi : Number.readInteger negative whole with
        | error e =>
          simp only [literal, Numeral.value, hi] at h
          cases h
        | ok i =>
          obtain ⟨n, rfl, rfl, rfl⟩ := readInteger_eq_ok.1 hi
          simp only [literal, Numeral.value, hi] at h
          cases h
          exact ⟨.integer n, rfl, rfl⟩
      · cases h
        exact ⟨.decimal negative whole fraction, rfl, rfl⟩
    | name s =>
      cases hw : Reading.literalWord? s with
      | none =>
        simp only [literal, hw] at h
        cases h
      | some w =>
        simp only [literal, hw] at h
        cases h
        obtain ⟨w, rfl, rfl⟩ := literalWord?_eq_some.1 hw
        exact ⟨.word w, rfl, rfl⟩
    | _ => cases h
  unique l m rest rest' _ _ h := by
    simp only [List.cons_append, List.nil_append, List.cons.injEq] at h
    exact ⟨Literal.eq_of_lexeme h.1, h.2⟩

lemma Step.eq_of_lexemes {s t : Step} {rest rest' : List Lexeme}
    (h : s.lexemes ++ rest = t.lexemes ++ rest') : s = t ∧ rest = rest' := by
  cases s <;> cases t <;>
    simp only [Step.lexemes, List.cons_append, List.nil_append, List.cons.injEq, Lexeme.punct.injEq,
      Lexeme.name.injEq, Lexeme.quoted.injEq, Char.reduceEq, true_and, false_and, reduceCtorEq] at h
  case property.property => exact ⟨by rw [h.1], h.2⟩
  case index.index m n =>
    obtain ⟨hn, hr⟩ := h
    exact ⟨by rw [Integer.eq_of_lexeme hn], hr⟩
  case key.key => exact ⟨by rw [h.1.1, h.1.2], h.2⟩
  all_goals cases h.1

lemma bracketed?_eq_ok {l : Lexeme} {g : Segment} (h : bracketed? l = some (.ok g)) :
    ∃ s : Step, s.lexemes = [.punct '[', l, .punct ']'] ∧ s.segment = g := by
  unfold bracketed? at h
  split at h
  · rename_i negative whole
    cases hi : Number.readInteger negative whole with
    | error e =>
      rw [hi] at h
      cases h
    | ok i =>
      rw [hi] at h
      cases h
      obtain ⟨n, rfl, rfl, rfl⟩ := readInteger_eq_ok.1 hi
      exact ⟨.index n, rfl, rfl⟩
  · rename_i mark body
    cases h
    exact ⟨.key mark body, rfl, rfl⟩
  · cases h

lemma steps_step (s : Step) (rest : List Lexeme) :
    Reading.steps line (s.lexemes ++ rest) = (Reading.steps line rest).map (s.segment :: ·) := by
  cases s with
  | property name =>
    simp only [Step.lexemes, List.cons_append, List.nil_append, Reading.steps]
    rfl
  | index n =>
    have hb : bracketed? n.lexeme = some (.ok (.index n.number)) := by
      rw [Integer.lexeme, bracketed?, readInteger_eq_ok.2 ⟨n, rfl, rfl, rfl⟩]
      rfl
    simp only [Step.lexemes, List.cons_append, List.nil_append, Reading.steps, hb]
    rfl
  | key mark body =>
    simp only [Step.lexemes, List.cons_append, List.nil_append, Reading.steps, bracketed?]
    rfl

lemma not_stops_step (s : Step) (rest : List Lexeme) : ¬ Stops ['.', '['] (s.lexemes ++ rest) := by
  intro h
  cases s with
  | property name => exact h '.' (by decide) rfl
  | index n => exact h '[' (by decide) rfl
  | key mark body => exact h '[' (by decide) rfl

lemma exact_steps : Exact (fun ss : List Step => ss.flatMap Step.lexemes) (List.map Step.segment)
    ['.', '['] (Reading.steps line) where
  reads ss rest hr := by
    induction ss with
    | nil => exact steps_of_head line (hr '.' (by decide)) (hr '[' (by decide))
    | cons s ss ih =>
      rw [List.flatMap_cons, List.append_assoc, steps_step, ih]
      rfl
  derives ls gs rest h := by
    fun_induction Reading.steps line ls generalizing gs with
    | case1 s ls ih =>
      obtain ⟨gs, hg, rfl⟩ := map_eq_found.1 h
      obtain ⟨ss, rfl, rfl⟩ := ih gs hg
      exact ⟨.property s :: ss, rfl, rfl⟩
    | case5 l g hb ls ih =>
      obtain ⟨gs, hg, rfl⟩ := map_eq_found.1 h
      obtain ⟨ss, rfl, rfl⟩ := ih gs hg
      obtain ⟨s, hs, rfl⟩ := bracketed?_eq_ok hb
      exact ⟨s :: ss, by rw [List.flatMap_cons, hs]; rfl, rfl⟩
    | case8 ls =>
      cases h
      exact ⟨[], rfl, rfl⟩
    | _ => cases h
  unique ss ts rest rest' hr hr' h := by
    induction ss generalizing ts with
    | nil =>
      cases ts with
      | nil => exact ⟨rfl, h⟩
      | cons t ts =>
        rw [List.flatMap_nil, List.nil_append, List.flatMap_cons, List.append_assoc] at h
        exact (not_stops_step t _ (h ▸ hr)).elim
    | cons s ss ih =>
      cases ts with
      | nil =>
        rw [List.flatMap_nil, List.nil_append, List.flatMap_cons, List.append_assoc] at h
        exact (not_stops_step s _ (h ▸ hr')).elim
      | cons t ts =>
        simp only [List.flatMap_cons, List.append_assoc] at h
        obtain ⟨rfl, hm⟩ := Step.eq_of_lexemes h
        obtain ⟨rfl, hrest⟩ := ih ts hm
        exact ⟨rfl, hrest⟩

lemma exact_path : Exact Path.lexemes Path.path ['.', '['] (Reading.path line) :=
  (exact_identifier line).seq Stencil.Path.mk (exact_steps line) (fun _ _ _ => stops_none _)
    Path.mk (fun _ _ => ⟨rfl, rfl⟩) fun _ => rfl

lemma Literal.lexeme_ne_name (l : Literal) (n : Name) : l.lexeme ≠ .name n.text := by
  intro h
  cases l with
  | word w =>
    apply n.free
    rw [← Lexeme.name.inj h]
    cases w <;> decide
  | _ => cases h

lemma operand_literal (l : Literal) (rest : List Lexeme) :
    operand line (l.lexeme :: rest) = (literal line (l.lexeme :: rest)).map .literal := by
  cases l with
  | word w =>
    have hw := literalWord?_eq_some.2 ⟨w, rfl, rfl⟩
    simp only [Literal.lexeme, operand, hw, Option.isSome_some, if_true]
  | _ => rfl

lemma operand_name {s : String} (rest : List Lexeme) (hw : Reading.literalWord? s = none)
    (hs : s ∉ reserved) :
    operand line (.name s :: rest) = (Reading.path line (.name s :: rest)).map .path := by
  simp only [operand, hw, Option.isSome_none, Bool.false_eq_true, if_false, if_neg hs]

lemma exact_operand : Exact Operand.lexemes Operand.expr ['.', '['] (operand line) where
  reads o rest hr := by
    cases o with
    | literal l =>
      have hl := (exact_literal line).reads l rest (stops_none rest)
      exact (operand_literal line l rest).trans (congrArg (Reading.map Expr.literal) hl)
    | path p free =>
      have hp := (exact_path line).reads p rest hr
      have hw := literalWord?_eq_none.2 p.head.free
      exact (operand_name line _ hw free).trans (congrArg (Reading.map Expr.path) hp)
  derives ls e rest h := by
    rcases ls with _ | ⟨l, ls⟩
    · cases h
    have hliteral : (literal line (l :: ls)).map Expr.literal = found e rest →
        ∃ o : Operand, o.lexemes ++ rest = l :: ls ∧ o.expr = e := by
      intro h
      obtain ⟨v, hv, rfl⟩ := map_eq_found.1 h
      obtain ⟨m, hm, rfl⟩ := (exact_literal line).derives _ v rest hv
      exact ⟨.literal m, hm, rfl⟩
    cases l with
    | name s =>
      rw [operand] at h
      split at h
      · exact hliteral h
      split at h
      · cases h
      · rename_i hs
        obtain ⟨p, hp, rfl⟩ := map_eq_found.1 h
        obtain ⟨t, ht, rfl⟩ := (exact_path line).derives _ p rest hp
        have hh : t.head.text = s := Lexeme.name.inj (List.cons.inj ht).1
        exact ⟨.path t (hh ▸ hs), ht, rfl⟩
    | quoted mark body => exact hliteral h
    | number n => exact hliteral h
    | _ => cases h
  unique o p rest rest' hr hr' h := by
    rcases o with l | ⟨p₁, free₁⟩ <;> rcases p with m | ⟨p₂, free₂⟩
    · obtain ⟨rfl, hrest⟩ :=
        (exact_literal line).unique l m rest rest' (stops_none _) (stops_none _) h
      exact ⟨rfl, hrest⟩
    · exact (l.lexeme_ne_name p₂.head (List.cons.inj h).1).elim
    · exact (m.lexeme_ne_name p₁.head (List.cons.inj h).1.symm).elim
    · obtain ⟨rfl, hrest⟩ := (exact_path line).unique p₁ p₂ rest rest' hr hr' h
      exact ⟨rfl, hrest⟩

lemma exact_moreArguments :
    Exact (fun os : List Operand => os.flatMap fun o => .punct ',' :: o.lexemes)
      (List.map Operand.expr) [',', '.', '['] (moreArguments line) :=
  (exact_operand line).many (by decide) (moreArguments_comma line) (moreArguments_of_head line)

lemma Operand.head_ne (o : Operand) (rest : List Lexeme) (c : Char) (ls : List Lexeme) :
    o.lexemes ++ rest ≠ .punct c :: ls := by
  rcases o with l | ⟨p, free⟩
  · cases l <;> exact nofun
  · exact nofun

lemma accept?_eq_some {c : Char} {ls rest : List Lexeme} :
    accept? (String.singleton c) ls = some rest ↔ ls = .punct c :: rest := by
  constructor
  · intro h
    rcases ls with _ | ⟨l, ls⟩
    · cases h
    by_cases hl : l = .punct c
    · rw [hl, accept?, if_pos rfl] at h
      rw [hl, Option.some.inj h]
    · rw [accept?_of_ne ls hl] at h
      cases h
  · rintro rfl
    rw [accept?, if_pos rfl]

lemma accept?_eq_none {c : Char} {ls : List Lexeme} (h : ∀ rest, ls ≠ .punct c :: rest) :
    accept? (String.singleton c) ls = none := by
  cases hc : accept? (String.singleton c) ls with
  | none => rfl
  | some rest => exact (h rest (accept?_eq_some.1 hc)).elim

lemma expectPunct_eq_found {c : Char} {ls rest : List Lexeme} :
    expectPunct line (String.singleton c) ls = found () rest ↔ ls = .punct c :: rest := by
  rw [← accept?_eq_some, expectPunct]
  cases accept? (String.singleton c) ls with
  | none =>
    constructor
    · intro h
      cases h
    · intro h
      cases h
  | some ms =>
    constructor
    · intro h
      cases h
      rfl
    · intro h
      cases h
      rfl

lemma arguments_of_head {ls : List Lexeme} (h : ∀ rest, ls ≠ .punct ')' :: rest) :
    arguments line ls = (operand line ls).andThen fun e ls =>
      (moreArguments line ls).andThen fun es ls =>
        (expectPunct line ")" ls).map fun _ => e :: es := by
  rw [arguments, show ")" = String.singleton ')' from rfl, accept?_eq_none h]

lemma exact_arguments : Exact (fun os => Operand.separated os ++ [.punct ')'])
    (List.map Operand.expr) [] (arguments line) where
  reads os rest _ := by
    rcases os with _ | ⟨o, os⟩
    · rfl
    have hc : Stops [',', '.', '['] (.punct ')' :: rest) := stops_punct (by decide) rest
    have ho := (exact_operand line).reads o
      ((os.flatMap fun p => .punct ',' :: p.lexemes) ++ .punct ')' :: rest)
      (hc.flatMap (by decide) os)
    have hm := (exact_moreArguments line).reads os _ hc
    have he := (expectPunct_eq_found line).2 (rfl : Lexeme.punct ')' :: rest = _)
    simp only [Operand.separated, List.append_assoc, List.cons_append, List.nil_append]
    rw [arguments_of_head line fun ms => o.head_ne _ ')' ms, ho, andThen_found, hm, andThen_found,
      show ")" = String.singleton ')' from rfl, he]
    rfl
  derives ls es rest h := by
    by_cases hc : ∃ ms, ls = .punct ')' :: ms
    · obtain ⟨ms, rfl⟩ := hc
      cases h
      exact ⟨[], rfl, rfl⟩
    · rw [not_exists] at hc
      rw [arguments_of_head line hc] at h
      obtain ⟨e, mid, ho, h⟩ := andThen_eq_found.1 h
      obtain ⟨es, last, hm, h⟩ := andThen_eq_found.1 h
      obtain ⟨_, he, rfl⟩ := map_eq_found.1 h
      obtain ⟨o, rfl, rfl⟩ := (exact_operand line).derives _ _ _ ho
      obtain ⟨os, rfl, rfl⟩ := (exact_moreArguments line).derives _ _ _ hm
      obtain rfl : last = .punct ')' :: rest := (expectPunct_eq_found line).1 he
      exact ⟨o :: os, by simp [Operand.separated], rfl⟩
  unique os ps rest rest' _ _ h := by
    have hc : ∀ ms, Stops [',', '.', '['] (.punct ')' :: ms) := fun ms =>
      stops_punct (by decide) ms
    rcases os with _ | ⟨o, os⟩ <;> rcases ps with _ | ⟨p, ps⟩ <;>
      simp only [Operand.separated, List.append_assoc, List.cons_append, List.nil_append] at h
    · exact ⟨rfl, (List.cons.inj h).2⟩
    · exact (p.head_ne _ ')' rest h.symm).elim
    · exact (o.head_ne _ ')' rest' h).elim
    · obtain ⟨rfl, hm⟩ := (exact_operand line).unique o p _ _ ((hc rest).flatMap (by decide) os)
        ((hc rest').flatMap (by decide) ps) h
      obtain ⟨rfl, hrest⟩ := (exact_moreArguments line).unique os ps _ _ (hc rest) (hc rest') hm
      exact ⟨rfl, (List.cons.inj hrest).2⟩

def callArguments (ls : List Lexeme) : Reading (List Expr) :=
  match accept? "(" ls with
  | some ls => arguments line ls
  | none => found [] ls

lemma filterCall_eq (ls : List Lexeme) :
    filterCall line ls = (identifier line ls).andThen fun name ls =>
      (callArguments line ls).map (⟨name, ·, line⟩) := by
  have hk : ∀ name ls, (match accept? "(" ls with
      | some ls => (arguments line ls).map (⟨name, ·, line⟩ : List Expr → FilterCall)
      | none => found ⟨name, [], line⟩ ls) = (callArguments line ls).map (⟨name, ·, line⟩) := by
    intro name ls
    rw [callArguments]
    cases accept? "(" ls <;> rfl
  rw [filterCall]
  congr
  funext name ls
  exact hk name ls

lemma callArguments_listed (ls : List Lexeme) :
    callArguments line (.punct '(' :: ls) = arguments line ls := by
  have ha := (accept?_eq_some (c := '(')).2 (rfl : Lexeme.punct '(' :: ls = _)
  rw [callArguments, show "(" = String.singleton '(' from rfl, ha]

lemma callArguments_absent {ls : List Lexeme} (h : ∀ ms, ls ≠ .punct '(' :: ms) :
    callArguments line ls = found [] ls := by
  rw [callArguments, show "(" = String.singleton '(' from rfl, accept?_eq_none h]

lemma exact_callArguments : Exact Arguments.lexemes Arguments.exprs ['('] (callArguments line) where
  reads a rest hr := by
    cases a with
    | absent =>
      exact callArguments_absent line fun ms hm => hr '(' (by decide) (congrArg List.head? hm)
    | listed os =>
      have ha := (exact_arguments line).reads os rest (stops_none rest)
      exact (callArguments_listed line _).trans ha
  derives ls es rest h := by
    by_cases hc : ∃ ms, ls = .punct '(' :: ms
    · obtain ⟨ms, rfl⟩ := hc
      rw [callArguments_listed] at h
      obtain ⟨os, rfl, rfl⟩ := (exact_arguments line).derives ms es rest h
      exact ⟨.listed os, rfl, rfl⟩
    · rw [not_exists] at hc
      rw [callArguments_absent line hc] at h
      cases h
      exact ⟨.absent, rfl, rfl⟩
  unique a b rest more hr hm h := by
    cases a with
    | absent =>
      cases b with
      | absent => exact ⟨rfl, h⟩
      | listed ps => exact (hr '(' (by decide) (congrArg List.head? h)).elim
    | listed os =>
      cases b with
      | absent => exact (hm '(' (by decide) (congrArg List.head? h).symm).elim
      | listed ps =>
        obtain ⟨rfl, hrest⟩ := (exact_arguments line).unique os ps rest more (stops_none rest)
          (stops_none more) (List.cons.inj h).2
        exact ⟨rfl, hrest⟩

lemma exact_filterCall : Exact Call.lexemes (Call.call line) ['('] (filterCall line) := by
  have h := (exact_identifier line).seq (fun name args => (⟨name, args, line⟩ : FilterCall))
    (exact_callArguments line) (fun _ _ _ => stops_none _) Call.mk (fun _ _ => ⟨rfl, rfl⟩)
    fun _ => rfl
  rw [← funext (filterCall_eq line)] at h
  exact h

lemma exact_filterCalls : Exact (fun cs : List Call => cs.flatMap fun c => .punct '|' :: c.lexemes)
    (List.map (Call.call line)) ['|', '('] (filterCalls line) :=
  (exact_filterCall line).many (by decide) (filterCalls_bar line) (filterCalls_of_head line)

lemma chain_eq_found (ls : List Lexeme) (v : Expr × List FilterCall) (rest : List Lexeme) :
    chain line ls = found v rest ↔
      ((operand line ls).andThen fun e ls => (filterCalls line ls).map (e, ·)) = found v rest := by
  cases ls with
  | nil =>
    constructor
    · intro h
      cases h
    · intro h
      cases h
  | cons l ls => exact Iff.rfl

lemma exact_chain : Exact Chain.lexemes (Chain.value line) ['|', '(', '.', '['] (chain line) := by
  have hs : ∀ (cs : List Call) rest, Stops ['|', '(', '.', '['] rest →
      Stops ['.', '['] ((cs.flatMap fun c => .punct '|' :: c.lexemes) ++ rest) := by
    intro cs rest hr
    have hr' : Stops ['|', '.', '['] rest := hr.mono (by decide)
    exact hr'.flatMap (by decide) cs
  have h := (exact_operand line).seq Prod.mk ((exact_filterCalls line).mono (by decide)) hs
    Chain.mk (fun _ _ => ⟨rfl, rfl⟩) fun _ => rfl
  exact h.congr (chain_eq_found line)

lemma complete_eq_ok {α : Type} {r : Reading α} {a : α} :
    complete line r = .ok a ↔ r = found a [] := by
  rcases r with ⟨e | b, ls⟩
  · constructor
    · intro h
      cases h
    · intro h
      cases h
  · change complete line (found b ls) = .ok a ↔ found b ls = found a []
    rw [complete_found]
    constructor
    · rintro ⟨rfl, rfl⟩
      rfl
    · intro h
      cases h
      exact ⟨rfl, rfl⟩

lemma Word.text_ne_not (w : Word) : w.text ≠ "not" := by
  cases w <;> decide

lemma Operand.head?_ne_not (o : Operand) (rest : List Lexeme) :
    (o.lexemes ++ rest).head? ≠ some (.name "not") := by
  intro h
  rcases o with l | ⟨p, free⟩
  · cases l with
    | word w => exact w.text_ne_not (Lexeme.name.inj (Option.some.inj h))
    | _ => cases h
  · have hn : p.head.text = "not" := Lexeme.name.inj (Option.some.inj h)
    exact free (by rw [hn]; decide)

lemma condition_of_head {ls : List Lexeme} (h : ls.head? ≠ some (.name "not")) {e : Expr}
    {rest : List Lexeme} :
    condition line ls = found e rest ↔
      (operand line ls).andThen (comparison line) = found e rest := by
  rcases ls with _ | ⟨l, ls⟩
  · constructor
    · intro h
      cases h
    · intro h
      cases h
  · have hl : l ≠ .name "not" := fun he => h (congrArg some he)
    rw [condition]
    · exact Iff.rfl
    · exact hl

lemma comparison_eq_found {left e : Expr} {ls : List Lexeme} :
    comparison line left ls = found e [] ↔
      ls = [] ∧ e = left ∨
        ∃ op, ∃ o : Operand, ls = .op op :: o.lexemes ∧ e = .compare op left o.expr := by
  constructor
  · intro h
    rcases ls with _ | ⟨l, ls⟩
    · cases h
      exact .inl ⟨rfl, rfl⟩
    cases l with
    | op op =>
      obtain ⟨right, hr, rfl⟩ := map_eq_found.1 h
      obtain ⟨o, rfl, rfl⟩ := (exact_operand line).whole.1 hr
      exact .inr ⟨op, o, rfl, rfl⟩
    | _ => cases h
  · rintro (⟨rfl, rfl⟩ | ⟨op, o, rfl, rfl⟩)
    · rfl
    · exact map_eq_found.2 ⟨_, (exact_operand line).whole.2 ⟨o, rfl, rfl⟩, rfl⟩

lemma condition_eq_found {ls : List Lexeme} {e : Expr} :
    condition line ls = found e [] ↔ ∃ t : Condition, t.lexemes = ls ∧ t.expr = e := by
  constructor
  · intro h
    by_cases hn : ls.head? = some (.name "not")
    · obtain ⟨ms, rfl⟩ := List.head?_eq_some_iff.1 hn
      obtain ⟨x, hx, rfl⟩ := map_eq_found.1 h
      obtain ⟨o, rfl, rfl⟩ := (exact_operand line).whole.1 hx
      exact ⟨.not o, rfl, rfl⟩
    · obtain ⟨left, mid, hl, hc⟩ := andThen_eq_found.1 ((condition_of_head line hn).1 h)
      obtain ⟨o, rfl, rfl⟩ := (exact_operand line).derives ls left mid hl
      rcases (comparison_eq_found line).1 hc with ⟨rfl, rfl⟩ | ⟨op, p, rfl, rfl⟩
      · exact ⟨.operand o, by simp [Condition.lexemes], rfl⟩
      · exact ⟨.compare op o p, rfl, rfl⟩
  · rintro ⟨t, rfl, rfl⟩
    cases t with
    | not o => exact map_eq_found.2 ⟨_, (exact_operand line).whole.2 ⟨o, rfl, rfl⟩, rfl⟩
    | operand o =>
      have ho := (exact_operand line).whole.2 ⟨o, rfl, rfl⟩
      have hn := o.head?_ne_not []
      rw [List.append_nil] at hn
      exact (condition_of_head line hn).2 (andThen_eq_found.2 ⟨_, _, ho, rfl⟩)
    | compare op o p =>
      have ho := (exact_operand line).reads o (.op op :: p.lexemes) (stops_op _ op _)
      refine (condition_of_head line (o.head?_ne_not _)).2 (andThen_eq_found.2 ⟨_, _, ho, ?_⟩)
      exact (comparison_eq_found line).2 (.inr ⟨op, p, rfl, rfl⟩)

lemma Operand.lexemes_ne_compare (o p : Operand) (op : Comparison) (ls : List Lexeme) :
    o.lexemes ≠ p.lexemes ++ .op op :: ls := by
  intro h
  have hu := (exact_operand none).unique o p [] (.op op :: ls) (stops_nil _) (stops_op _ op ls)
    (by rw [List.append_nil, h])
  cases hu.2

lemma Operand.not_cons_ne (o p : Operand) (rest : List Lexeme) :
    .name "not" :: o.lexemes ≠ p.lexemes ++ rest := by
  intro h
  exact p.head?_ne_not rest (congrArg List.head? h).symm

lemma Operand.not_cons_ne_lexemes (o p : Operand) : .name "not" :: o.lexemes ≠ p.lexemes := by
  have h := o.not_cons_ne p []
  rwa [List.append_nil] at h

lemma lexemes_condition_injective : Function.Injective Condition.lexemes := by
  intro t u h
  cases t with
  | not o =>
    cases u with
    | not p => rw [(exact_operand none).injective (List.cons.inj h).2]
    | operand p => exact (o.not_cons_ne_lexemes p h).elim
    | compare op p p' => exact (o.not_cons_ne p _ h).elim
  | operand o =>
    cases u with
    | not p => exact (p.not_cons_ne_lexemes o h.symm).elim
    | operand p => rw [(exact_operand none).injective h]
    | compare op p p' => exact (o.lexemes_ne_compare p op _ h).elim
  | compare op o o' =>
    cases u with
    | not p => exact (p.not_cons_ne o _ h.symm).elim
    | operand p => exact (p.lexemes_ne_compare o op _ h.symm).elim
    | compare op' p p' =>
      obtain ⟨rfl, hr⟩ := (exact_operand none).unique o p _ _ (stops_op _ op _) (stops_op _ op' _) h
      obtain ⟨hop, hl⟩ := List.cons.inj hr
      rw [Lexeme.op.inj hop, (exact_operand none).injective hl]

end Grammar

end Stencil
