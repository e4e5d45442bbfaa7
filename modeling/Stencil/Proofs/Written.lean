import Stencil.Proofs.Building
import Stencil.Proofs.Refusal
import Stencil.Proofs.Shortness
import Stencil.Proofs.Spacing

/-! What the directives of a template hold is written in it, so is no longer than the template. -/

namespace Stencil

namespace Text

lemma length_trim (cs : List Char) : (trim cs).length ≤ cs.length := by
  obtain ⟨u, v, h, -⟩ := trimmed_trim cs
  have hl := congrArg List.length h
  simp only [List.length_append] at hl
  omega

lemma length_cutWord (cs : List Char) : (cutWord cs).2.length ≤ cs.length := by
  have ht : ∀ ds, (trimLeft ds).length ≤ ds.length := fun ds => (List.dropWhile_sublist _).length_le
  have hd := (List.dropWhile_sublist (l := trimLeft cs) fun c => !isBlank c).length_le
  exact Nat.le_trans (ht _) (Nat.le_trans hd (ht cs))

end Text

namespace Lexeme

lemma length_unescape (cs : List Char) : (unescape cs).length ≤ cs.length := by
  fun_induction unescape cs with
  | case1 => exact Nat.le_refl _
  | case2 c cs hc ih =>
    simp only [List.length_cons]
    omega
  | case3 c cs hc ih => exact Nat.succ_le_succ ih
  | case4 c cs hc ih => exact Nat.succ_le_succ ih

lemma length_body {cs : List Char} {ls : List Lexeme} (h : scanChars cs = .ok ls) {q : Char}
    {body : List Char} (hb : .quoted q body ∈ ls) : body.length ≤ cs.length := by
  obtain ⟨us, vs, rfl⟩ := List.append_of_mem hb
  have hs := (scanChars_spec h).1.length_le
  simp only [chars_append, chars_cons, text, String.toList_ofList, List.length_append,
    List.length_cons] at hs
  omega

lemma scan_eq_ok {line : Option Int} {s : String} {ls : List Lexeme} :
    scan line s = .ok ls ↔ scanChars s.toList = .ok ls := by
  rw [scan]
  exact Outcome.mapError_eq_ok

end Lexeme

namespace Token

lemma length_ofPiece? {line : Int} {p : Piece} {t : Token} (h : ofPiece? line p = some t) :
    t.value.toList.length ≤ p.source.length := by
  have hd : ∀ (d : Delimiter) body, (String.ofList (Text.trim body)).toList.length ≤
      (Piece.directive d body).source.length := by
    intro d body
    have ht := Text.length_trim body
    simp only [String.toList_ofList, Piece.source, List.length_append]
    omega
  cases p with
  | text cs =>
    cases h
    rw [String.toList_ofList]
    exact Nat.le_refl _
  | directive d body =>
    cases d with
    | output =>
      cases h
      exact hd .output body
    | tag =>
      cases h
      exact hd .tag body
    | comment => cases h
  | indent cs => cases h
  | newline cs => cases h

lemma length_ofPieces {line : Int} {ps : List Piece} {t : Token} (h : t ∈ ofPieces line ps) :
    t.value.toList.length ≤ (Piece.sources ps).length := by
  obtain ⟨n, p, hp, ht⟩ := of_mem_ofPieces h
  obtain ⟨u, v, rfl⟩ := List.append_of_mem hp
  have hlen := length_ofPiece? ht
  simp only [Piece.sources_append, Piece.sources_cons, List.length_append]
  omega

lemma length_ofSource {source : String} {ts : List Token} (h : ofSource source = .ok ts) {t : Token}
    (ht : t ∈ ts) : t.value.toList.length ≤ source.toList.length := by
  obtain ⟨ps, hc, rfl⟩ := ofSource_ok.1 h
  obtain ⟨-, hs⟩ := Cut.ofSource_eq_iff.1 hc
  rw [← hs]
  exact length_ofPieces ht

end Token

namespace Grammar

def Fits (ls : List Lexeme) : Prop :=
  ∀ q body, .quoted q body ∈ ls → ¬ Number.TooLong body.length

lemma Fits.mono {ls ms : List Lexeme} (h : Fits ls) (hs : ms ⊆ ls) : Fits ms :=
  fun q body hb => h q body (hs hb)

lemma short_key {body : List Char} (h : ¬ Number.TooLong body.length) :
    (Value.text (key body)).Short := by
  refine .text (Number.not_tooLong_of_le ?_ h)
  rw [key, String.toList_ofList]
  exact Lexeme.length_unescape body

lemma Integer.natAbs_value (n : Integer) : n.value.natAbs = Text.number n.digits := by
  rw [value]
  split <;> simp only [Int.natAbs_neg, Int.natAbs_natCast]

lemma Integer.not_tooLong (n : Integer) : ¬ Number.TooLong n.value := by
  have hlt : ∀ k, n.digits.length ≤ k → Text.number n.digits < Nat.pow 10 k := fun k hk =>
    Nat.lt_of_lt_of_le (Text.number_lt n.digits) (Nat.pow_le_pow_right (by omega) hk)
  rw [Number.tooLong_iff, n.natAbs_value]
  exact Nat.not_le.2 (hlt DigitLimit.most n.short)

lemma Literal.short (l : Literal) (h : Fits [l.lexeme]) : l.value.Short := by
  cases l with
  | quoted mark body => exact short_key (h mark body List.mem_cons_self)
  | integer n => exact .int n.not_tooLong
  | decimal negative whole fraction => exact .float _
  | word w => cases w <;> first | exact .bool _ | exact .null

lemma Operand.short (o : Operand) (h : Fits o.lexemes) : o.expr.Short := by
  cases o with
  | literal l => exact l.short h
  | path p free => trivial

lemma Operand.lexemes_subset {o : Operand} {os : List Operand} (h : o ∈ os) :
    o.lexemes ⊆ separated os := by
  intro l hl
  cases os with
  | nil => cases h
  | cons p os =>
    rw [separated, List.mem_append]
    rcases List.mem_cons.1 h with rfl | ho
    · exact .inl hl
    · exact .inr (List.mem_flatMap.2 ⟨o, ho, List.mem_cons_of_mem _ hl⟩)

lemma Call.short (line : Option Int) (c : Call) (h : Fits c.lexemes) :
    ∀ a ∈ (c.call line).args, Expr.Short a := by
  intro a ha
  obtain ⟨name, arguments⟩ := c
  cases arguments with
  | absent => cases ha
  | listed os =>
    obtain ⟨o, ho, rfl⟩ := List.mem_map.1 ha
    refine o.short (h.mono fun l hl => ?_)
    have hs : l ∈ Operand.separated os := Operand.lexemes_subset ho hl
    exact List.mem_cons_of_mem _ (List.mem_cons_of_mem _ (List.mem_append_left _ hs))

lemma Chain.short (line : Option Int) (t : Chain) (h : Fits t.lexemes) :
    (t.value line).1.Short ∧ ∀ c ∈ (t.value line).2, ∀ a ∈ c.args, Expr.Short a := by
  refine ⟨t.operand.short (h.mono fun l hl => List.mem_append_left _ hl), fun c hc => ?_⟩
  obtain ⟨f, hf, rfl⟩ := List.mem_map.1 hc
  refine f.short line (h.mono fun l hl => List.mem_append_right _ ?_)
  exact List.mem_flatMap.2 ⟨f, hf, List.mem_cons_of_mem _ hl⟩

lemma Condition.short (t : Condition) (h : Fits t.lexemes) : t.expr.Short := by
  cases t with
  | not o => exact o.short (h.mono fun l hl => List.mem_cons_of_mem _ hl)
  | operand o => exact o.short h
  | compare op left right =>
    constructor
    · exact left.short (h.mono fun l hl => List.mem_append_left _ hl)
    · exact right.short (h.mono fun l hl => List.mem_append_right _ (List.mem_cons_of_mem _ hl))

end Grammar

def Mark.Short : Mark → Prop
  | .output e filters _ => e.Short ∧ ∀ c ∈ filters, ∀ a ∈ c.args, a.Short
  | .set _ e filters _ => e.Short ∧ ∀ c ∈ filters, ∀ a ∈ c.args, a.Short
  | .test e => e.Short
  | .orTest e => e.Short
  | .unknown _ => False
  | _ => True

open Outcome Reading

lemma Grammar.fits_of_scan {line : Option Int} {s : String} {ls : List Lexeme}
    (h : Lexeme.scan line s = .ok ls) (hn : ¬ Number.TooLong s.toList.length) : Fits ls :=
  fun _ _ hb => Number.not_tooLong_of_le (Lexeme.length_body (Lexeme.scan_eq_ok.1 h) hb) hn

lemma Builder.bindingHeader_eq_ok {line : Option Int} {ls : List Lexeme} {name : String} {e : Expr}
    {filters : List FilterCall}
    (h : complete line (bindingHeader line ls) = .ok (name, e, filters)) :
    ∃ t : Grammar.Chain, t.lexemes ⊆ ls ∧ t.value line = (e, filters) := by
  obtain ⟨x, mid, hn, h⟩ := andThen_eq_found.1 ((Grammar.complete_eq_ok line).1 h)
  obtain ⟨⟨⟩, mid', hp, h⟩ := andThen_eq_found.1 h
  obtain ⟨v, hv, hp'⟩ := map_eq_found.1 h
  cases hp'
  obtain ⟨n, rfl, -⟩ := (Grammar.exact_identifier line).derives ls _ mid hn
  have hq : expectPunct line (String.singleton '=') mid = found () mid' := hp
  rw [Grammar.expectPunct_eq_found] at hq
  obtain ⟨t, ht, hv⟩ := Grammar.chain_eq_ok.1 ((Grammar.complete_eq_ok line).2 hv)
  refine ⟨t, fun l hl => ?_, hv⟩
  rw [hq, ← ht]
  exact List.mem_cons_of_mem _ (List.mem_cons_of_mem _ hl)

lemma Mark.Reads.short {m : Mark} {t : Token} (h : m.Reads t)
    (hn : ¬ Number.TooLong t.value.toList.length) : m.Short := by
  have hfits : ∀ {keyword ls}, t.IsTag keyword ls → Grammar.Fits ls := by
    rintro keyword ls ⟨-, -, hs⟩
    refine Grammar.fits_of_scan hs (Number.not_tooLong_of_le ?_ hn)
    rw [String.toList_ofList]
    exact Text.length_cutWord _
  have hcondition : ∀ {keyword ls e}, t.IsTag keyword ls →
      complete (some t.line) (condition (some t.line) ls) = .ok e → e.Short := by
    intro keyword ls e ht he
    obtain ⟨c, rfl, rfl⟩ := Grammar.condition_eq_ok.1 he
    exact c.short (hfits ht)
  cases h with
  | output _ hc =>
    obtain ⟨ls, hs, hc⟩ := bind_eq_ok.1 hc
    obtain ⟨c, rfl, hv⟩ := Grammar.chain_eq_ok.1 hc
    have h := c.short (some t.line) (Grammar.fits_of_scan hs hn)
    rwa [hv] at h
  | set ht hb =>
    obtain ⟨c, hc, hv⟩ := Builder.bindingHeader_eq_ok hb
    have h := c.short (some t.line) ((hfits ht).mono hc)
    rwa [hv] at h
  | test ht hc => exact hcondition ht hc
  | orTest ht hc => exact hcondition ht hc
  | _ => trivial

lemma Mark.short_of_reads {ms : List Mark} {ts : List Token} (h : List.Forall₂ Mark.Reads ms ts)
    (ht : ∀ t ∈ ts, ¬ Number.TooLong t.value.toList.length) : ∀ m ∈ ms, m.Short := by
  induction h with
  | nil => exact nofun
  | cons hr _ ih =>
    obtain ⟨hn, hts⟩ := List.forall_mem_cons.1 ht
    exact List.forall_mem_cons.2 ⟨hr.short hn, ih hts⟩

lemma Node.marks_reads {ts : List Token} {ns : List Node} (h : ofTokens ts = .ok ns) :
    List.Forall₂ Mark.Reads (marksAll ns) ts := by
  obtain ⟨b, hb, hf⟩ := bind_eq_ok.1 h
  obtain ⟨-, ms, hms, he⟩ :=
    Builder.marks_foldlM (b := Builder.empty) ⟨Nat.zero_le _, trivial, trivial⟩ hb
  rcases b with ⟨nodes, _ | ⟨o, os⟩⟩
  · cases hf
    have hm : marksAll nodes ++ [] = ms := he
    rw [List.append_nil] at hm
    rwa [hm]
  · cases hf

lemma Node.short_marks {source : String} {ns : List Node} (h : ofSource source = .ok ns)
    (hn : ¬ Number.TooLong source.toList.length) : ∀ m ∈ marksAll ns, m.Short := by
  obtain ⟨ts, hs, ht⟩ := bind_eq_ok.1 h
  exact Mark.short_of_reads (marks_reads ht) fun t htm =>
    Number.not_tooLong_of_le (Token.length_ofSource hs htm) hn

end Stencil
