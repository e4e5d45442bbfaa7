import Mathlib.Data.List.TakeWhile
import Stencil.Proofs.Cutting

/-! The tokens of a template are those of the pieces that it is made of. -/

namespace Stencil

namespace Text

def Trimmed (cs ds : List Char) : Prop :=
  ∃ u v, cs = u ++ ds ++ v ∧ (∀ c ∈ u, isBlank c) ∧ (∀ c ∈ v, isBlank c) ∧
    (∀ c, ds.head? = some c → ¬ isBlank c) ∧ ∀ c, ds.getLast? = some c → ¬ isBlank c

lemma trimRight_append {ds v : List Char} (hv : ∀ c ∈ v, isBlank c)
    (hd : ∀ c, ds.getLast? = some c → ¬ isBlank c) : trimRight (ds ++ v) = ds := by
  have hr : ∀ c ∈ v.reverse, isBlank c := by simpa using hv
  rw [trimRight]
  rw [List.reverse_append, List.dropWhile_append_of_pos hr]
  cases hl : ds.reverse with
  | nil => simpa using hl.symm
  | cons c es =>
    have hc : ds.getLast? = some c := by rw [← List.head?_reverse, hl, List.head?_cons]
    rw [List.dropWhile_cons_of_neg (hd c hc), ← hl, List.reverse_reverse]

lemma trim_append {u ds v : List Char} (hu : ∀ c ∈ u, isBlank c) (hv : ∀ c ∈ v, isBlank c)
    (hh : ∀ c, ds.head? = some c → ¬ isBlank c) (hl : ∀ c, ds.getLast? = some c → ¬ isBlank c) :
    trim (u ++ ds ++ v) = ds := by
  rw [trim, trimLeft]
  rw [List.append_assoc, List.dropWhile_append_of_pos hu]
  cases ds with
  | nil =>
    have hd := List.dropWhile_eq_nil_iff.2 hv
    rw [List.nil_append, hd]
    rfl
  | cons c ds =>
    rw [List.cons_append, List.dropWhile_cons_of_neg (hh c rfl)]
    exact trimRight_append hv hl

lemma trim_surrounded {u ds v : List Char} (hu : ∀ c ∈ u, isBlank c) (hv : ∀ c ∈ v, isBlank c)
    (hd : ∀ c ∈ ds, ¬ isBlank c) : trim (u ++ ds ++ v) = ds :=
  trim_append hu hv (fun c hc => hd c (List.mem_of_mem_head? hc)) fun c hc =>
    hd c (List.mem_of_mem_getLast? hc)

lemma trimmed_trim (cs : List Char) : Trimmed cs (trim cs) := by
  have hs := List.takeWhile_append_dropWhile (p := isBlank) (l := cs)
  have ht := List.takeWhile_append_dropWhile (p := isBlank) (l := (trimLeft cs).reverse)
  have hr : trimLeft cs = trim cs ++ ((trimLeft cs).reverse.takeWhile isBlank).reverse := by
    rw [trim, trimRight, ← List.reverse_append, ht, List.reverse_reverse]
  refine ⟨cs.takeWhile isBlank, ((trimLeft cs).reverse.takeWhile isBlank).reverse,
    ?_, ?_, ?_, ?_, ?_⟩
  · rw [List.append_assoc, ← hr]
    exact hs.symm
  · exact fun c hc => List.mem_takeWhile_imp hc
  · exact fun c hc => List.mem_takeWhile_imp (List.mem_reverse.1 hc)
  · intro c hc
    have hh : (trimLeft cs).head? = some c := by
      rw [hr, List.head?_append, hc]
      rfl
    have hn := List.head?_dropWhile_not isBlank cs
    rw [trimLeft] at hh
    rw [hh] at hn
    simpa using hn
  · intro c hc
    have hn := List.head?_dropWhile_not isBlank (trimLeft cs).reverse
    rw [trim, trimRight, List.getLast?_reverse] at hc
    rw [hc] at hn
    simpa using hn

lemma trim_eq_iff {cs ds : List Char} : trim cs = ds ↔ Trimmed cs ds := by
  constructor
  · rintro rfl
    exact trimmed_trim cs
  · rintro ⟨u, v, rfl, hu, hv, hh, hl⟩
    exact trim_append hu hv hh hl

end Text

namespace Token

/-- The tokens `ts` that pieces stand for, which come after the pieces `before`. -/
inductive Reads : List Piece → List Piece → List Token → Prop
  | nil (before) : Reads before [] []
  | text {before cs ps ts} : Reads (before ++ [.text cs]) ps ts →
      Reads before (.text cs :: ps)
        (⟨.text, String.ofList cs, 1 + (Piece.sources before).count '\n'⟩ :: ts)
  | output {before body cs ps ts} : Text.Trimmed body cs →
      Reads (before ++ [.directive .output body]) ps ts →
      Reads before (.directive .output body :: ps)
        (⟨.output, String.ofList cs, 1 + (Piece.sources before).count '\n'⟩ :: ts)
  | tag {before body cs ps ts} : Text.Trimmed body cs →
      Reads (before ++ [.directive .tag body]) ps ts →
      Reads before (.directive .tag body :: ps)
        (⟨.tag, String.ofList cs, 1 + (Piece.sources before).count '\n'⟩ :: ts)
  | comment {before body ps ts} : Reads (before ++ [.directive .comment body]) ps ts →
      Reads before (.directive .comment body :: ps) ts
  | indent {before cs ps ts} : Reads (before ++ [.indent cs]) ps ts →
      Reads before (.indent cs :: ps) ts
  | newline {before cs ps ts} : Reads (before ++ [.newline cs]) ps ts →
      Reads before (.newline cs :: ps) ts

lemma line_append (before : List Piece) (p : Piece) :
    (1 + (Piece.sources before).count '\n' : Int) + newlines p.source =
      1 + (Piece.sources (before ++ [p])).count '\n' := by
  simp [newlines, Int.add_assoc]

lemma reads_ofPieces (before ps : List Piece) :
    Reads before ps (ofPieces (1 + (Piece.sources before).count '\n') ps) := by
  induction ps generalizing before with
  | nil => exact .nil before
  | cons p ps ih =>
    have h := ih (before ++ [p])
    rw [← line_append] at h
    cases p with
    | text cs => exact .text h
    | indent cs => exact .indent h
    | newline cs => exact .newline h
    | directive d body =>
      cases d with
      | output => exact .output (Text.trimmed_trim body) h
      | tag => exact .tag (Text.trimmed_trim body) h
      | comment => exact .comment h

lemma eq_ofPieces {before ps : List Piece} {ts : List Token} (h : Reads before ps ts) :
    ts = ofPieces (1 + (Piece.sources before).count '\n') ps := by
  induction h with
  | nil => rfl
  | text _ ih =>
    rw [ofPieces, line_append, ← ih]
    rfl
  | output ht _ ih =>
    rw [ofPieces, line_append, ← ih, ← Text.trim_eq_iff.2 ht]
    rfl
  | tag ht _ ih =>
    rw [ofPieces, line_append, ← ih, ← Text.trim_eq_iff.2 ht]
    rfl
  | comment _ ih =>
    rw [ofPieces, line_append, ← ih]
    rfl
  | indent _ ih =>
    rw [ofPieces, line_append, ← ih]
    rfl
  | newline _ ih =>
    rw [ofPieces, line_append, ← ih]
    rfl

lemma reads_iff {ps : List Piece} {ts : List Token} : Reads [] ps ts ↔ ts = ofPieces 1 ps := by
  constructor
  · exact eq_ofPieces
  · rintro rfl
    exact reads_ofPieces [] ps

lemma of_mem_ofPieces {line : Int} {ps : List Piece} {t : Token} (h : t ∈ ofPieces line ps) :
    ∃ n, ∃ p ∈ ps, ofPiece? n p = some t := by
  induction ps generalizing line with
  | nil => cases h
  | cons p ps ih =>
    rw [ofPieces] at h
    rcases List.mem_append.1 h with h | h
    · exact ⟨line, p, List.mem_cons_self, Option.mem_toList.1 h⟩
    · obtain ⟨n, q, hq, ht⟩ := ih h
      exact ⟨n, q, List.mem_cons_of_mem p hq, ht⟩

lemma ofSource_ok {source : String} {ts : List Token} :
    ofSource source = .ok ts ↔
      ∃ ps, Cut.ofSource source.toList = ⟨ps, none⟩ ∧ ts = ofPieces 1 ps := by
  rw [ofSource]
  rcases Cut.ofSource source.toList with ⟨ps, _ | d⟩
  · constructor
    · intro h
      cases h
      exact ⟨ps, rfl, rfl⟩
    · rintro ⟨qs, hq, rfl⟩
      cases hq
      rfl
  · constructor
    · intro h
      cases h
    · rintro ⟨qs, hq, -⟩
      cases hq

lemma ofSource_eq_error {source : String} {e : ReadError} (h : ofSource source = .error e) :
    ∃ ps d, Cut.ofSource source.toList = ⟨ps, some d⟩ ∧
      e = .malformed (.unterminated d) (some (lineAfter 1 ps)) := by
  rw [ofSource] at h
  rcases hc : Cut.ofSource source.toList with ⟨ps, _ | d⟩
  · rw [hc] at h
    cases h
  · rw [hc] at h
    cases h
    exact ⟨ps, d, rfl, rfl⟩

theorem ofSource_eq_ok_iff (source : String) (ts : List Token) :
    ofSource source = .ok ts ↔
      ∃ ps, Piece.sources ps = source.toList ∧ Piece.LaidOut [] ps ∧ Reads [] ps ts := by
  rw [ofSource_ok]
  constructor
  · rintro ⟨ps, hc, ht⟩
    obtain ⟨hl, hs⟩ := Cut.ofSource_eq_iff.1 hc
    exact ⟨ps, hs, hl, reads_iff.2 ht⟩
  · rintro ⟨ps, hs, hl, ht⟩
    exact ⟨ps, Cut.ofSource_eq_iff.2 ⟨hl, hs⟩, reads_iff.1 ht⟩

end Token

end Stencil
