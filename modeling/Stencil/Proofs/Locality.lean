import Stencil.Proofs.Readers

/-! The readers of expressions one after the other on a row of lexemes: each goes forward in it, and
what it does depends on nothing but the lexemes that it takes and the next one. -/

namespace Stencil

inductive Reader
  | next
  | accept (s : String)
  | expectPunct (s : String)
  | expectName (s : String)
  | expectEnd
  | identifier
  | path
  | literal
  | operand
  | filterCall
  | chain
  | condition

namespace Reader

inductive Found
  | lexeme (l : Option Lexeme)
  | accepted (b : Bool)
  | nothing
  | name (s : String)
  | path (p : Path)
  | value (v : Value)
  | expr (e : Expr)
  | call (c : FilterCall)
  | chain (e : Expr) (calls : List FilterCall)

variable (line : Option Int)

def read : Reader → List Lexeme → Reading Found
  | .next, ls => .found (.lexeme (Reading.next ls).1) (Reading.next ls).2
  | .accept s, ls =>
    match Reading.accept? s ls with
    | some ls => .found (.accepted true) ls
    | none => .found (.accepted false) ls
  | .expectPunct s, ls => (Reading.expectPunct line s ls).map fun _ => .nothing
  | .expectName s, ls => (Reading.expectName line s ls).map fun _ => .nothing
  | .expectEnd, ls => (Reading.expectEnd line ls).map fun _ => .nothing
  | .identifier, ls => (Reading.identifier line ls).map .name
  | .path, ls => (Reading.path line ls).map .path
  | .literal, ls => (Reading.literal line ls).map .value
  | .operand, ls => (Reading.operand line ls).map .expr
  | .filterCall, ls => (Reading.filterCall line ls).map .call
  | .chain, ls => (Reading.chain line ls).map fun c => .chain c.1 c.2
  | .condition, ls => (Reading.condition line ls).map .expr

/-- The lexemes that readers leave of a row. One that fails leaves those from where it stopped. -/
def left (row : List Lexeme) (rs : List Reader) : List Lexeme :=
  rs.foldl (fun ls r => (r.read line ls).rest) row

def position (row : List Lexeme) (rs : List Reader) : Nat :=
  row.length - (left line row rs).length

end Reader

namespace Reading

variable {α β : Type} {r : List Lexeme → Reading α} {ls : List Lexeme}

def LocalAt (r : List Lexeme → Reading α) (ls : List Lexeme) : Prop :=
  ∃ used, ls = used ++ (r ls).rest ∧
    ∀ ms, ms.head? = (r ls).rest.head? → r (used ++ ms) = ⟨(r ls).outcome, ms⟩

lemma LocalAt.suffix (h : LocalAt r ls) : (r ls).rest <:+ ls := by
  obtain ⟨used, hl, -⟩ := h
  exact ⟨used, hl.symm⟩

lemma LocalAt.congr {q : List Lexeme → Reading α} (h : LocalAt q ls)
    (hr : ∀ ms, ms.head? = ls.head? → r ms = q ms) : LocalAt r ls := by
  obtain ⟨used, hl, hu⟩ := h
  rw [LocalAt, hr ls rfl]
  refine ⟨used, hl, fun ms hm => ?_⟩
  have hh : (used ++ ms).head? = ls.head? := by
    rw [hl, List.head?_append, List.head?_append, hm]
  rw [hr _ hh, hu ms hm]

lemma LocalAt.of_head {q : List Lexeme → Reading α} {l : Lexeme} (h : LocalAt q (l :: ls))
    (hr : ∀ ms, r (l :: ms) = q (l :: ms)) : LocalAt r (l :: ls) := by
  refine h.congr fun ms hm => ?_
  obtain ⟨ms, rfl⟩ := List.head?_eq_some_iff.1 hm
  exact hr ms

lemma localAt_const (x : Except ReadError α) (ls : List Lexeme) : LocalAt (fun ms => ⟨x, ms⟩) ls :=
  ⟨[], rfl, fun _ _ => rfl⟩

lemma localAt_refuse {l : Lexeme} {x : Except ReadError α} (h : ∀ ms, r (l :: ms) = ⟨x, l :: ms⟩) :
    LocalAt r (l :: ls) :=
  (localAt_const x _).of_head h

lemma localAt_nil (h : (r []).rest = []) : LocalAt r [] := by
  refine ⟨[], h.symm, fun ms hm => ?_⟩
  rw [h] at hm
  obtain rfl := List.head?_eq_none_iff.1 hm
  calc r [] = ⟨(r []).outcome, (r []).rest⟩ := rfl
    _ = ⟨(r []).outcome, []⟩ := by rw [h]

lemma localAt_cons {l : Lexeme} (h : LocalAt (fun ms => r (l :: ms)) ls) : LocalAt r (l :: ls) := by
  obtain ⟨used, hl, hu⟩ := h
  exact ⟨l :: used, congrArg (l :: ·) hl, hu⟩

lemma LocalAt.andThen {k : α → List Lexeme → Reading β} (hr : LocalAt r ls)
    (hk : ∀ a, LocalAt (k a) (r ls).rest) : LocalAt (fun ms => (r ms).andThen k) ls := by
  obtain ⟨used, hl, hu⟩ := hr
  cases ho : (r ls).outcome with
  | error e =>
    have he : (r ls).andThen k = ⟨.error e, (r ls).rest⟩ := by rw [Reading.andThen, ho]
    simp only [LocalAt, he]
    refine ⟨used, hl, fun ms hm => ?_⟩
    rw [hu ms hm, Reading.andThen, ho]
  | ok a =>
    have he : (r ls).andThen k = k a (r ls).rest := by rw [Reading.andThen, ho]
    obtain ⟨used', hl', hu'⟩ := hk a
    simp only [LocalAt, he]
    refine ⟨used ++ used', by rw [List.append_assoc, ← hl', ← hl], fun ms hm => ?_⟩
    have hh : (used' ++ ms).head? = (r ls).rest.head? := by
      rw [hl', List.head?_append, List.head?_append, hm]
    rw [List.append_assoc, hu _ hh, Reading.andThen, ho]
    exact hu' ms hm

lemma LocalAt.map (h : LocalAt r ls) (f : α → β) : LocalAt (fun ms => (r ms).map f) ls := by
  obtain ⟨used, hl, hu⟩ := h
  exact ⟨used, hl, fun ms hm => congrArg (Reading.map f) (hu ms hm)⟩

lemma accept?_of_head {s : String} {ms : List Lexeme} (h : ms.head? = ls.head?)
    (hn : accept? s ls = none) : accept? s ms = none := by
  cases ls with
  | nil =>
    rw [List.head?_eq_none_iff.1 h]
    rfl
  | cons l ls =>
    obtain ⟨ms, rfl⟩ := List.head?_eq_some_iff.1 h
    cases l <;> simp_all [accept?]

lemma exists_punct_of_accept? {s : String} {rest : List Lexeme} (h : accept? s ls = some rest) :
    ∃ l, ls = l :: rest ∧ ∀ ms, accept? s (l :: ms) = some ms := by
  unfold accept? at h
  split at h
  · split at h
    · rename_i c ms hc
      cases h
      exact ⟨.punct c, rfl, fun ms => if_pos hc⟩
    · cases h
  · cases h

lemma localAt_accept {s : String} {f g : List Lexeme → Reading α}
    (hs : ∀ ms, r ms = match accept? s ms with
      | some ms => f ms
      | none => g ms)
    (hf : ∀ rest, LocalAt f rest) (hg : LocalAt g ls) : LocalAt r ls := by
  cases ha : accept? s ls with
  | some rest =>
    obtain ⟨l, rfl, hl⟩ := exists_punct_of_accept? ha
    exact localAt_cons ((hf rest).congr fun ms _ => by rw [hs, hl])
  | none => exact hg.congr fun ms hm => by rw [hs, accept?_of_head hm ha]

lemma localAt_many {c : Char} {item : List Lexeme → Reading α}
    {many : List Lexeme → Reading (List α)} (hi : ∀ ls, LocalAt item ls)
    (hc : ∀ ls, many (.punct c :: ls) = (item ls).andThen fun a ls => (many ls).map (a :: ·))
    (hs : ∀ ls, ls.head? ≠ some (.punct c) → many ls = found [] ls) (ls : List Lexeme) :
    LocalAt many ls := by
  induction hn : ls.length using Nat.strongRecOn generalizing ls with
  | _ n ih =>
    by_cases hl : ls.head? = some (.punct c)
    · obtain ⟨ls, rfl⟩ := List.head?_eq_some_iff.1 hl
      have hlt : (item ls).rest.length < n := by
        have h := (hi ls).suffix.length_le
        rw [List.length_cons] at hn
        omega
      refine localAt_cons ?_
      simp only [hc]
      exact (hi ls).andThen fun a => (ih _ hlt _ rfl).map _
    · exact (localAt_const (.ok []) ls).congr fun ms hm => hs ms (by rwa [hm])

variable (line : Option Int) (ls : List Lexeme)

lemma localAt_identifier : LocalAt (identifier line) ls := by
  cases ls with
  | nil => exact localAt_nil rfl
  | cons l ls =>
    apply localAt_cons
    cases l with
    | name s =>
      by_cases hs : (literalWord? s).isSome
      · simp only [identifier, if_pos hs]
        exact localAt_const _ ls
      · simp only [identifier, if_neg hs]
        exact localAt_const _ ls
    | _ => exact localAt_const _ ls

lemma localAt_expectName (s : String) : LocalAt (expectName line s) ls := by
  cases ls with
  | nil => exact localAt_nil rfl
  | cons l ls =>
    apply localAt_cons
    cases l with
    | name t =>
      by_cases hs : t = s
      · simp only [expectName, if_pos hs]
        exact localAt_const _ ls
      · simp only [expectName, if_neg hs]
        exact localAt_const _ ls
    | _ => exact localAt_const _ ls

lemma localAt_expectPunct (s : String) : LocalAt (expectPunct line s) ls :=
  localAt_accept (fun _ => rfl) (localAt_const _)
    ((localAt_const _ ls).congr fun ms hm => by rw [hm]; rfl)

lemma localAt_expectEnd : LocalAt (expectEnd line) ls := by
  cases ls with
  | nil => exact localAt_nil rfl
  | cons l ls => exact localAt_refuse fun _ => rfl

section

variable {line ls}

lemma localAt_property (hs : ∀ ms, ms.length ≤ ls.length → LocalAt (steps line) ms) :
    LocalAt (fun ms => steps line (.punct '.' :: ms)) ls := by
  cases ls with
  | nil => exact localAt_nil rfl
  | cons l ls =>
    apply localAt_cons
    cases l with
    | name s =>
      simp only [steps]
      exact (hs ls (Nat.le_succ _)).map _
    | _ => exact localAt_const _ ls

lemma localAt_closing (s : Segment)
    (hs : ∀ ms, ms.length ≤ ls.length → LocalAt (steps line) ms) :
    LocalAt (fun ms => match ms with
      | .punct ']' :: ms => (steps line ms).map (s :: ·)
      | ms => failed line (.expected (.text "]") ms.head?) ms) ls := by
  by_cases hl : ls.head? = some (.punct ']')
  · obtain ⟨ls, rfl⟩ := List.head?_eq_some_iff.1 hl
    exact localAt_cons ((hs ls (Nat.le_succ _)).map _)
  · refine (localAt_const (.error (.malformed (.expected (.text "]") ls.head?) line)) ls).congr ?_
    intro ms hm
    rw [← hm] at hl ⊢
    split
    · exact (hl rfl).elim
    · rfl

lemma localAt_bracket (hs : ∀ ms, ms.length ≤ ls.length → LocalAt (steps line) ms) :
    LocalAt (fun ms => steps line (.punct '[' :: ms)) ls := by
  cases ls with
  | nil => exact localAt_nil rfl
  | cons l ls =>
    apply localAt_cons
    cases hb : bracketed? l with
    | none =>
      simp only [steps, hb]
      exact localAt_const _ ls
    | some x =>
      cases x with
      | error e =>
        simp only [steps, hb]
        exact localAt_const _ ls
      | ok s =>
        simp only [steps, hb]
        exact localAt_closing s fun ms hm => hs ms (Nat.le_succ_of_le hm)

end

lemma localAt_steps : LocalAt (steps line) ls := by
  induction hn : ls.length using Nat.strongRecOn generalizing ls with
  | _ n ih =>
    by_cases hp : ls.head? = some (.punct '.')
    · obtain ⟨ls, rfl⟩ := List.head?_eq_some_iff.1 hp
      refine localAt_cons (localAt_property fun ms hm => ?_)
      exact ih _ (by simp only [← hn, List.length_cons]; omega) ms rfl
    by_cases hb : ls.head? = some (.punct '[')
    · obtain ⟨ls, rfl⟩ := List.head?_eq_some_iff.1 hb
      refine localAt_cons (localAt_bracket fun ms hm => ?_)
      exact ih _ (by simp only [← hn, List.length_cons]; omega) ms rfl
    · refine (localAt_const (.ok []) ls).congr fun ms hm => ?_
      exact steps_of_head line (by rwa [hm]) (by rwa [hm])

lemma localAt_path : LocalAt (path line) ls :=
  (localAt_identifier line ls).andThen fun _ => (localAt_steps line _).map _

lemma localAt_literal : LocalAt (literal line) ls := by
  cases ls with
  | nil => exact localAt_nil rfl
  | cons l ls =>
    apply localAt_cons
    cases l with
    | number n =>
      cases hn : n.value with
      | ok x =>
        simp only [literal, hn]
        exact localAt_const _ ls
      | error e =>
        simp only [literal, hn]
        exact localAt_const _ ls
    | name s =>
      cases hs : literalWord? s with
      | some v =>
        simp only [literal, hs]
        exact localAt_const _ ls
      | none =>
        simp only [literal, hs]
        exact localAt_const _ ls
    | _ => exact localAt_const _ ls

lemma localAt_operand : LocalAt (operand line) ls := by
  cases ls with
  | nil => exact localAt_nil rfl
  | cons l ls =>
    cases l with
    | quoted q body => exact ((localAt_literal line _).map _).of_head fun _ => rfl
    | number n => exact ((localAt_literal line _).map _).of_head fun _ => rfl
    | name s =>
      by_cases hw : (literalWord? s).isSome
      · exact ((localAt_literal line _).map _).of_head fun _ => if_pos hw
      by_cases hs : s ∈ reserved
      · have hf : ∀ ms, operand line (.name s :: ms) =
            ⟨.error (.malformed (.unexpected (.name s)) line), .name s :: ms⟩ := by
          intro ms
          rw [operand, if_neg hw, if_pos hs, failed]
        exact localAt_refuse hf
      · refine ((localAt_path line _).map .path).of_head fun ms => ?_
        rw [operand, if_neg hw, if_neg hs]
    | _ =>
      have hf : ∀ l ms, failed line (.expected .value (some l)) (l :: ms) =
          (⟨.error (.malformed (.expected .value (some l)) line), l :: ms⟩ : Reading Expr) :=
        fun _ _ => rfl
      exact localAt_refuse (hf _)

lemma localAt_moreArguments : LocalAt (moreArguments line) ls :=
  localAt_many (localAt_operand line) (moreArguments_comma line) (moreArguments_of_head line) ls

lemma localAt_arguments : LocalAt (arguments line) ls := by
  refine localAt_accept (fun _ => rfl) (localAt_const _) ?_
  refine (localAt_operand line ls).andThen fun e => ?_
  exact (localAt_moreArguments line _).andThen fun es => (localAt_expectPunct line _ ")").map _

lemma localAt_filterCall : LocalAt (filterCall line) ls :=
  (localAt_identifier line ls).andThen fun _ =>
    localAt_accept (fun _ => rfl) (fun _ => (localAt_arguments line _).map _) (localAt_const _ _)

lemma localAt_filterCalls : LocalAt (filterCalls line) ls :=
  localAt_many (localAt_filterCall line) (filterCalls_bar line) (filterCalls_of_head line) ls

lemma localAt_chain : LocalAt (chain line) ls := by
  cases ls with
  | nil => exact localAt_nil rfl
  | cons l ls =>
    have hc := (localAt_operand line (l :: ls)).andThen fun e =>
      (localAt_filterCalls line _).map fun fs => (e, fs)
    exact hc.of_head fun _ => rfl

lemma localAt_comparison (left : Expr) : LocalAt (comparison line left) ls := by
  cases ls with
  | nil => exact localAt_nil rfl
  | cons l ls =>
    cases l with
    | op c => exact localAt_cons ((localAt_operand line ls).map _)
    | _ => exact localAt_refuse fun _ => rfl

lemma localAt_condition : LocalAt (condition line) ls := by
  cases ls with
  | nil => exact localAt_nil rfl
  | cons l ls =>
    by_cases hl : l = .name "not"
    · subst hl
      exact localAt_cons ((localAt_operand line ls).map _)
    · have hc := (localAt_operand line (l :: ls)).andThen (localAt_comparison line _)
      refine hc.of_head fun ms => ?_
      rw [condition]
      · rfl
      · exact hl

end Reading

namespace Reader

open Reading

lemma localAt_read (line : Option Int) (r : Reader) (ls : List Lexeme) :
    LocalAt (r.read line) ls := by
  cases r with
  | next =>
    cases ls with
    | nil => exact localAt_nil rfl
    | cons l ls => exact localAt_cons (localAt_const _ ls)
  | accept s => exact localAt_accept (fun _ => rfl) (localAt_const _) (localAt_const _ ls)
  | expectPunct s => exact (localAt_expectPunct line ls s).map _
  | expectName s => exact (localAt_expectName line ls s).map _
  | expectEnd => exact (localAt_expectEnd line ls).map _
  | identifier => exact (localAt_identifier line ls).map _
  | path => exact (localAt_path line ls).map _
  | literal => exact (localAt_literal line ls).map _
  | operand => exact (localAt_operand line ls).map _
  | filterCall => exact (localAt_filterCall line ls).map _
  | chain => exact (localAt_chain line ls).map _
  | condition => exact (localAt_condition line ls).map _

variable (line : Option Int) (row : List Lexeme) (rs : List Reader)

lemma left_append (qs : List Reader) :
    left line row (rs ++ qs) = left line (left line row rs) qs :=
  List.foldl_append

lemma left_suffix : left line row rs <:+ row := by
  induction rs generalizing row with
  | nil => exact List.suffix_refl row
  | cons r rs ih => exact (ih _).trans (localAt_read line r row).suffix

lemma left_eq_drop : left line row rs = row.drop (position line row rs) :=
  List.suffix_iff_eq_drop.1 (left_suffix line row rs)

lemma position_le_length : position line row rs ≤ row.length :=
  Nat.sub_le _ _

lemma position_mono (qs : List Reader) : position line row rs ≤ position line row (rs ++ qs) := by
  have h := (left_suffix line (left line row rs) qs).length_le
  rw [← left_append] at h
  exact Nat.sub_le_sub_left h _

lemma read_left (r : Reader) : (r.read line (left line row rs)).rest = left line row (rs ++ [r]) :=
  (left_append line row rs [r]).symm

/-- Two rows agree in the places from `i` to `j`; where one ends there, so does the other. -/
def AgreeOn (i j : Nat) (row other : List Lexeme) : Prop :=
  ∀ k, i ≤ k → k ≤ j → other[k]? = row[k]?

lemma drop_eq_append {i j : Nat} (h : i ≤ j) (row : List Lexeme) :
    row.drop i = (row.drop i).take (j - i) ++ row.drop j := by
  have hd : (row.drop i).drop (j - i) = row.drop j := by
    rw [List.drop_drop, Nat.add_sub_cancel' h]
  rw [← hd, List.take_append_drop]

variable {row}

lemma AgreeOn.take_drop {i j : Nat} {other : List Lexeme} (h : AgreeOn i j row other) :
    (other.drop i).take (j - i) = (row.drop i).take (j - i) := by
  refine List.ext_getElem? fun n => ?_
  simp only [List.getElem?_take, List.getElem?_drop]
  split
  · exact h (i + n) (by omega) (by omega)
  · rfl

lemma AgreeOn.head?_drop {i j : Nat} {other : List Lexeme} (h : AgreeOn i j row other)
    (hij : i ≤ j) : (other.drop j).head? = (row.drop j).head? := by
  rw [List.head?_drop, List.head?_drop]
  exact h j hij (Nat.le_refl j)

variable (row)

/-- After any calls the readers stand at a place of the row, and the next one goes on to a place not
before it. It would find the same, or fail alike, and stop at the same place, in every other row
that agrees with this one between the two places and in the lexeme at the second. -/
theorem read_local (before : List Reader) (r : Reader) :
    let i := position line row before
    let j := position line row (before ++ [r])
    i ≤ j ∧ j ≤ row.length ∧ left line row before = row.drop i ∧
      left line row (before ++ [r]) = row.drop j ∧
      ∀ other, AgreeOn i j row other →
        r.read line (other.drop i) = ⟨(r.read line (row.drop i)).outcome, other.drop j⟩ := by
  intro i j
  have hij : i ≤ j := position_mono line row before [r]
  have hi := left_eq_drop line row before
  have hj := left_eq_drop line row (before ++ [r])
  refine ⟨hij, position_le_length line row _, hi, hj, fun other h => ?_⟩
  obtain ⟨used, hused, hlocal⟩ := localAt_read line r (row.drop i)
  have hrest : (r.read line (row.drop i)).rest = row.drop j := by rw [← hi, read_left, hj]
  rw [hrest] at hused hlocal
  obtain rfl : (row.drop i).take (j - i) = used :=
    List.append_cancel_right ((drop_eq_append hij row).symm.trans hused)
  have hother := hlocal (other.drop j) (h.head?_drop hij)
  rwa [← h.take_drop, ← drop_eq_append hij other] at hother

theorem read_local_unclosed_index :
    let row : List Lexeme := [.punct '|', .name "x", .punct '[', .quoted '"' ['a'], .name "y"]
    let other : List Lexeme :=
      [.op .lt, .name "x", .punct '[', .quoted '"' ['a'], .name "y", .punct ']']
    position none row [.accept "|"] = 1 ∧ position none row [.accept "|", .path] = 4 ∧
      AgreeOn 1 4 row other ∧
      Reader.path.read none (other.drop 1) =
        ⟨.error (.malformed (.expected (.text "]") (some (.name "y"))) none), other.drop 4⟩ := by
  intro row other
  have ha : AgreeOn 1 4 row other := by
    have hall : ∀ k ≤ 4, 1 ≤ k → other[k]? = row[k]? := by decide
    exact fun k h1 h4 => hall k h4 h1
  obtain ⟨-, -, -, -, h⟩ := read_local none row [.accept "|"] .path
  exact ⟨rfl, rfl, ha, h other ha⟩

end Reader

end Stencil
