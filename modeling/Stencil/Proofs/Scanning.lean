import Mathlib.Logic.Basic
import Stencil.Proofs.Closing

/-! How a template is cut, one step at a time. -/

namespace Stencil

namespace Delimiter

lemma opening_append (d : Delimiter) (cs : List Char) : d.opening ++ cs = '{' :: d.opener :: cs :=
  rfl

lemma ofOpener?_eq_some_iff {c : Char} {d : Delimiter} : ofOpener? c = some d ↔ c = d.opener := by
  constructor
  · intro h
    have hd := List.find?_some h
    exact (beq_iff_eq.1 hd).symm
  · rintro rfl
    cases d <;> rfl

end Delimiter

def Skips (cs : List Char) : Prop :=
  ∀ d v, cs = Delimiter.opening d ++ v → d = .comment ∧ ¬ d.closing <:+: v

namespace Cut

lemma after_nil (fresh : Bool) (run : List Char) : after fresh run [] = ⟨Piece.ofRun run, none⟩ := by
  rw [after]

lemma after_of_ne {c : Char} (fresh : Bool) (run cs : List Char) (hc : c ≠ '{') :
    after fresh run (c :: cs) = after fresh (c :: run) cs := by
  cases cs with
  | nil => rw [after_nil, after]
  | cons m cs => rw [after, if_neg hc]

lemma after_opening (d : Delimiter) (fresh : Bool) (run cs : List Char) :
    after fresh run (d.opening ++ cs) =
      match d.cut? none cs with
      | none =>
        if d = .comment then after fresh (d.opener :: '{' :: run) cs else ⟨Piece.ofRun run, some d⟩
      | some (body, rest) =>
        if d = .output then
          (after false [] rest).prepend (Piece.ofRun run ++ [.directive d body])
        else
          (after (!(Piece.cutNewline rest).1.isEmpty) [] (Piece.cutNewline rest).2).prepend
            (Piece.ofRunBefore fresh run ++
              .directive d body :: Piece.ofNewline (Piece.cutNewline rest).1) := by
  rw [Delimiter.opening_append, after, if_pos rfl]
  split
  · rename_i hn
    rw [Delimiter.ofOpener?_eq_some_iff.2 rfl] at hn
    cases hn
  · rename_i d' hd'
    cases hd'.symm.trans (Delimiter.ofOpener?_eq_some_iff.2 rfl)
    split
    · rename_i hnone
      rw [hnone]
    · rename_i hsome
      simp only [hsome]

lemma after_cons {c : Char} {cs : List Char} (fresh : Bool) (run : List Char)
    (h : Skips (c :: cs)) : after fresh run (c :: cs) = after fresh (c :: run) cs := by
  by_cases hc : c = '{'
  · subst hc
    cases cs with
    | nil => rw [after_nil, after]
    | cons m cs =>
      cases hm : Delimiter.ofOpener? m with
      | none => rw [after, if_pos rfl, hm]
      | some d =>
        obtain rfl := Delimiter.ofOpener?_eq_some_iff.1 hm
        obtain ⟨rfl, hn⟩ := h d cs rfl
        rw [← Delimiter.opening_append, after_opening, Delimiter.cut?_comment_eq_none_iff.2 hn]
        exact (after_of_ne _ _ _ (by decide)).symm
  · exact after_of_ne fresh run cs hc

lemma after_unterminated {d : Delimiter} {cs : List Char} (fresh : Bool) (run : List Char)
    (hd : d ≠ .comment) (h : d.cut? none cs = none) :
    after fresh run (d.opening ++ cs) = ⟨Piece.ofRun run, some d⟩ := by
  rw [after_opening, h]
  exact if_neg hd

lemma after_output {body : List Char} (fresh : Bool) (run rest : List Char)
    (h : Delimiter.output.Closes body) :
    after fresh run (Delimiter.output.opening ++ (body ++ (Delimiter.output.closing ++ rest))) =
      (after false [] rest).prepend (Piece.ofRun run ++ [.directive .output body]) := by
  rw [after_opening, Delimiter.cut?_append none rest h]
  rfl

lemma after_block {d : Delimiter} {body : List Char} (fresh : Bool) (run rest : List Char)
    (hd : d ≠ .output) (h : d.Closes body) :
    after fresh run (d.opening ++ (body ++ (d.closing ++ rest))) =
      (after (!(Piece.cutNewline rest).1.isEmpty) [] (Piece.cutNewline rest).2).prepend
        (Piece.ofRunBefore fresh run ++
          .directive d body :: Piece.ofNewline (Piece.cutNewline rest).1) := by
  rw [after_opening, Delimiter.cut?_append none rest h]
  exact if_neg hd

inductive Next : List Char → Prop
  | done : Next []
  | text {c cs} : Skips (c :: cs) → Next (c :: cs)
  | unterminated {d cs} : d ≠ Delimiter.comment → d.cut? none cs = none → Next (d.opening ++ cs)
  | directive {d body rest} : Delimiter.Closes d body →
      Next (d.opening ++ (body ++ (d.closing ++ rest)))

lemma next (cs : List Char) : Next cs := by
  by_cases h : Skips cs
  · cases cs with
    | nil => exact .done
    | cons c cs => exact .text h
  · simp only [Skips, not_forall] at h
    obtain ⟨d, v, rfl, h⟩ := h
    cases hcut : d.cut? none v with
    | none =>
      refine .unterminated ?_ hcut
      rintro rfl
      exact h ⟨rfl, Delimiter.cut?_comment_eq_none_iff.1 hcut⟩
    | some r =>
      obtain ⟨hv, hc⟩ := Delimiter.cut?_eq_some_iff.1 hcut
      rw [hv, List.append_assoc]
      exact .directive hc

inductive Steps : Bool → List Char → List Char → Cut → Prop
  | done {fresh run} : Steps fresh run [] ⟨Piece.ofRun run, none⟩
  | text {fresh run c cs k} : Skips (c :: cs) → Steps fresh (c :: run) cs k →
      Steps fresh run (c :: cs) k
  | unterminated {fresh run d cs} : d ≠ Delimiter.comment → d.cut? none cs = none →
      Steps fresh run (d.opening ++ cs) ⟨Piece.ofRun run, some d⟩
  | output {fresh run body rest k} : Delimiter.output.Closes body → Steps false [] rest k →
      Steps fresh run
        (Delimiter.output.opening ++ (body ++ (Delimiter.output.closing ++ rest)))
        (k.prepend (Piece.ofRun run ++ [.directive .output body]))
  | block {fresh run d body rest k} : d ≠ Delimiter.output → d.Closes body →
      Steps (!(Piece.cutNewline rest).1.isEmpty) [] (Piece.cutNewline rest).2 k →
      Steps fresh run (d.opening ++ (body ++ (d.closing ++ rest)))
        (k.prepend (Piece.ofRunBefore fresh run ++
          .directive d body :: Piece.ofNewline (Piece.cutNewline rest).1))

lemma length_lt_directive (d : Delimiter) (body rest : List Char) :
    rest.length < (d.opening ++ (body ++ (d.closing ++ rest))).length := by
  simp [Delimiter.opening, Delimiter.closing]
  omega

lemma length_cutNewline_le (cs : List Char) : (Piece.cutNewline cs).2.length ≤ cs.length := by
  have h := congrArg List.length (Piece.cutNewline_append cs)
  rw [List.length_append] at h
  omega

lemma steps_after (fresh : Bool) (run cs : List Char) :
    Steps fresh run cs (after fresh run cs) := by
  -- A directive goes with all its characters, so the induction is on the length of what is left.
  induction hn : cs.length using Nat.strongRecOn generalizing fresh run cs with
  | _ n ih =>
    cases next cs with
    | done =>
      rw [after_nil]
      exact .done
    | @text c cs hs =>
      rw [after_cons _ _ hs]
      exact .text hs (ih cs.length (by simp [← hn]) fresh (c :: run) cs rfl)
    | unterminated hd hc =>
      rw [after_unterminated _ _ hd hc]
      exact .unterminated hd hc
    | @directive d body rest hc =>
      have hlt : rest.length < n := hn ▸ length_lt_directive d body rest
      by_cases hd : d = .output
      · subst hd
        rw [after_output _ _ _ hc]
        exact .output hc (ih rest.length hlt false [] rest rfl)
      · rw [after_block _ _ _ hd hc]
        have hl := Nat.lt_of_le_of_lt (length_cutNewline_le rest) hlt
        exact .block hd hc (ih (Piece.cutNewline rest).2.length hl _ [] _ rfl)

end Cut

end Stencil
