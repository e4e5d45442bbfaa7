import Mathlib.Data.List.Basic
import Stencil.Proofs.Scanning
import Stencil.Token

/-! The pieces of a template, and what must hold of each between the pieces around it. -/

namespace Stencil

namespace Piece

def sources (ps : List Piece) : List Char :=
  ps.flatMap source

def lastLine (cs : List Char) : List Char :=
  (cs.reverse.takeWhile (· != '\n')).reverse

def indentation (cs : List Char) : List Char :=
  if (lastLine cs).all isIndent then lastLine cs else []

def droppedIndent (before : List Piece) : List Char :=
  match before.getLast? with
  | some (.indent cs) => cs
  | _ => []

/-- What holds of a piece between those before it and those after it. No directive opens in a text,
a directive ends where it first can, indentation is dropped before tags and comments alone and
then all of it, and so is one newline after them. -/
def Placed (before : List Piece) : Piece → List Piece → Prop
  | .text cs, after =>
    cs ≠ [] ∧ (∀ ds, after.head? ≠ some (.text ds)) ∧
      ∀ u v, cs = u ++ v → v ≠ [] → Skips (v ++ sources after)
  | .directive d body, after =>
    d.Closes body ∧ (d ≠ .output →
      droppedIndent before = indentation (sources before) ∧
      ∀ cs, after.head? = some (.newline cs) ↔
        (cs = ['\n'] ∨ cs = ['\r', '\n']) ∧ cs <+: sources after)
  | .indent cs, after =>
    cs ≠ [] ∧ ∃ d body, d ≠ Delimiter.output ∧ after.head? = some (.directive d body)
  | .newline _, _ =>
    ∃ d body, d ≠ Delimiter.output ∧ before.getLast? = some (.directive d body)

def LaidOut (before ps : List Piece) : Prop :=
  ∀ u p v, ps = u ++ p :: v → Placed (before ++ u) p v

@[simp] lemma sources_nil : sources [] = [] := rfl

@[simp] lemma sources_cons (p : Piece) (ps : List Piece) :
    sources (p :: ps) = p.source ++ sources ps := rfl

@[simp] lemma sources_append (ps qs : List Piece) :
    sources (ps ++ qs) = sources ps ++ sources qs :=
  List.flatMap_append

lemma laidOut_nil (before : List Piece) : LaidOut before [] := by
  intro u p v h
  simp at h

lemma laidOut_cons {before ps : List Piece} {p : Piece} :
    LaidOut before (p :: ps) ↔ Placed before p ps ∧ LaidOut (before ++ [p]) ps := by
  constructor
  · intro h
    refine ⟨by simpa using h [] p ps rfl, ?_⟩
    rintro u q v rfl
    simpa using h (p :: u) q v rfl
  · rintro ⟨hp, h⟩ u q v hu
    cases u with
    | nil =>
      cases hu
      simpa using hp
    | cons a u =>
      cases hu
      simpa using h u q v rfl

lemma laidOut_append {before ps qs : List Piece} (h : LaidOut before (ps ++ qs)) :
    LaidOut (before ++ ps) qs := by
  rintro u p v rfl
  simpa using h (ps ++ u) p v (by simp)

lemma indentation_all (cs : List Char) : (indentation cs).all isIndent := by
  rw [indentation]
  split
  · assumption
  · rfl

def Plain (cs rest : List Char) : Prop :=
  ∀ u v, cs = u ++ v → v ≠ [] → Skips (v ++ rest)

lemma plain_nil (rest : List Char) : Plain [] rest := by
  intro u v h hv
  exact (hv (List.append_eq_nil_iff.1 h.symm).2).elim

lemma plain_cons {c : Char} {cs rest : List Char} :
    Plain (c :: cs) rest ↔ Skips (c :: (cs ++ rest)) ∧ Plain cs rest := by
  constructor
  · intro h
    refine ⟨h [] (c :: cs) rfl (by simp), ?_⟩
    rintro u v rfl hv
    exact h (c :: u) v rfl hv
  · rintro ⟨hs, h⟩ u v hu hv
    cases u with
    | nil =>
      cases hu
      exact hs
    | cons a u =>
      cases hu
      exact h u v rfl hv

lemma plain_append {cs ds rest : List Char} :
    Plain (cs ++ ds) rest ↔ Plain cs (ds ++ rest) ∧ Plain ds rest := by
  induction cs with
  | nil => simp [plain_nil]
  | cons c cs ih => simp [plain_cons, ih, and_assoc]

lemma Plain.snoc {c : Char} {run cs : List Char} (h : Plain run.reverse (c :: cs))
    (hs : Skips (c :: cs)) : Plain (c :: run).reverse cs := by
  rw [List.reverse_cons, plain_append, plain_cons]
  exact ⟨h, hs, plain_nil cs⟩

lemma skips_of_ne {c : Char} (cs : List Char) (h : c ≠ '{') : Skips (c :: cs) := by
  intro d v hv
  cases hv
  exact (h rfl).elim

lemma plain_of_isIndent {cs : List Char} (rest : List Char) (h : cs.all isIndent) :
    Plain cs rest := by
  induction cs with
  | nil => exact plain_nil rest
  | cons c cs ih =>
    simp only [List.all_cons, Bool.and_eq_true] at h
    refine plain_cons.2 ⟨skips_of_ne _ ?_, ih h.2⟩
    rintro rfl
    simp [isIndent] at h

end Piece

lemma Cut.after_plain {cs rest : List Char} (fresh : Bool) (run : List Char)
    (h : Piece.Plain cs rest) :
    Cut.after fresh run (cs ++ rest) = Cut.after fresh (cs.reverse ++ run) rest := by
  induction cs generalizing run with
  | nil => rfl
  | cons c cs ih =>
    obtain ⟨hs, h⟩ := Piece.plain_cons.1 h
    rw [List.cons_append, Cut.after_cons _ _ hs, ih _ h]
    simp

end Stencil
