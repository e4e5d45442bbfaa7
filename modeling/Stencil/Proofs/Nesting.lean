import Stencil.Proofs.BuilderStep

/-! The blocks that are open after a row of tokens are those that its tags open and do not close. -/

namespace Stencil

open Outcome

namespace Token

def HasKeyword (t : Token) (keyword : String) : Prop :=
  t.kind = .tag ∧ String.ofList (Text.cutWord t.value.toList).1 = keyword

def Opens (t : Token) (block : Block) : Prop :=
  t.HasKeyword block.keyword

def Ends (t : Token) (block : Block) : Prop :=
  t.HasKeyword block.endKeyword

inductive Balanced : List Token → Prop
  | nil : Balanced []
  | single {t : Token} : (∀ block, ¬ t.Opens block ∧ ¬ t.Ends block) → Balanced [t]
  | append {ts us} : Balanced ts → Balanced us → Balanced (ts ++ us)
  | block {t u : Token} {block ts} : t.Opens block → Balanced ts → u.Ends block →
      Balanced (t :: ts ++ [u])

/-- The blocks, innermost first, that a row of tokens opens and does not close, each with the line
of the tag that opens it. -/
inductive LeavesOpen : List Token → List (Block × Int) → Prop
  | none {ts} : Balanced ts → LeavesOpen ts []
  | block {ts us : List Token} {t : Token} {block opened} : LeavesOpen ts opened → t.Opens block →
      Balanced us → LeavesOpen (ts ++ t :: us) ((block, t.line) :: opened)

lemma balanced_of_kind {t : Token} (h : t.kind ≠ .tag) : Balanced [t] :=
  .single fun _ => ⟨fun ho => h ho.1, fun he => h he.1⟩

lemma balanced_of_isTag {t : Token} {keyword : String} {ls : List Lexeme} (h : t.IsTag keyword ls)
    (hk : ∀ block : Block, keyword ≠ block.keyword ∧ keyword ≠ block.endKeyword) :
    Balanced [t] := by
  refine .single fun block => ⟨fun ho => ?_, fun he => ?_⟩
  · exact (hk block).1 (h.2.1.symm.trans ho.2)
  · exact (hk block).2 (h.2.1.symm.trans he.2)

lemma IsTag.hasKeyword {t : Token} {keyword : String} {ls : List Lexeme} (h : t.IsTag keyword ls) :
    t.HasKeyword keyword :=
  ⟨h.1, h.2.1⟩

variable {ts us : List Token} {t : Token} {block : Block} {line : Int}
  {opened : List (Block × Int)}

lemma LeavesOpen.append (h : LeavesOpen ts opened) (hu : Balanced us) :
    LeavesOpen (ts ++ us) opened := by
  cases h with
  | none hb => exact .none (.append hb hu)
  | block h ht hb =>
    rw [List.append_assoc, List.cons_append]
    exact .block h ht (.append hb hu)

lemma LeavesOpen.enter (h : LeavesOpen ts opened) (ht : t.Opens block) :
    LeavesOpen (ts ++ [t]) ((block, t.line) :: opened) :=
  .block h ht .nil

lemma LeavesOpen.leave (h : LeavesOpen ts ((block, line) :: opened)) (ht : t.Ends block) :
    LeavesOpen (ts ++ [t]) opened := by
  cases h with
  | block h ho hb =>
    rw [List.append_assoc]
    exact h.append (.block ho hb ht)

lemma LeavesOpen.innermost (h : LeavesOpen ts ((block, line) :: opened)) :
    ∃ us t vs, ts = us ++ t :: vs ∧ t.Opens block ∧ Balanced vs ∧ line = t.line := by
  cases h with
  | block _ ht hv => exact ⟨_, _, _, rfl, ht, hv, rfl⟩

end Token

namespace Builder

open Token

def openings (b : Builder) : List (Block × Int) :=
  b.blocks.map fun o => (o.block, o.line)

lemma openings_add (n : Node) (b : Builder) : (b.add n).openings = b.openings := by
  rcases b with ⟨nodes, _ | ⟨c | l, os⟩⟩
  · rfl
  · cases h : c.otherwise <;>
      simp [openings, add, OpenBlock.add, OpenConditional.add, OpenBlock.block, OpenBlock.line, h]
  · rfl

lemma leavesOpen_step {t : Token} {m : Mark} {b b' : Builder} {ts : List Token} (hm : m.Reads t)
    (hs : Step t.line m b b') (h : LeavesOpen ts b.openings) :
    LeavesOpen (ts ++ [t]) b'.openings := by
  cases hs with
  | text =>
    cases hm with
    | text hk =>
      rw [openings_add]
      exact h.append (balanced_of_kind (by simp [hk]))
  | output =>
    cases hm with
    | output hk _ =>
      rw [openings_add]
      exact h.append (balanced_of_kind (by simp [hk]))
  | set =>
    cases hm with
    | set ht _ =>
      rw [openings_add]
      exact h.append (balanced_of_isTag ht (by rintro (_ | _) <;> decide))
  | test _ =>
    cases hm with
    | test ht _ => exact h.enter ht.hasKeyword
  | orTest _ =>
    cases hm with
    | orTest ht _ => exact h.append (balanced_of_isTag ht (by rintro (_ | _) <;> decide))
  | otherwise _ =>
    cases hm with
    | otherwise ht => exact h.append (balanced_of_isTag ht (by rintro (_ | _) <;> decide))
  | endConditional =>
    cases hm with
    | endConditional ht =>
      rw [openings_add]
      exact h.leave ht.hasKeyword
  | loop _ =>
    cases hm with
    | loop ht _ => exact h.enter ht.hasKeyword
  | endLoop =>
    cases hm with
    | endLoop ht =>
      rw [openings_add]
      exact h.leave ht.hasKeyword

lemma leavesOpen_foldlM {ts us : List Token} {b b' : Builder} (h : us.foldlM token b = .ok b')
    (hb : LeavesOpen ts b.openings) : LeavesOpen (ts ++ us) b'.openings := by
  induction us generalizing ts b with
  | nil =>
    cases h
    rwa [List.append_nil]
  | cons t us ih =>
    obtain ⟨c, hc, h⟩ := foldlM_cons_eq_ok.1 h
    obtain ⟨m, hm, hs⟩ := step_of_token hc
    have hi := ih h (leavesOpen_step hm hs hb)
    rwa [List.append_assoc] at hi

end Builder

end Stencil
