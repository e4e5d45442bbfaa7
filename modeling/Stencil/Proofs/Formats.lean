import Mathlib.Tactic.ByContra
import Mathlib.Tactic.Lemma
import Stencil.Calendar.Format

/-! Formats are expanded unit by unit, and text in which percent signs are doubled comes out as it
was. -/

namespace Stencil.Calendar

/-- Text made of units, which are a percent sign with the character after it, or another character
alone. -/
inductive WholeUnits : List Char → Prop
  | nil : WholeUnits []
  | directive (c : Char) {cs : List Char} : WholeUnits cs → WholeUnits ('%' :: c :: cs)
  | character {c : Char} {cs : List Char} : c ≠ '%' → WholeUnits cs → WholeUnits (c :: cs)

def escaped (cs : List Char) : List Char :=
  cs.flatMap fun c => if c = '%' then ['%', '%'] else [c]

namespace Moment

variable (t : Moment)

lemma format_directive (c : Char) (cs : List Char) :
    t.format ('%' :: c :: cs) = (t.directive? c).getD ['%', c] ++ t.format cs :=
  rfl

lemma format_character {c : Char} (hc : c ≠ '%') (cs : List Char) :
    t.format (c :: cs) = c :: t.format cs := by
  cases cs with
  | nil => simp [format]
  | cons d cs => simp [format, hc]

lemma format_append {a : List Char} (ha : WholeUnits a) (b : List Char) :
    t.format (a ++ b) = t.format a ++ t.format b := by
  induction ha with
  | nil => rfl
  | directive c _ ih =>
    rw [List.cons_append, List.cons_append, format_directive, format_directive, ih,
      List.append_assoc]
  | character hc _ ih =>
    rw [List.cons_append, format_character t hc, format_character t hc, ih, List.cons_append]

lemma format_append_percent {a : List Char} (ha : ¬ WholeUnits a) :
    t.format (a ++ ['%']) = t.format a := by
  fun_induction format t a with
  | case1 => exact absurd .nil ha
  | case2 c cs ih =>
    have h := ih fun h => ha (.directive c h)
    rw [List.cons_append, List.cons_append, format_directive, h]
  | case3 c cs hn ih =>
    by_cases hc : c = '%'
    · subst hc
      cases cs with
      -- Two percent signs come out as the one at the end does.
      | nil => rfl
      | cons d cs => exact (hn d cs rfl rfl).elim
    · have h := ih fun h => ha (.character hc h)
      rw [List.cons_append, format_character t hc, h]

lemma format_escaped (s : List Char) : t.format (escaped s) = s := by
  induction s with
  | nil => rfl
  | cons c cs ih =>
    rw [escaped] at ih ⊢
    rw [List.flatMap_cons]
    by_cases hc : c = '%'
    · subst hc
      exact congrArg ('%' :: ·) ih
    · rw [if_neg hc, List.singleton_append, format_character t hc, ih]

theorem format_units :
    (∀ a, WholeUnits a ↔ ∀ b, t.format (a ++ b) = t.format a ++ t.format b) ∧
      ∀ s, t.format (escaped s) = s := by
  refine ⟨fun a => ⟨t.format_append, fun h => ?_⟩, t.format_escaped⟩
  by_contra ha
  have hp := (t.format_append_percent ha).symm.trans (h ['%'])
  exact List.cons_ne_nil _ _ (List.self_eq_append_right.1 hp)

end Moment

end Stencil.Calendar
