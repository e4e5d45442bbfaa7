import Mathlib.Tactic.Lemma
import Stencil.Piece

/-! Where a directive ends: at the first closing delimiter outside strings. -/

namespace Stencil

inductive Quoting
  | outside
  | inside (mark : Char)
  | escaped (mark : Char)

namespace Quoting

def step (d : Delimiter) : Quoting → Char → Quoting
  | .outside, c => if d.opensString c then .inside c else .outside
  | .inside q, c => if c = '\\' then .escaped q else if c = q then .outside else .inside q
  | .escaped q, _ => .inside q

def run (d : Delimiter) (s : Quoting) (cs : List Char) : Quoting :=
  cs.foldl (step d) s

def ofMark : Option Char → Quoting
  | none => .outside
  | some q => .inside q

lemma inside_ne (q : Char) : inside q ≠ outside := by
  intro h
  cases h

lemma escaped_ne (q : Char) : escaped q ≠ outside := by
  intro h
  cases h

end Quoting

namespace Delimiter

/-- Read on from a state, a body ends outside strings, and no closing delimiter that overlaps it
begins outside strings. -/
def ClosesFrom (d : Delimiter) (s : Quoting) (body : List Char) : Prop :=
  Quoting.run d s body = .outside ∧
    ∀ u v, body = u ++ v → v ≠ [] → Quoting.run d s u = .outside → ¬ d.closing <+: v ++ d.closing

def Closes (d : Delimiter) (body : List Char) : Prop :=
  d.ClosesFrom .outside body

variable {d : Delimiter}

lemma closesFrom_nil {s : Quoting} : d.ClosesFrom s [] ↔ s = .outside := by
  constructor
  · exact fun h => h.1
  · intro h
    refine ⟨h, ?_⟩
    intro u v huv hv
    exact (hv (List.append_eq_nil_iff.1 huv.symm).2).elim

lemma closesFrom_cons {s : Quoting} {c : Char} {body : List Char} :
    d.ClosesFrom s (c :: body) ↔
      (s = .outside → ¬ d.closing <+: c :: body ++ d.closing) ∧
        d.ClosesFrom (s.step d c) body := by
  constructor
  · rintro ⟨hr, h⟩
    refine ⟨fun hs => h [] (c :: body) rfl (by simp) hs, hr, ?_⟩
    intro u v huv hv hu
    exact h (c :: u) v (by rw [huv]; rfl) hv hu
  · rintro ⟨h, hr, hb⟩
    refine ⟨hr, ?_⟩
    intro u v huv hv hu
    cases u with
    | nil =>
      subst huv
      exact h hu
    | cons a u =>
      cases huv
      exact hb u v rfl hv hu

lemma closesFrom_cons_of_ne {s : Quoting} {c : Char} {body : List Char} (hs : s ≠ .outside) :
    d.ClosesFrom s (c :: body) ↔ d.ClosesFrom (s.step d c) body := by
  rw [closesFrom_cons]
  exact and_iff_right fun h => (hs h).elim

lemma prefix_closing {c : Char} {cs : List Char} :
    d.closing <+: c :: cs ↔ c = d.closer ∧ cs.head? = some '}' := by
  cases cs with
  | nil => simp [closing]
  | cons a as => simp [closing, eq_comm]

lemma closer_not_opensString : d.opensString d.closer = false := by
  cases d <;> rfl

lemma closesFrom_of_cut? {mark : Option Char} {cs body rest : List Char}
    (h : d.cut? mark cs = some (body, rest)) : d.ClosesFrom (.ofMark mark) body := by
  fun_induction d.cut? mark cs generalizing body rest with
  | case1 => cases h
  | case2 => cases h
  | case3 q e cs ih =>
    obtain ⟨⟨b, r⟩, hr, he⟩ := Option.map_eq_some_iff.1 h
    cases he
    rw [Quoting.ofMark, closesFrom_cons_of_ne (Quoting.inside_ne q), Quoting.step, if_pos rfl]
    exact (closesFrom_cons_of_ne (Quoting.escaped_ne q)).2 (ih hr)
  | case4 c cs q hc ih =>
    obtain ⟨⟨b, r⟩, hr, he⟩ := Option.map_eq_some_iff.1 h
    cases he
    rw [Quoting.ofMark, closesFrom_cons_of_ne (Quoting.inside_ne q), Quoting.step, if_neg hc]
    by_cases hq : c = q
    · simpa [hq, Quoting.ofMark] using ih hr
    · simpa [hq, Quoting.ofMark] using ih hr
  | case5 c cs hs ih =>
    obtain ⟨⟨b, r⟩, hr, he⟩ := Option.map_eq_some_iff.1 h
    cases he
    refine closesFrom_cons.2 ⟨?_, by simpa [Quoting.step, Quoting.ofMark, hs] using ih hr⟩
    intro _ hp
    rw [List.cons_append, prefix_closing] at hp
    rw [hp.1, closer_not_opensString] at hs
    cases hs
  | case6 =>
    cases h
    exact closesFrom_nil.2 rfl
  | case7 c cs hs hc ih =>
    obtain ⟨⟨b, r⟩, hr, he⟩ := Option.map_eq_some_iff.1 h
    cases he
    refine closesFrom_cons.2 ⟨?_, by simpa [Quoting.step, Quoting.ofMark, hs] using ih hr⟩
    intro _ hp
    rw [List.cons_append, prefix_closing] at hp
    refine hc ⟨hp.1, ?_⟩
    rw [eq_of_cut? hr, List.head?_append, hp.2]
    rfl

lemma cut?_inside {q c : Char} (cs : List Char) (hc : c ≠ '\\') :
    d.cut? (some q) (c :: cs) =
      (d.cut? (if c = q then none else some q) cs).map fun r => (c :: r.1, r.2) := by
  rw [cut?.eq_def]
  exact if_neg hc

lemma cut?_append (mark : Option Char) {body : List Char} (rest : List Char)
    (h : d.ClosesFrom (.ofMark mark) body) :
    d.cut? mark (body ++ (d.closing ++ rest)) = some (body, rest) := by
  -- A backslash takes the next character with it, which the last of a body does not have.
  match mark, body with
  | none, [] => simp [cut?, closing, closer_not_opensString]
  | some q, [] => cases closesFrom_nil.1 h
  | none, c :: b =>
    obtain ⟨hp, hb⟩ := closesFrom_cons.1 h
    rw [List.cons_append, prefix_closing] at hp
    rw [List.cons_append, cut?]
    by_cases hs : d.opensString c
    · simp only [Quoting.ofMark, Quoting.step, hs] at hb
      simp [hs, cut?_append (some c) rest hb]
    · simp only [Quoting.ofMark, Quoting.step, hs] at hb
      have hh : (b ++ (d.closing ++ rest)).head? = (b ++ d.closing).head? := by
        cases b <;> rfl
      rw [if_neg hs, hh, if_neg (hp rfl), cut?_append none rest hb]
      rfl
  | some q, [c] =>
    obtain ⟨_, hb⟩ := closesFrom_cons.1 h
    have hs := closesFrom_nil.1 hb
    by_cases hc : c = '\\'
    · simp [Quoting.ofMark, Quoting.step, hc] at hs
    · by_cases hq : c = q
      · have hr : d.cut? none (d.closing ++ rest) = some ([], rest) :=
          cut?_append none rest (closesFrom_nil.2 rfl)
        rw [List.singleton_append, cut?_inside _ hc, if_pos hq, hr]
        rfl
      · simp [Quoting.ofMark, Quoting.step, hc, hq] at hs
  | some q, c :: e :: b =>
    obtain ⟨_, hb⟩ := closesFrom_cons.1 h
    by_cases hc : c = '\\'
    · have hb' : d.ClosesFrom (.escaped q) (e :: b) := by
        simpa [Quoting.ofMark, Quoting.step, hc] using hb
      simp [cut?, hc, cut?_append (some q) rest (closesFrom_cons.1 hb').2]
    · have hb' : d.ClosesFrom (.ofMark (if c = q then none else some q)) (e :: b) := by
        rw [Quoting.ofMark, Quoting.step, if_neg hc] at hb
        by_cases hq : c = q
        · rwa [if_pos hq] at hb ⊢
        · rwa [if_neg hq] at hb ⊢
      rw [List.cons_append, cut?_inside _ hc, cut?_append _ rest hb']
      rfl
termination_by body.length

theorem cut?_eq_some_iff {cs body rest : List Char} :
    d.cut? none cs = some (body, rest) ↔ cs = body ++ d.closing ++ rest ∧ d.Closes body := by
  constructor
  · exact fun h => ⟨eq_of_cut? h, closesFrom_of_cut? h⟩
  · rintro ⟨rfl, h⟩
    rw [List.append_assoc]
    exact cut?_append none rest h

lemma cut?_comment_eq_none_iff {cs : List Char} :
    Delimiter.comment.cut? none cs = none ↔ ¬ Delimiter.comment.closing <:+: cs := by
  induction cs with
  | nil => simp [cut?, closing]
  | cons c cs ih =>
    have hs : Delimiter.comment.opensString c = false := rfl
    rw [List.infix_cons_iff, prefix_closing, not_or, cut?, if_neg (by simp [hs])]
    by_cases hc : c = Delimiter.comment.closer ∧ cs.head? = some '}'
    · simp [hc]
    · rw [if_neg hc, Option.map_eq_none_iff, ih]
      simp [hc]

end Delimiter

end Stencil
