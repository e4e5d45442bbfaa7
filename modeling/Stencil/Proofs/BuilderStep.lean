import Stencil.Proofs.Mark
import Stencil.Proofs.Outcome

/-! One step of the builder: a token is taken exactly if it reads as a mark that fits where it
stands. -/

namespace Stencil

open Outcome

namespace Reading

variable {α : Type} {line : Option Int}

lemma complete_found {a : α} {ls : List Lexeme} {b : α} :
    complete line (found a ls) = .ok b ↔ ls = [] ∧ a = b := by
  cases ls with
  | nil => simp [complete, andThen, found, map, expectEnd, Except.map]
  | cons l ls => simp [complete, andThen, found, map, expectEnd, failed, Except.map]

@[simp] lemma complete_found_nil (a : α) : complete line (found a []) = .ok a := rfl

end Reading

namespace Builder

inductive Step (line : Int) : Mark → Builder → Builder → Prop
  | text {b : Builder} {s} : Step line (.text s) b (b.add (.text s))
  | output {b : Builder} {e filters l} :
      Step line (.output e filters l) b (b.add (.output e filters l))
  | set {b : Builder} {name e filters l} :
      Step line (.set name e filters l) b (b.add (.set name e filters l))
  | test {nodes os e} : os.length < Fault.maxDepth →
      Step line (.test e) ⟨nodes, os⟩ ⟨nodes, .conditional ⟨line, [], e, [], none⟩ :: os⟩
  | orTest {nodes c os e} : c.otherwise = none →
      Step line (.orTest e) ⟨nodes, .conditional c :: os⟩ ⟨nodes, .conditional (c.branch e) :: os⟩
  | otherwise {nodes c os} : c.otherwise = none →
      Step line .otherwise ⟨nodes, .conditional c :: os⟩
        ⟨nodes, .conditional { c with otherwise := some [] } :: os⟩
  | endConditional {nodes c os} :
      Step line .endConditional ⟨nodes, .conditional c :: os⟩
        (add (.conditional c.branches c.otherwise) ⟨nodes, os⟩)
  | loop {nodes os item iterable} : os.length < Fault.maxDepth →
      Step line (.loop item iterable) ⟨nodes, os⟩ ⟨nodes, .loop ⟨line, item, iterable, []⟩ :: os⟩
  | endLoop {nodes l os} :
      Step line .endLoop ⟨nodes, .loop l :: os⟩ (add (.loop l.item l.iterable l.body) ⟨nodes, os⟩)

lemma openBranch_eq_ok {line : Int} {keyword : String} {b : Builder} {c : OpenConditional}
    {os : List OpenBlock} :
    b.openBranch line keyword = .ok (c, os) ↔
      b.blocks = .conditional c :: os ∧ c.otherwise = none := by
  rcases b with ⟨nodes, _ | ⟨⟨c'⟩ | l, os'⟩⟩
  · simp [openBranch]
  · cases h : c'.otherwise <;> simp [openBranch, h] <;> rintro rfl <;> simp [h]
  · simp [openBranch]

lemma enter_eq_ok {o : OpenBlock} {b b' : Builder} :
    b.enter o = .ok b' ↔
      b.blocks.length < Fault.maxDepth ∧ b' = { b with blocks := o :: b.blocks } := by
  by_cases h : b.blocks.length < Fault.maxDepth <;> simp [enter, h, eq_comm]

lemma leave_eq_ok {line : Int} {block : Block} {b b' : Builder} :
    b.leave line block = .ok b' ↔
      ∃ o os, b.blocks = o :: os ∧ o.block = block ∧ b' = add o.close { b with blocks := os } := by
  rcases b with ⟨nodes, _ | ⟨o, os⟩⟩
  · simp [leave]
  · constructor
    · intro h
      by_cases ho : o.block = block
      · exact ⟨o, os, rfl, ho, by simpa [leave, ho, eq_comm] using h⟩
      · simp [leave, ho] at h
    · rintro ⟨o', os', he, ho, rfl⟩
      cases he
      simp [leave, ho]

lemma step_of_tag {t : Token} {keyword : String} {ls : List Lexeme} {b b' : Builder}
    (ht : t.IsTag keyword ls) (h : b.tag t.line keyword ls = .ok b') :
    ∃ m : Mark, m.Reads t ∧ Step t.line m b b' := by
  rcases b with ⟨nodes, os⟩
  unfold tag at h
  split at h
  · obtain ⟨e, he, h⟩ := bind_eq_ok.1 h
    obtain ⟨hd, rfl⟩ := enter_eq_ok.1 h
    exact ⟨.test e, .test ht he, .test hd⟩
  · obtain ⟨⟨c, os'⟩, hb, h⟩ := bind_eq_ok.1 h
    obtain ⟨rfl, hc⟩ := openBranch_eq_ok.1 hb
    obtain ⟨e, he, h⟩ := bind_eq_ok.1 h
    cases h
    exact ⟨.orTest e, .orTest ht he, .orTest hc⟩
  · obtain ⟨⟨c, os'⟩, hb, h⟩ := bind_eq_ok.1 h
    obtain ⟨rfl, hc⟩ := openBranch_eq_ok.1 hb
    obtain ⟨_, he, h⟩ := bind_eq_ok.1 h
    obtain ⟨rfl, _⟩ := Reading.complete_found.1 he
    cases h
    exact ⟨.otherwise, .otherwise ht, .otherwise hc⟩
  · obtain ⟨b₁, hb, h⟩ := bind_eq_ok.1 h
    obtain ⟨_ | l, os', rfl, hk, rfl⟩ := leave_eq_ok.1 hb
    · obtain ⟨_, he, h⟩ := bind_eq_ok.1 h
      obtain ⟨rfl, _⟩ := Reading.complete_found.1 he
      cases h
      exact ⟨.endConditional, .endConditional ht, .endConditional⟩
    · cases hk
  · obtain ⟨⟨item, iterable⟩, he, h⟩ := bind_eq_ok.1 h
    obtain ⟨hd, rfl⟩ := enter_eq_ok.1 h
    exact ⟨.loop item iterable, .loop ht he, .loop hd⟩
  · obtain ⟨b₁, hb, h⟩ := bind_eq_ok.1 h
    obtain ⟨c | _, os', rfl, hk, rfl⟩ := leave_eq_ok.1 hb
    · cases hk
    · obtain ⟨_, he, h⟩ := bind_eq_ok.1 h
      obtain ⟨rfl, _⟩ := Reading.complete_found.1 he
      cases h
      exact ⟨.endLoop, .endLoop ht, .endLoop⟩
  · obtain ⟨⟨name, e, filters⟩, he, h⟩ := bind_eq_ok.1 h
    cases h
    exact ⟨.set name e filters _, .set ht he, .set⟩
  · cases h
  · cases h

lemma step_of_token {t : Token} {b b' : Builder} (h : b.token t = .ok b') :
    ∃ m : Mark, m.Reads t ∧ Step t.line m b b' := by
  rw [token] at h
  split at h
  · rename_i hk
    cases h
    exact ⟨_, .text hk, .text⟩
  · rename_i hk
    obtain ⟨⟨e, filters⟩, he, h⟩ := bind_eq_ok.1 h
    cases h
    exact ⟨_, .output hk he, .output⟩
  · rename_i hk
    obtain ⟨ls, hs, h⟩ := bind_eq_ok.1 h
    exact step_of_tag ⟨hk, rfl, hs⟩ h
  · cases h

lemma token_of_isTag {t : Token} {keyword : String} {ls : List Lexeme} (b : Builder)
    (ht : t.IsTag keyword ls) : b.token t = b.tag t.line keyword ls := by
  obtain ⟨hk, hw, hs⟩ := ht
  simp [token, hk, hs, hw, bind, Except.bind]

lemma token_of_step {t : Token} {m : Mark} {b b' : Builder} (hm : m.Reads t)
    (h : Step t.line m b b') : b.token t = .ok b' := by
  cases hm with
  | text hk => cases h; simp [token, hk]
  | output hk he => cases h; simp [token, hk, he, bind, Except.bind, pure, Except.pure]
  | set ht he =>
    cases h
    simp [token_of_isTag _ ht, tag, he, bind, Except.bind, pure, Except.pure]
  | test ht he =>
    cases h with
    | test hd => simp [token_of_isTag _ ht, tag, he, enter, hd, bind, Except.bind]
  | orTest ht he =>
    cases h with
    | orTest hc =>
      simp [token_of_isTag _ ht, tag, he, openBranch, hc, bind, Except.bind, pure, Except.pure]
  | otherwise ht =>
    cases h with
    | otherwise hc =>
      simp [token_of_isTag _ ht, tag, openBranch, hc, bind, Except.bind, pure, Except.pure]
  | endConditional ht =>
    cases h
    simp [token_of_isTag _ ht, tag, leave, OpenBlock.block, OpenBlock.close, bind, Except.bind,
      pure, Except.pure]
  | loop ht he =>
    cases h with
    | loop hd => simp [token_of_isTag _ ht, tag, he, enter, hd, bind, Except.bind]
  | endLoop ht =>
    cases h
    simp [token_of_isTag _ ht, tag, leave, OpenBlock.block, OpenBlock.close, bind, Except.bind,
      pure, Except.pure]

end Builder

end Stencil
