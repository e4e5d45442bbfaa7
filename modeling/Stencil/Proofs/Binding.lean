import Mathlib.Tactic.Lemma
import Stencil.Scope

/-! What the frames of a scope bind a name to, all of them together. -/

namespace Stencil.Scope

def bound? (name : String) (s : Scope) : Option Value :=
  s.frames.findSome? (·.lookup name)

variable {s t : Scope} {name : String} {v : Value}

lemma bound?_ofData (data : Fields) (name : String) : (ofData data).bound? name = none := rfl

lemma bound?_assign (item name : String) (v : Value) (s : Scope) :
    (s.assign item v).bound? name = if name = item then some v else s.bound? name := by
  simp only [bound?, frames, assign, List.findSome?_cons, Fields.lookup_set]
  by_cases h : name = item
  · simp only [if_pos h]
  · simp only [if_neg h]

lemma bound?_enter (item name : String) (v : Value) (p : LoopPosition) (s : Scope) :
    (s.enter item v p).bound? name = if name = item then some v else s.bound? name := by
  by_cases h : name = item
  · simp [bound?, frames, enter, h]
  · simp [bound?, frames, enter, List.lookup_cons, h, beq_eq_false_iff_ne.2 h]

lemma lookup_of_bound (h : s.bound? name = some v) : s.lookup name = v := by
  have hf : s.frames.findSome? (·.lookup name) = some v := h
  rw [lookup, lookup?, hf]
  rfl

lemma lookup_of_unbound (h : s.bound? name = none) :
    s.lookup name =
      ((if name = "loop" then s.loops.head?.map (·.toValue) else none).or
        (s.data.lookup name)).getD .null := by
  have hf : s.frames.findSome? (·.lookup name) = none := h
  rw [lookup, lookup?, hf, Option.none_or]

lemma lookup_congr (hl : t.loops = s.loops) (hd : t.data = s.data)
    (hb : t.bound? name = s.bound? name) : t.lookup name = s.lookup name := by
  cases hs : s.bound? name with
  | some v => rw [lookup_of_bound hs, lookup_of_bound (hb.trans hs)]
  | none => rw [lookup_of_unbound hs, lookup_of_unbound (hb.trans hs), hl, hd]

lemma lookup_assign_of_ne {item : String} (h : name ≠ item) (v : Value) (s : Scope) :
    (s.assign item v).lookup name = s.lookup name :=
  lookup_congr rfl rfl (by rw [bound?_assign, if_neg h])

lemma lookup_enter_of_ne {item : String} (h : name ≠ item) (hl : name ≠ "loop") (v : Value)
    (p : LoopPosition) (s : Scope) : (s.enter item v p).lookup name = s.lookup name := by
  have hb : (s.enter item v p).bound? name = s.bound? name := by rw [bound?_enter, if_neg h]
  cases hs : s.bound? name with
  | some w => rw [lookup_of_bound hs, lookup_of_bound (hb.trans hs)]
  | none =>
    rw [lookup_of_unbound hs, lookup_of_unbound (hb.trans hs), if_neg hl, if_neg hl]
    rfl

structure Corresponds (new : String → String) (names : String → Prop) (s t : Scope) : Prop where
  loops : t.loops = s.loops
  data : t.data = s.data
  bound : ∀ n, names n → t.bound? (new n) = s.bound? n

namespace Corresponds

variable {new : String → String} {names : String → Prop}

lemma lookup (h : Corresponds new names s t) (hn : names name) (hf : new name = name) :
    t.lookup name = s.lookup name := by
  have hb := h.bound name hn
  rw [hf] at hb
  exact lookup_congr h.loops h.data hb

variable (hi : ∀ {m n}, names m → names n → (new m = new n ↔ m = n))
include hi

lemma assign (h : Corresponds new names s t) (hn : names name) (v : Value) :
    Corresponds new names (s.assign name v) (t.assign (new name) v) where
  loops := h.loops
  data := h.data
  bound n hm := by
    rw [bound?_assign, bound?_assign, h.bound n hm]
    simp only [hi hm hn]

lemma enter (h : Corresponds new names s t) (hn : names name) (v : Value) (p : LoopPosition) :
    Corresponds new names (s.enter name v p) (t.enter (new name) v p) where
  loops := congrArg (p :: ·) h.loops
  data := h.data
  bound n hm := by
    rw [bound?_enter, bound?_enter, h.bound n hm]
    simp only [hi hm hn]

end Corresponds

end Stencil.Scope
