import Stencil.Proofs.Answering
import Stencil.Proofs.Fields

/-! Values without whole numbers of more than 4300 digits, and what is computed from them. -/

namespace Stencil

namespace Number

lemma not_tooLong_of_le {m n : Nat} (h : m ≤ n) (hn : ¬ TooLong n) : ¬ TooLong m := by
  rw [tooLong_iff, Int.natAbs_natCast] at hn ⊢
  intro hm
  exact hn (Nat.le_trans hm h)

lemma not_tooLong_of_le_most {n : Nat} (h : n ≤ DigitLimit.most) : ¬ TooLong n := by
  have hlt : ∀ k, n ≤ k → n < Nat.pow 10 k := fun k hk =>
    Nat.lt_of_le_of_lt hk (Nat.lt_pow_self (by omega))
  rw [tooLong_iff, Int.natAbs_natCast]
  exact Nat.not_le.2 (hlt DigitLimit.most h)

end Number

namespace Value

/-- No whole number in the value has more than 4300 digits, and no length that a path may read
off it. -/
inductive Short : Value → Prop
  | null : Short .null
  | bool (b : Bool) : Short (.bool b)
  | int {n : Int} : ¬ Number.TooLong n → Short (.number (.int n))
  | float (x : Binary64) : Short (.number (.float x))
  | text {s : String} : ¬ Number.TooLong s.toList.length → Short (.text s)
  | sequence {kind items} : ¬ Number.TooLong items.length → (∀ v ∈ items, Short v) →
      Short (.sequence kind items)
  | mapping {fields : Fields} : (∀ f ∈ fields, Short f.2) → Short (.mapping fields)
  | host (id : Nat) (name : String) : Short (.host id name)

lemma Short.toText {v : Value} (h : v.Short) (limit : DigitLimit) : v.toText ≠ .error limit := by
  intro he
  obtain ⟨n, rfl, hn, -⟩ := toText_eq_error.1 he
  cases h with
  | int hs => exact hs hn

end Value

def Fields.Short (fs : Fields) : Prop :=
  ∀ f ∈ fs, f.2.Short

lemma Fields.Short.lookup {fs : Fields} (h : fs.Short) {name : String} {v : Value}
    (hv : fs.lookup name = some v) : v.Short :=
  h _ (mem_of_lookup hv)

lemma Fields.Short.set {fs : Fields} (h : fs.Short) (name : String) {v : Value} (hv : v.Short) :
    (Fields.set name v fs).Short := by
  induction fs with
  | nil => exact List.forall_mem_singleton.2 hv
  | cons f fs ih =>
    obtain ⟨hf, hfs⟩ := List.forall_mem_cons.1 h
    rw [Fields.set]
    split
    · exact List.forall_mem_cons.2 ⟨hv, hfs⟩
    · exact List.forall_mem_cons.2 ⟨hf, ih hfs⟩

namespace Segment

lemma mem_of_element {α : Type} {items : List α} {n : Int} {a : α} (h : element items n = some a) :
    a ∈ items := by
  rw [element] at h
  split at h
  · cases h
  · exact List.mem_of_getElem? h

lemma short_getD {x : Option Value} (h : ∀ v, x = some v → v.Short) : (x.getD .null).Short := by
  cases x with
  | none => exact .null
  | some v => exact h v rfl

lemma short_length {v : Value} (h : v.Short) {n : Nat} (hn : v.length? = some n) :
    (Value.int n).Short := by
  cases h with
  | text ht =>
    cases hn
    exact .int ht
  | sequence hl _ =>
    cases hn
    exact .int hl
  | _ => cases hn

lemma short_step (g : Segment) {v : Value} (h : v.Short) : (g.step v).Short := by
  unfold step
  split
  · cases h with
    | mapping hf => exact short_getD fun w hw => Fields.Short.lookup hf hw
  · refine short_getD fun w hw => ?_
    obtain ⟨c, -, rfl⟩ := Option.map_eq_some_iff.1 hw
    refine .text ?_
    rw [String.toList_singleton]
    exact Number.not_tooLong_of_le_most (n := 1) (by decide)
  · cases h with
    | sequence _ hi => exact short_getD fun w hw => hi w (mem_of_element hw)
  · split
    · refine short_getD fun w hw => ?_
      obtain ⟨n, hn, rfl⟩ := Option.map_eq_some_iff.1 hw
      exact short_length h hn
    · exact .null
  · exact .null

end Segment

namespace Scope

structure Short (s : Scope) : Prop where
  frames : ∀ f ∈ s.frames, Fields.Short f
  loops : ∀ p ∈ s.loops, p.toValue.Short
  data : Fields.Short s.data

lemma short_position {i n : Nat} (hi : i < n) (hn : ¬ Number.TooLong n) :
    (LoopPosition.mk i n).toValue.Short := by
  have hint : ∀ m : Nat, m ≤ n → (Value.int m).Short := fun m hm =>
    .int (Number.not_tooLong_of_le hm hn)
  refine .mapping fun f hf => ?_
  simp only [List.mem_cons, List.not_mem_nil, or_false] at hf
  rcases hf with rfl | rfl | rfl | rfl | rfl
  · exact hint (i + 1) hi
  · exact hint i (Nat.le_of_lt hi)
  · exact .bool _
  · exact .bool _
  · exact hint n (Nat.le_refl n)

lemma Short.ofData {data : Value} (h : data.Short) : (Scope.ofData data.fields).Short where
  frames := by
    intro f hf
    rw [List.mem_singleton.1 hf]
    exact nofun
  loops := nofun
  data := by
    cases h with
    | mapping hf => exact hf
    | _ => exact nofun

lemma Short.lookup {s : Scope} (h : s.Short) (name : String) : (s.lookup name).Short := by
  refine Segment.short_getD fun v hv => ?_
  rw [lookup?, Option.or_eq_some_iff, Option.or_eq_some_iff] at hv
  rcases hv with hf | ⟨-, hl | ⟨-, hd⟩⟩
  · obtain ⟨f, hf, hv⟩ := List.exists_of_findSome?_eq_some hf
    exact Fields.Short.lookup (h.frames f hf) hv
  · split at hl
    · obtain ⟨p, hp, rfl⟩ := Option.map_eq_some_iff.1 hl
      exact h.loops p (List.mem_of_head? hp)
    · cases hl
  · exact Fields.Short.lookup h.data hd

lemma Short.assign {s : Scope} (h : s.Short) (name : String) {v : Value} (hv : v.Short) :
    (s.assign name v).Short where
  frames := by
    obtain ⟨hi, ho⟩ := List.forall_mem_cons.1 h.frames
    exact List.forall_mem_cons.2 ⟨Fields.Short.set hi name hv, ho⟩
  loops := h.loops
  data := h.data

lemma Short.enter {s : Scope} (h : s.Short) (item : String) {v : Value} (hv : v.Short) {i n : Nat}
    (hi : i < n) (hn : ¬ Number.TooLong n) : (s.enter item v ⟨i, n⟩).Short where
  frames := List.forall_mem_cons.2 ⟨List.forall_mem_singleton.2 hv, h.frames⟩
  loops := List.forall_mem_cons.2 ⟨short_position hi hn, h.loops⟩
  data := h.data

end Scope

lemma Path.short_resolve (p : Path) {s : Scope} (h : s.Short) : (p.resolve s).Short := by
  rw [resolve]
  generalize hv : s.lookup p.head = v
  have hs : v.Short := hv ▸ h.lookup p.head
  clear hv
  induction p.steps generalizing v with
  | nil => exact hs
  | cons g gs ih => exact ih (g.step v) (g.short_step hs)

def Expr.Short : Expr → Prop
  | .literal v => v.Short
  | .path _ => True
  | .not e => e.Short
  | .compare _ left right => left.Short ∧ right.Short
  | .unknown _ => False

lemma Expr.Short.eval {e : Expr} (h : e.Short) {s : Scope} (hs : s.Short) :
    ∃ v, e.eval s = .ok v ∧ v.Short := by
  induction e with
  | literal v => exact ⟨v, rfl, h⟩
  | path p => exact ⟨p.resolve s, rfl, p.short_resolve hs⟩
  | not e ih =>
    obtain ⟨v, hv, -⟩ := ih h
    exact ⟨.bool !v.isTruthy, by rw [Expr.eval, hv]; rfl, .bool _⟩
  | compare op left right ihl ihr =>
    obtain ⟨v, hv, -⟩ := ihl h.1
    obtain ⟨w, hw, -⟩ := ihr h.2
    exact ⟨.bool (op.holds v w), by rw [Expr.eval, hv, hw]; rfl, .bool _⟩
  | unknown type => exact h.elim

end Stencil
