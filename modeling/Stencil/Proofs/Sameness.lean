import Stencil.Proofs.Fields
import Stencil.Render

/-! What equal values have in common. By themselves truth values and numbers are never equal, but
inside sequences and mappings a truth value is equal to the number that it counts as. -/

namespace Stencil

namespace Number

lemma eq_iff {m n : Number} : m.eq n = true ↔ ∃ p, m.place? = some p ∧ n.place? = some p := by
  rw [eq]
  cases hm : m.place? with
  | none => simp
  | some p => cases hn : n.place? <;> simp [eq_comm]

lemma same_eq_eq {m n : Number} (h : m.place? ≠ none) : m.same n = m.eq n := by
  unfold same
  split
  · exact (h rfl).elim
  · rfl

lemma int_eq_int_iff {a b : Int} : (Number.int a).eq (.int b) = true ↔ a = b := by
  have h0 : (Binary64.one : Int) ≠ 0 := Int.natCast_ne_zero.2 (Nat.ne_of_gt Binary64.one_pos)
  rw [eq_iff]
  constructor
  · rintro ⟨p, ha, hb⟩
    have hp := ha.trans hb.symm
    simp only [place?, Option.some.injEq, Place.units.injEq] at hp
    exact Int.eq_of_mul_eq_mul_right h0 hp
  · rintro rfl
    exact ⟨_, rfl, rfl⟩

lemma ofBool_eq_ofBool_iff {b c : Bool} : (ofBool b).eq (ofBool c) = true ↔ b = c := by
  rw [ofBool, ofBool, int_eq_int_iff]
  cases b <;> cases c <;> decide

end Number

namespace Value

/-- No number in the value is undefined, and no mapping in it binds a name twice. -/
inductive Plain : Value → Prop
  | null : Plain .null
  | bool (b : Bool) : Plain (.bool b)
  | number {n : Number} : n.place? ≠ none → Plain (.number n)
  | text (s : String) : Plain (.text s)
  | sequence {kind items} : (∀ v ∈ items, Plain v) → Plain (.sequence kind items)
  | mapping {fields : Fields} : fields.names.Nodup → (∀ f ∈ fields, Plain f.2) →
      Plain (.mapping fields)
  | host (id : Nat) (name : String) : Plain (.host id name)

/-- Equality by structure, with truth values and numbers apart at any depth. -/
inductive Alike : Value → Value → Prop
  | null : Alike .null .null
  | bool (b : Bool) : Alike (.bool b) (.bool b)
  | number {m n : Number} : m.eq n = true → Alike (.number m) (.number n)
  | text (s : String) : Alike (.text s) (.text s)
  | sequence {kind xs ys} : xs.length = ys.length →
      (∀ (i : Nat) x y, xs[i]? = some x → ys[i]? = some y → Alike x y) →
      Alike (.sequence kind xs) (.sequence kind ys)
  | mapping {fs gs : Fields} : (∀ name, name ∈ fs.names ↔ name ∈ gs.names) →
      (∀ name v w, fs.lookup name = some v → gs.lookup name = some w → Alike v w) →
      Alike (.mapping fs) (.mapping gs)
  | host (id : Nat) (name name' : String) : Alike (.host id name) (.host id name')

inductive Counts : Value → Value → Prop
  | left {b : Bool} {n : Number} : (Number.ofBool b).eq n = true → Counts (.bool b) (.number n)
  | right {b : Bool} {n : Number} : n.eq (.ofBool b) = true → Counts (.number n) (.bool b)

mutual

def counted : Value → Value
  | .bool b => .number (.ofBool b)
  | .sequence kind items => .sequence kind (countedItems items)
  | .mapping fields => .mapping (countedFields fields)
  | v => v

def countedItems : List Value → List Value
  | [] => []
  | v :: vs => counted v :: countedItems vs

def countedFields : List (String × Value) → Fields
  | [] => []
  | (n, v) :: fs => (n, counted v) :: countedFields fs

end

def countedWithin : Value → Value
  | .bool b => .bool b
  | v => v.counted

lemma countedItems_eq (vs : List Value) : countedItems vs = vs.map counted := by
  induction vs with
  | nil => rfl
  | cons v vs ih => rw [countedItems, ih, List.map_cons]

lemma names_countedFields (fs : Fields) : Fields.names (countedFields fs) = fs.names := by
  induction fs with
  | nil => rfl
  | cons f fs ih => exact congrArg (f.1 :: ·) ih

lemma lookup_countedFields (fs : Fields) (name : String) :
    (countedFields fs).lookup name = (fs.lookup name).map counted := by
  induction fs with
  | nil => rfl
  | cons f fs ih =>
    obtain ⟨n, v⟩ := f
    by_cases h : name = n
    · simp [countedFields, h]
    · simp [countedFields, List.lookup_cons, beq_eq_false_iff_ne.2 h, ih]

lemma sameItems_iff {xs ys : List Value} :
    sameItems xs ys = true ↔ xs.length = ys.length ∧
      ∀ (i : Nat) x y, xs[i]? = some x → ys[i]? = some y → same x y = true := by
  induction xs generalizing ys with
  | nil => cases ys <;> simp [sameItems]
  | cons x xs ih =>
    cases ys with
    | nil => simp [sameItems]
    | cons y ys =>
      rw [sameItems, Bool.and_eq_true, ih, List.length_cons, List.length_cons,
        Nat.add_right_cancel_iff]
      constructor
      · rintro ⟨hxy, hl, hs⟩
        refine ⟨hl, fun i a b ha hb => ?_⟩
        cases i with
        | zero =>
          cases ha
          cases hb
          exact hxy
        | succ i => exact hs i a b ha hb
      · rintro ⟨hl, hs⟩
        exact ⟨hs 0 x y rfl rfl, hl, fun i a b ha hb => hs (i + 1) a b ha hb⟩

lemma sameFields_iff {fs gs : Fields} :
    sameFields fs gs = true ↔
      ∀ f ∈ fs, ∃ w, gs.lookup f.1 = some w ∧ same f.2 w = true := by
  induction fs with
  | nil => simp [sameFields]
  | cons f fs ih =>
    obtain ⟨n, v⟩ := f
    rw [sameFields, Bool.and_eq_true, ih, List.forall_mem_cons]
    apply and_congr_left'
    cases gs.lookup n <;> simp

lemma same_mapping_iff {fs gs : Fields} (hf : fs.names.Nodup) (hg : gs.names.Nodup) :
    same (.mapping fs) (.mapping gs) = true ↔ (∀ name, name ∈ fs.names ↔ name ∈ gs.names) ∧
      ∀ name v w, fs.lookup name = some v → gs.lookup name = some w → same v w = true := by
  rw [same, Bool.and_eq_true, beq_iff_eq, sameFields_iff]
  constructor
  · rintro ⟨hl, hs⟩
    have hsub : fs.names ⊆ gs.names := by
      intro name hn
      obtain ⟨f, hf, rfl⟩ := List.mem_map.1 hn
      obtain ⟨w, hw, -⟩ := hs f hf
      exact Fields.mem_names_of_lookup hw
    have hsub' := Fields.names_subset_of_length_le hf hsub (Nat.le_of_eq hl.symm)
    refine ⟨fun name => ⟨fun h => hsub h, fun h => hsub' h⟩, fun name v w hv hw => ?_⟩
    obtain ⟨w', hw', hs'⟩ := hs (name, v) (Fields.mem_of_lookup hv)
    cases hw.symm.trans hw'
    exact hs'
  · rintro ⟨hn, hs⟩
    refine ⟨Fields.length_eq_of_names hf hg (fun n => (hn n).1) fun n => (hn n).2, ?_⟩
    rintro ⟨name, v⟩ hm
    have hv : fs.lookup name = some v := Fields.lookup_of_mem hf hm
    obtain ⟨w, hw⟩ := Fields.exists_lookup ((hn name).1 (Fields.mem_names_of_lookup hv))
    exact ⟨w, hw, hs name v w hv hw⟩

lemma place?_ofBool (b : Bool) : (Number.ofBool b).place? ≠ none := nofun

lemma same_iff_eq_or_counts {v w : Value} (h : v.Plain) :
    same v w = true ↔ v.eq w = true ∨ Counts v w := by
  constructor
  · intro hs
    cases v with
    | bool b =>
      cases w with
      | bool c => exact .inl hs
      | number n =>
        rw [same, Number.same_eq_eq (place?_ofBool b)] at hs
        exact .inr (.left hs)
      | _ => cases hs
    | number m =>
      cases h with
      | number hm =>
        cases w with
        | bool c =>
          rw [same, Number.same_eq_eq hm] at hs
          exact .inr (.right hs)
        | number n =>
          rw [same, Number.same_eq_eq hm] at hs
          exact .inl hs
        | _ => cases hs
    | _ => cases w <;> exact .inl hs
  · rintro (he | hc)
    · cases v with
      | number m =>
        cases h with
        | number hm =>
          cases w with
          | number n =>
            rw [same, Number.same_eq_eq hm]
            exact he
          | _ => cases he
      | _ => cases w <;> first | exact he | cases he
    · cases hc with
      | left hn =>
        rw [same, Number.same_eq_eq (place?_ofBool _)]
        exact hn
      | right hn =>
        cases h with
        | number hm =>
          rw [same, Number.same_eq_eq hm]
          exact hn

lemma alike_sequence_counted {k l : SequenceKind} {xs ys : List Value}
    (h : ∀ x ∈ xs, ∀ y ∈ ys, (same x y = true ↔ Alike x.counted y.counted)) :
    same (.sequence k xs) (.sequence l ys) = true ↔
      Alike (counted (.sequence k xs)) (counted (.sequence l ys)) := by
  rw [same, Bool.and_eq_true, decide_eq_true_iff, sameItems_iff, counted, counted, countedItems_eq,
    countedItems_eq]
  constructor
  · rintro ⟨rfl, hl, hs⟩
    refine .sequence (by rw [List.length_map, List.length_map, hl]) fun i x y hx hy => ?_
    rw [List.getElem?_map, Option.map_eq_some_iff] at hx hy
    obtain ⟨a, ha, rfl⟩ := hx
    obtain ⟨b, hb, rfl⟩ := hy
    exact (h a (List.mem_of_getElem? ha) b (List.mem_of_getElem? hb)).1 (hs i a b ha hb)
  · intro ha
    cases ha with
    | sequence hl hs =>
      rw [List.length_map, List.length_map] at hl
      refine ⟨rfl, hl, fun i a b ha hb => ?_⟩
      apply (h a (List.mem_of_getElem? ha) b (List.mem_of_getElem? hb)).2
      exact hs i _ _ (by rw [List.getElem?_map, ha]; rfl) (by rw [List.getElem?_map, hb]; rfl)

lemma alike_mapping_counted {fs gs : Fields} (hf : fs.names.Nodup) (hg : gs.names.Nodup)
    (h : ∀ f ∈ fs, ∀ g ∈ gs, (same f.2 g.2 = true ↔ Alike f.2.counted g.2.counted)) :
    same (.mapping fs) (.mapping gs) = true ↔
      Alike (counted (.mapping fs)) (counted (.mapping gs)) := by
  rw [same_mapping_iff hf hg, counted, counted]
  have hpair : ∀ name v w, fs.lookup name = some v → gs.lookup name = some w →
      (same v w = true ↔ Alike v.counted w.counted) := fun name v w hv hw =>
    h _ (Fields.mem_of_lookup hv) _ (Fields.mem_of_lookup hw)
  constructor
  · rintro ⟨hn, hs⟩
    refine .mapping (fun name => ?_) fun name v w hv hw => ?_
    · rw [names_countedFields, names_countedFields]
      exact hn name
    · rw [lookup_countedFields, Option.map_eq_some_iff] at hv hw
      obtain ⟨v, hv, rfl⟩ := hv
      obtain ⟨w, hw, rfl⟩ := hw
      exact (hpair name v w hv hw).1 (hs name v w hv hw)
  · intro ha
    cases ha with
    | mapping hn hs =>
      simp only [names_countedFields, lookup_countedFields] at hn hs
      refine ⟨hn, fun name v w hv hw => (hpair name v w hv hw).2 ?_⟩
      exact hs name _ _ (by rw [hv]; rfl) (by rw [hw]; rfl)

lemma alike_number_iff {m n : Number} : Alike (.number m) (.number n) ↔ m.eq n = true :=
  ⟨fun h => by cases h; assumption, .number⟩

lemma same_iff_alike {v w : Value} (hv : v.Plain) (hw : w.Plain) :
    same v w = true ↔ Alike v.counted w.counted := by
  induction hv generalizing w with
  | null =>
    cases hw with
    | null => exact ⟨fun _ => .null, fun _ => rfl⟩
    | _ => constructor <;> intro h <;> cases h
  | bool b =>
    cases hw with
    | bool c =>
      rw [counted, counted, alike_number_iff, Number.ofBool_eq_ofBool_iff]
      exact beq_iff_eq
    | number hn =>
      rw [same, Number.same_eq_eq (place?_ofBool b)]
      exact alike_number_iff.symm
    | _ => constructor <;> intro h <;> cases h
  | number hm =>
    cases hw with
    | bool c =>
      rw [same, Number.same_eq_eq hm]
      exact alike_number_iff.symm
    | number hn =>
      rw [same, Number.same_eq_eq hm]
      exact alike_number_iff.symm
    | _ => constructor <;> intro h <;> cases h
  | text s =>
    cases hw with
    | text t =>
      rw [same, beq_iff_eq]
      constructor
      · rintro rfl
        exact .text s
      · intro h
        cases h
        rfl
    | _ => constructor <;> intro h <;> cases h
  | sequence hi ih =>
    cases hw with
    | sequence hw => exact alike_sequence_counted fun x hx y hy => ih x hx (hw y hy)
    | _ => constructor <;> intro h <;> cases h
  | mapping hn hi ih =>
    cases hw with
    | mapping hn' hw => exact alike_mapping_counted hn hn' fun f hf g hg => ih f hf (hw g hg)
    | _ => constructor <;> intro h <;> cases h
  | host i name =>
    cases hw with
    | host j name' =>
      rw [same, beq_iff_eq]
      constructor
      · rintro rfl
        exact .host i name name'
      · intro h
        cases h
        rfl
    | _ => constructor <;> intro h <;> cases h

lemma bool_eq_iff {b : Bool} {v : Value} : (Value.bool b).eq v = true ↔ v = .bool b := by
  cases v with
  | bool c =>
    rw [eq, beq_iff_eq, Value.bool.injEq, eq_comm]
  | _ => exact ⟨nofun, nofun⟩

lemma eq_bool_iff {b : Bool} {v : Value} : v.eq (.bool b) = true ↔ v = .bool b := by
  cases v with
  | bool c =>
    rw [eq, beq_iff_eq, Value.bool.injEq]
  | _ => exact ⟨nofun, nofun⟩

lemma alike_bool_iff {b : Bool} {v : Value} : Alike (.bool b) v.countedWithin ↔ v = .bool b := by
  constructor
  · intro h
    cases v with
    | bool c =>
      cases h
      rfl
    | _ => cases h
  · rintro rfl
    exact .bool b

lemma eq_iff_alike {v w : Value} (hv : v.Plain) (hw : w.Plain) :
    v.eq w = true ↔ Alike v.countedWithin w.countedWithin := by
  have hs : same v w = true ↔ v.eq w = true ∨ Counts v w := same_iff_eq_or_counts hv
  rw [same_iff_alike hv hw] at hs
  cases v with
  | bool b => exact bool_eq_iff.trans alike_bool_iff.symm
  | _ =>
    cases w with
    | bool c => exact ⟨nofun, nofun⟩
    | _ =>
      rw [or_iff_left nofun] at hs
      exact hs.symm

lemma eq_sequence (k l : SequenceKind) (xs ys : List Value) :
    (Value.sequence k xs).eq (.sequence l ys) = (decide (k = l) && sameItems xs ys) := rfl

lemma eq_mapping (fs gs : Fields) :
    (Value.mapping fs).eq (.mapping gs) = same (.mapping fs) (.mapping gs) := rfl

/-- Sequences of one kind are equal if their elements are, and mappings if they bind the same names
to equal values, except that there a truth value is also equal to the number that it counts as.
By itself it is equal to nothing else, so equality is that of the structures, with a number in the
place of every truth value inside. -/
theorem eq_iff_counting {v w : Value} (hv : v.Plain) (hw : w.Plain) :
    (v.eq w = true ↔ Alike v.countedWithin w.countedWithin) ∧
      (∀ k l xs ys, v = .sequence k xs → w = .sequence l ys →
        (v.eq w = true ↔ k = l ∧ xs.length = ys.length ∧
          ∀ (i : Nat) x y, xs[i]? = some x → ys[i]? = some y → x.eq y = true ∨ Counts x y)) ∧
      (∀ fs gs, v = .mapping fs → w = .mapping gs →
        (v.eq w = true ↔ (∀ name, name ∈ Fields.names fs ↔ name ∈ Fields.names gs) ∧
          ∀ name x y, fs.lookup name = some x → gs.lookup name = some y →
            x.eq y = true ∨ Counts x y)) ∧
      (∀ b, (Value.bool b).eq v = true ↔ v = .bool b) ∧
      (∀ b, v.eq (.bool b) = true ↔ v = .bool b) ∧
      Comparison.ne.holds v w = !Comparison.eq.holds v w := by
  refine ⟨eq_iff_alike hv hw, ?_, ?_, fun b => bool_eq_iff, fun b => eq_bool_iff, rfl⟩
  · rintro k l xs ys rfl rfl
    cases hv with
    | sequence hx =>
      rw [eq_sequence, Bool.and_eq_true, decide_eq_true_iff, sameItems_iff]
      refine and_congr_right' (and_congr_right' ?_)
      constructor
      · intro h i x y ha hb
        exact (same_iff_eq_or_counts (hx x (List.mem_of_getElem? ha))).1 (h i x y ha hb)
      · intro h i x y ha hb
        exact (same_iff_eq_or_counts (hx x (List.mem_of_getElem? ha))).2 (h i x y ha hb)
  · rintro fs gs rfl rfl
    cases hv with
    | mapping hn hx =>
      cases hw with
      | mapping hn' hy =>
        rw [eq_mapping, same_mapping_iff hn hn']
        refine and_congr_right' ?_
        constructor
        · intro h name x y ha hb
          exact (same_iff_eq_or_counts (hx _ (Fields.mem_of_lookup ha))).1 (h name x y ha hb)
        · intro h name x y ha hb
          exact (same_iff_eq_or_counts (hx _ (Fields.mem_of_lookup ha))).2 (h name x y ha hb)

lemma plain_int (n : Int) : (Value.int n).Plain :=
  .number nofun

lemma plain_pair {k : SequenceKind} {v w : Value} (hv : v.Plain) (hw : w.Plain) :
    (Value.sequence k [v, w]).Plain :=
  .sequence (List.forall_mem_cons.2 ⟨hv, List.forall_mem_singleton.2 hw⟩)

theorem eq_iff_counting_nested :
    let v : Value := .sequence .list [.int 1, .mapping [("a", .bool true), ("b", .text "t")]]
    let w : Value := .sequence .list [.bool true, .mapping [("b", .text "t"), ("a", .int 1)]]
    v.Plain ∧ w.Plain ∧ v.eq w = true ∧ Alike v.countedWithin w.countedWithin := by
  intro v w
  have hv : v.Plain := by
    refine plain_pair (plain_int 1) (.mapping (by decide) ?_)
    exact List.forall_mem_cons.2 ⟨.bool true, List.forall_mem_singleton.2 (.text "t")⟩
  have hw : w.Plain := by
    refine plain_pair (.bool true) (.mapping (by decide) ?_)
    exact List.forall_mem_cons.2 ⟨.text "t", List.forall_mem_singleton.2 (plain_int 1)⟩
  have h : v.eq w = true := by
    decide +kernel
  exact ⟨hv, hw, h, (eq_iff_counting hv hw).1.1 h⟩

theorem eq_sequence_of_unequal :
    ¬ ∀ k xs ys, (Value.sequence k xs).Plain → (Value.sequence k ys).Plain →
      ((Value.sequence k xs).eq (.sequence k ys) = true ↔ xs.length = ys.length ∧
        ∀ (i : Nat) x y, xs[i]? = some x → ys[i]? = some y → x.eq y = true) := by
  intro h
  have hx : (Value.sequence .list [.int 1]).Plain :=
    .sequence (List.forall_mem_singleton.2 (plain_int 1))
  have hy : (Value.sequence .list [.bool true]).Plain :=
    .sequence (List.forall_mem_singleton.2 (.bool true))
  have he : (Value.sequence .list [.int 1]).eq (.sequence .list [.bool true]) = true := by
    decide +kernel
  obtain ⟨-, hs⟩ := (h .list _ _ hx hy).1 he
  cases hs 0 (.int 1) (.bool true) rfl rfl

end Value

end Stencil
