import Mathlib.Data.Set.Insert
import Stencil.Proofs.Fields
import Stencil.Proofs.Invariant
import Stencil.Proofs.Iteration
import Stencil.Template

/-! What the name `loop` stands for inside loops: the place of the innermost one, unless an open
frame binds the name. -/

namespace Stencil

lemma Fields.mem_names_set {name n : String} {v : Value} {fs : Fields} :
    n ∈ (Fields.set name v fs).names ↔ n = name ∨ n ∈ fs.names := by
  rw [← not_iff_not, ← lookup_eq_none_iff, lookup_set, not_or, ← lookup_eq_none_iff]
  split <;> simp [*]

/-- An iteration under way: the item variable, the index and the number of elements of its loop,
and the names that have been bound in its frame since it began. -/
structure Turn where
  item : String
  index : Nat
  length : Nat
  bound : Set String

namespace Turn

def position (r : Turn) : LoopPosition :=
  ⟨r.index, r.length⟩

def names (r : Turn) : Set String :=
  insert r.item r.bound

end Turn

/-- The iterations under way, from the inside out, and the names that have been bound outside
loops. -/
structure Trail where
  turns : List Turn
  outside : Set String

namespace Trail

def start : Trail :=
  ⟨[], ∅⟩

def bind (names : Set String) : Trail → Trail
  | ⟨[], outside⟩ => ⟨[], names ∪ outside⟩
  | ⟨r :: rs, outside⟩ => ⟨{ r with bound := names ∪ r.bound } :: rs, outside⟩

def enter (item : String) (i n : Nat) (k : Trail) : Trail :=
  { k with turns := ⟨item, i, n, ∅⟩ :: k.turns }

def frames (k : Trail) : List (Set String) :=
  k.turns.map Turn.names ++ [k.outside]

structure Matches (k : Trail) (s : Scope) : Prop where
  loops : s.loops = k.turns.map Turn.position
  frames : List.Forall₂ (fun f names => ∀ name, name ∈ Fields.names f ↔ name ∈ names) s.frames
    k.frames

end Trail

namespace Node

variable (table : FilterTable)

inductive Binds : List Node → Scope → String → Prop
  | set {name e filters line ns s v} : (e.evalWith table s filters).1 = .ok v →
      Binds (.set name e filters line :: ns) s name
  | next {n ns s name} : (n.render table s).error = none → Binds ns (n.render table s).scope name →
      Binds (n :: ns) s name
  | branch {branches otherwise body ns s name} : Takes s branches otherwise body →
      Binds body s name → Binds (.conditional branches otherwise :: ns) s name

/-- A run of nodes comes to a node, which it renders in a scope of its own; the trails tell which
frames are open at the start and there. -/
inductive Comes : List Node → Scope → Trail → Node → Scope → Trail → Prop
  | here {n ns s k} : Comes (n :: ns) s k n s k
  | next {n ns s k m t l} : (n.render table s).error = none →
      Comes ns (n.render table s).scope (k.bind {name | Binds table [n] s name}) m t l →
      Comes (n :: ns) s k m t l
  | branch {branches otherwise body ns s k m t l} : Takes s branches otherwise body →
      Comes body s k m t l → Comes (.conditional branches otherwise :: ns) s k m t l
  | iteration {item iterable body ns s k kind before v after m t l} :
      iterable.resolve s = .sequence kind (before ++ v :: after) →
      (Run.iterate item (before ++ v :: after).length (renderAll table body) 0 before s).error =
        none →
      Comes body (s.enter item v ⟨before.length, (before ++ v :: after).length⟩)
        (k.enter item before.length (before ++ v :: after).length) m t l →
      Comes (.loop item iterable body :: ns) s k m t l

variable {table} {ns : List Node} {n m : Node} {s t : Scope} {k l : Trail} {name : String}

lemma Comes.reaches (h : Comes table ns s k m t l) : Reaches table ns s m t := by
  induction h with
  | here => exact .here
  | next he _ ih => exact .next he ih
  | branch ht _ ih => exact .branch ht ih
  | iteration hi hn _ ih => exact .iteration_of_resolve hi hn ih

lemma Reaches.exists_comes (h : Reaches table ns s m t) (k : Trail) :
    ∃ l, Comes table ns s k m t l := by
  induction h generalizing k with
  | here => exact ⟨k, .here⟩
  | next he _ ih =>
    obtain ⟨l, hl⟩ := ih _
    exact ⟨l, .next he hl⟩
  | branch ht _ ih =>
    obtain ⟨l, hl⟩ := ih k
    exact ⟨l, .branch ht hl⟩
  | iteration hi hn _ ih =>
    rw [scope_iterate_renderAll] at ih
    obtain ⟨l, hl⟩ := ih _
    exact ⟨l, .iteration hi hn hl⟩

lemma scope_render_loop (item : String) (iterable : Path) (body : List Node) (s : Scope) :
    (render table (.loop item iterable body) s).scope = s := by
  rw [render]
  split
  · exact scope_iterate_renderAll item _ 0 body _ s
  · rfl
  · rfl

lemma binds_nil : ¬ Binds table [] s name := nofun

lemma binds_cons : Binds table (n :: ns) s name ↔ Binds table [n] s name ∨
    (n.render table s).error = none ∧ Binds table ns (n.render table s).scope name := by
  constructor
  · intro h
    cases h with
    | set hv => exact .inl (.set hv)
    | next he h => exact .inr ⟨he, h⟩
    | branch ht h => exact .inl (.branch ht h)
  · rintro (h | ⟨he, h⟩)
    · cases h with
      | set hv => exact .set hv
      | next he h => exact (binds_nil h).elim
      | branch ht h => exact .branch ht h
    · exact .next he h

lemma binds_set {x : String} {e : Expr} {filters : List FilterCall} {line : Option Int} :
    Binds table [.set x e filters line] s name ↔
      name = x ∧ ∃ v, (e.evalWith table s filters).1 = .ok v := by
  constructor
  · intro h
    cases h with
    | set hv => exact ⟨rfl, _, hv⟩
    | next he h => exact (binds_nil h).elim
  · rintro ⟨rfl, v, hv⟩
    exact .set hv

lemma binds_conditional {branches : List (Expr × List Node)} {otherwise : Option (List Node)} :
    Binds table [.conditional branches otherwise] s name ↔
      ∃ body, Takes s branches otherwise body ∧ Binds table body s name := by
  constructor
  · intro h
    cases h with
    | next he h => exact (binds_nil h).elim
    | branch ht h => exact ⟨_, ht, h⟩
  · rintro ⟨body, ht, h⟩
    exact .branch ht h

lemma not_binds (hs : ∀ x e filters line, n ≠ .set x e filters line)
    (hc : ∀ branches otherwise, n ≠ .conditional branches otherwise) :
    ¬ Binds table [n] s name := by
  intro h
  cases h with
  | set hv => exact hs _ _ _ _ rfl
  | next he h => exact binds_nil h
  | branch ht h => exact hc _ _ rfl

lemma takes_cons {test : Expr} {body ns : List Node} {bs : List (Expr × List Node)}
    {otherwise : Option (List Node)} :
    Takes s ((test, body) :: bs) otherwise ns ↔ ∃ v, test.eval s = .ok v ∧
      if v.isTruthy then ns = body else Takes s bs otherwise ns := by
  constructor
  · intro h
    cases h with
    | test he hv => exact ⟨_, he, by rw [if_pos hv]⟩
    | later he hv h => exact ⟨_, he, by rwa [hv, if_neg Bool.false_ne_true]⟩
  · rintro ⟨v, he, h⟩
    cases hv : v.isTruthy with
    | true =>
      rw [hv, if_pos rfl] at h
      subst h
      exact .test he hv
    | false =>
      rw [hv, if_neg Bool.false_ne_true] at h
      exact .later he hv h

mutual

lemma mem_names_render (n : Node) {s : Scope} :
    name ∈ Fields.names (n.render table s).scope.inner ↔
      name ∈ Fields.names s.inner ∨ Binds table [n] s name := by
  cases n with
  | set x e filters line =>
    rw [binds_set, render]
    rcases e.evalWith table s filters with ⟨_ | v, events⟩
    · simp [Run.ofValue]
    · simp [Run.ofValue, Run.nothing, Scope.assign, Fields.mem_names_set, or_comm]
  | conditional branches otherwise =>
    rw [binds_conditional, render]
    refine mem_names_renderBranches branches otherwise ?_
    exact mem_names_renderElse otherwise
  | output e filters line =>
    rw [or_iff_left (not_binds (by simp) (by simp)), render]
    rcases e.evalWith table s filters with ⟨_ | v, events⟩
    · exact Iff.rfl
    · simp only [Run.ofValue, Run.scope_write]
  | loop item iterable body =>
    rw [or_iff_left (not_binds (by simp) (by simp)), scope_render_loop]
  | text x => exact (or_iff_left (not_binds (by simp) (by simp))).symm
  | unknown type => exact (or_iff_left (not_binds (by simp) (by simp))).symm

lemma mem_names_renderAll (ns : List Node) {s : Scope} :
    name ∈ Fields.names (renderAll table ns s).scope.inner ↔
      name ∈ Fields.names s.inner ∨ Binds table ns s name := by
  cases ns with
  | nil => exact (or_iff_left binds_nil).symm
  | cons n ns =>
    rw [binds_cons, ← or_assoc, ← mem_names_render n, renderAll]
    cases he : (n.render table s).error with
    | some e => simp [Run.andThen, he]
    | none =>
      rw [Run.scope_andThen he, mem_names_renderAll ns]
      simp

lemma mem_names_renderBranches (bs : List (Expr × List Node)) (otherwise : Option (List Node))
    {s : Scope}
    (ho : name ∈ Fields.names (renderElse table otherwise s).scope.inner ↔
      name ∈ Fields.names s.inner ∨ ∃ ns, Takes s [] otherwise ns ∧ Binds table ns s name) :
    name ∈ Fields.names (renderBranches table bs (renderElse table otherwise) s).scope.inner ↔
      name ∈ Fields.names s.inner ∨ ∃ ns, Takes s bs otherwise ns ∧ Binds table ns s name := by
  rcases bs with _ | ⟨⟨test, body⟩, bs⟩
  · exact ho
  simp only [takes_cons]
  rw [renderBranches]
  cases test.eval s with
  | error e => simp
  | ok v =>
    cases hv : v.isTruthy with
    | true => simpa [hv] using mem_names_renderAll body
    | false => simpa [hv] using mem_names_renderBranches bs otherwise ho

lemma mem_names_renderElse (otherwise : Option (List Node)) {s : Scope} :
    name ∈ Fields.names (renderElse table otherwise s).scope.inner ↔
      name ∈ Fields.names s.inner ∨ ∃ ns, Takes s [] otherwise ns ∧ Binds table ns s name := by
  rcases otherwise with _ | ns
  · refine (or_iff_left ?_).symm
    rintro ⟨ns, ht, -⟩
    cases ht
  · rw [renderElse, mem_names_renderAll ns]
    refine or_congr_right ⟨fun h => ⟨ns, .otherwise, h⟩, ?_⟩
    rintro ⟨ns, ht, h⟩
    cases ht
    exact h

end

end Node

namespace Trail

open Node

variable {table : FilterTable} {ns : List Node} {n m : Node} {s t : Scope} {k l : Trail}

lemma matches_start (data : Fields) : start.Matches (.ofData data) where
  loops := rfl
  frames := .cons (fun _ => ⟨nofun, nofun⟩) .nil

lemma Matches.enter (h : k.Matches s) (item : String) (v : Value) (i n : Nat) :
    (k.enter item i n).Matches (s.enter item v ⟨i, n⟩) where
  loops := by
    change _ :: s.loops = _
    rw [h.loops]
    rfl
  frames := by
    refine .cons (fun name => ?_) h.frames
    simp [Fields.names, Turn.names, Scope.enter]

lemma Matches.render (h : k.Matches s) (n : Node) :
    (k.bind {name | Binds table [n] s name}).Matches (n.render table s).scope := by
  have hk := keeps_render table n s
  have hn : ∀ name, name ∈ Fields.names (n.render table s).scope.inner ↔
      name ∈ Fields.names s.inner ∨ Binds table [n] s name := fun name => mem_names_render n
  rcases k with ⟨_ | ⟨r, rs⟩, outside⟩
  · obtain ⟨hl, hf⟩ := h
    cases hf with
    | cons hi ho =>
      refine ⟨hk.loops.trans hl, .cons (fun name => ?_) ?_⟩
      · rw [hn, hi, or_comm]
        rfl
      · rw [hk.outer]
        exact ho
  · obtain ⟨hl, hf⟩ := h
    cases hf with
    | cons hi ho =>
      refine ⟨hk.loops.trans hl, .cons (fun name => ?_) ?_⟩
      · rw [hn, hi]
        simp only [Turn.names, Set.mem_insert_iff, Set.mem_union]
        rw [or_assoc]
        exact or_congr_right or_comm
      · rw [hk.outer]
        exact ho

lemma Matches.comes (h : k.Matches s) (hc : Comes table ns s k m t l) : l.Matches t := by
  induction hc with
  | here => exact h
  | @next n ns s k m t l _ _ ih => exact ih (h.render n)
  | branch _ _ ih => exact ih h
  | iteration _ _ _ ih => exact ih (h.enter _ _ _ _)

end Trail

namespace Scope

lemma findSome?_frames {s : Scope} {name : String}
    (h : ∃ f ∈ s.frames, name ∈ Fields.names f) :
    s.frames.findSome? (·.lookup name) = some (s.lookup name) := by
  obtain ⟨f, hf, hn⟩ := h
  obtain ⟨w, hw⟩ := Fields.exists_lookup hn
  cases hv : s.frames.findSome? (·.lookup name) with
  | none => cases hw.symm.trans (List.findSome?_eq_none_iff.1 hv f hf)
  | some v => rw [lookup, lookup?, hv, Option.some_or, Option.getD_some]

end Scope

namespace Trail

variable {k : Trail} {s : Scope}

lemma mem_frames (k : Trail) (name : String) :
    (∃ S ∈ k.frames, name ∈ S) ↔
      (∃ r ∈ k.turns, r.item = name ∨ name ∈ r.bound) ∨ name ∈ k.outside := by
  simp [frames, Turn.names, eq_comm, or_and_right, exists_or]

lemma Matches.binds_iff (h : k.Matches s) (name : String) :
    (∃ f ∈ s.frames, name ∈ Fields.names f) ↔ ∃ S ∈ k.frames, name ∈ S := by
  have hf := h.frames
  generalize s.frames = fs at hf ⊢
  generalize k.frames = Ss at hf ⊢
  induction hf with
  | nil => simp
  | cons hi _ ih => simp [hi name, ih]

lemma Matches.lookup_loop (h : k.Matches s) {r : Turn} {rs : List Turn} (hk : k.turns = r :: rs)
    (hn : ¬ ∃ S ∈ k.frames, "loop" ∈ S) :
    s.lookup "loop" = .mapping
      [("index", .int (r.index + 1)), ("index0", .int r.index), ("first", .bool (r.index = 0)),
       ("last", .bool (r.index + 1 = r.length)), ("length", .int r.length)] := by
  rw [← h.binds_iff] at hn
  have hf : ∀ f ∈ s.frames, f.lookup "loop" = none := fun f hf =>
    Fields.lookup_eq_none_iff.2 fun hm => hn ⟨f, hf, hm⟩
  have hp : s.loops = r.position :: rs.map Turn.position := by
    rw [h.loops, hk, List.map_cons]
  rw [Scope.lookup_loop hf hp]
  exact Scope.toValue_position r.index r.length

end Trail

namespace Node

/-- Inside a loop the name `loop` stands for the place in the innermost loop as long as no frame
that is open there binds it, whatever the data has under that name; and it does so again after a
loop further inside. Where an open frame binds it, it has the value that the innermost such frame
gives it. -/
theorem resolve_loop_innermost (table : FilterTable) (nodes : List Node) (data : Value) :
    let s := Scope.ofData data.fields
    let loop := Path.mk "loop" []
    (∀ m t, Reaches table nodes s m t ↔ ∃ k, Comes table nodes s .start m t k) ∧
      ∀ m t r rs outside, Comes table nodes s .start m t ⟨r :: rs, outside⟩ →
        let bound := (∃ q ∈ r :: rs, q.item = "loop" ∨ "loop" ∈ q.bound) ∨ "loop" ∈ outside
        (¬ bound → loop.resolve t = .mapping
            [("index", .int (r.index + 1)), ("index0", .int r.index),
             ("first", .bool (r.index = 0)), ("last", .bool (r.index + 1 = r.length)),
             ("length", .int r.length)]) ∧
          (bound → t.frames.findSome? (·.lookup "loop") = some (loop.resolve t)) ∧
          ∀ item iterable body,
            loop.resolve (render table (.loop item iterable body) t).scope = loop.resolve t := by
  intro s loop
  refine ⟨fun m t => ⟨fun hr => hr.exists_comes .start, fun ⟨k, hc⟩ => hc.reaches⟩,
    fun m t r rs outside hc => ?_⟩
  have hm : Trail.Matches ⟨r :: rs, outside⟩ t := (Trail.matches_start data.fields).comes hc
  have hb := Trail.mem_frames ⟨r :: rs, outside⟩ "loop"
  refine ⟨fun hn => ?_, fun hn => ?_, fun item iterable body => ?_⟩
  · exact hm.lookup_loop rfl fun h => hn (hb.1 h)
  · exact Scope.findSome?_frames ((hm.binds_iff "loop").2 (hb.2 hn))
  · rw [scope_render_loop]

theorem resolve_loop_innermost_after_inner :
    let inner : Node := .loop "x" ⟨"row", []⟩ [.set "loop" (.path ⟨"x", []⟩) [] none]
    let shown : Node := .output (.path ⟨"loop", [.key "index"]⟩) [] none
    let rows : List Value := [.sequence .list [.text "a"], .sequence .list [.text "b"]]
    let data : Value := .mapping [("rows", .sequence .list rows), ("loop", .text "c")]
    ∃ t r, Comes (fun _ => none) [.loop "row" ⟨"rows", []⟩ [inner, shown]] (.ofData data.fields)
        .start shown t ⟨[r], ∅⟩ ∧
      (r.item ≠ "loop" ∧ "loop" ∉ r.bound) ∧
      Path.resolve ⟨"loop", []⟩ t = .mapping
        [("index", .int 2), ("index0", .int 1), ("first", .bool false), ("last", .bool true),
         ("length", .int 2)] := by
  intro inner shown rows data
  let s : Scope := .ofData data.fields
  let u : Scope := s.enter "row" (.sequence .list [.text "b"]) ⟨1, 2⟩
  let r : Turn := ⟨"row", 1, 2, {name | Binds (fun _ => none) [inner] u name} ∪ ∅⟩
  have hc : Comes (fun _ => none) [.loop "row" ⟨"rows", []⟩ [inner, shown]] s .start shown u
      ⟨[r], ∅⟩ := by
    have hi : Path.resolve ⟨"rows", []⟩ s =
        .sequence .list ([.sequence .list [.text "a"]] ++ .sequence .list [.text "b"] :: []) := rfl
    refine .iteration hi ?_ (.next ?_ .here)
    · decide +kernel
    · decide +kernel
  have hr : "loop" ∉ r.bound := by
    rintro (h | h)
    · exact not_binds (by simp [inner]) (by simp [inner]) h
    · exact h
  refine ⟨u, r, hc, ⟨by decide, hr⟩, ?_⟩
  have h := ((resolve_loop_innermost (fun _ => none) _ data).2 _ _ _ _ _ hc).1
  refine h ?_
  rintro (⟨q, hq, hb⟩ | h)
  · cases List.mem_singleton.1 hq
    rcases hb with hi | hb
    · exact absurd hi (by decide)
    · exact hr hb
  · exact h

theorem resolve_loop_hidden :
    ¬ ∀ table nodes (data : Value) m t r rs outside,
      Comes table nodes (.ofData data.fields) .start m t ⟨r :: rs, outside⟩ →
      r.item ≠ "loop" → "loop" ∉ r.bound →
      Path.resolve ⟨"loop", []⟩ t = .mapping
        [("index", .int (r.index + 1)), ("index0", .int r.index), ("first", .bool (r.index = 0)),
         ("last", .bool (r.index + 1 = r.length)), ("length", .int r.length)] := by
  intro h
  let five : Node := .set "loop" (.literal (.int 5)) [] none
  let shown : Node := .output (.path ⟨"loop", [.key "index"]⟩) [] none
  let data : Value := .mapping [("xs", .sequence .list [.text "a"])]
  let s : Scope := (Scope.ofData data.fields).assign "loop" (.int 5)
  have hc : Comes (fun _ => none) [five, .loop "x" ⟨"xs", []⟩ [shown]] (.ofData data.fields) .start
      shown (s.enter "x" (.text "a") ⟨0, 1⟩)
      ⟨[⟨"x", 0, 1, ∅⟩], {name | Binds (fun _ => none) [five] (.ofData data.fields) name} ∪ ∅⟩ := by
    have hi : Path.resolve ⟨"xs", []⟩ s = .sequence .list ([] ++ .text "a" :: []) := rfl
    exact .next rfl (.iteration hi rfl .here)
  cases h _ _ _ _ _ _ _ _ hc (by decide) id

end Node

end Stencil
