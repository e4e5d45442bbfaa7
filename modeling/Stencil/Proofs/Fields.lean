import Mathlib.Data.List.Perm.Subperm
import Stencil.Value

/-! Fields in which no name is bound twice are finite maps. -/

namespace Stencil.Fields

variable {fs gs : Fields} {name : String} {v : Value}

def names (fs : Fields) : List String :=
  fs.map Prod.fst

lemma mem_of_lookup (h : fs.lookup name = some v) : (name, v) ∈ fs := by
  obtain ⟨l₁, l₂, rfl, -⟩ := List.lookup_eq_some_iff.1 h
  simp

lemma mem_names_of_lookup (h : fs.lookup name = some v) : name ∈ fs.names :=
  List.mem_map_of_mem (mem_of_lookup h)

lemma lookup_eq_none_iff : fs.lookup name = none ↔ name ∉ fs.names := by
  induction fs with
  | nil => simp [names]
  | cons f fs ih =>
    obtain ⟨n, w⟩ := f
    by_cases h : name = n
    · simp [names, h]
    · simpa [List.lookup_cons, names, h, beq_eq_false_iff_ne.2 h] using ih

lemma exists_lookup (h : name ∈ fs.names) : ∃ v, fs.lookup name = some v := by
  cases hl : fs.lookup name with
  | none => exact (lookup_eq_none_iff.1 hl h).elim
  | some v => exact ⟨v, rfl⟩

lemma lookup_of_mem (hn : fs.names.Nodup) (h : (name, v) ∈ fs) : fs.lookup name = some v := by
  induction fs with
  | nil => cases h
  | cons f fs ih =>
    obtain ⟨hf, hfs⟩ := List.nodup_cons.1 hn
    rcases List.mem_cons.1 h with rfl | h
    · simp
    · have hne : name ≠ f.1 := by
        rintro rfl
        exact hf (List.mem_map.2 ⟨(f.1, v), h, rfl⟩)
      rw [List.lookup_cons, beq_eq_false_iff_ne.2 hne]
      exact ih hfs h

lemma names_subset_of_length_le (hn : fs.names.Nodup) (hs : fs.names ⊆ gs.names)
    (hl : gs.length ≤ fs.length) : gs.names ⊆ fs.names := by
  have hl' : gs.names.length ≤ fs.names.length := by
    rw [names, names, List.length_map, List.length_map]
    exact hl
  exact ((hn.subperm hs).perm_of_length_le hl').symm.subset

lemma length_eq_of_names (hf : fs.names.Nodup) (hg : gs.names.Nodup) (h : fs.names ⊆ gs.names)
    (h' : gs.names ⊆ fs.names) : fs.length = gs.length := by
  have hl : fs.names.length = gs.names.length :=
    Nat.le_antisymm (hf.subperm h).length_le (hg.subperm h').length_le
  rwa [names, names, List.length_map, List.length_map] at hl

end Stencil.Fields
