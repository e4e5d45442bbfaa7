import Stencil.Filter.Builtin
import Stencil.Proofs.Shortness

/-! What the built-in filters return. Apart from texts and counts it is something that they were
given. -/

namespace Stencil

open Outcome

namespace Value

def size? : Value → Option Nat
  | .mapping fields => some fields.length
  | v => v.length?

def Sized (v : Value) : Prop :=
  ∀ n, v.size? = some n → ¬ Number.TooLong n

end Value

namespace Filter

inductive Returns (v : Value) (args : List Value) : Value → Prop
  | value : Returns v args v
  | argument {a : Value} : a ∈ args → Returns v args a
  | text (s : String) : Returns v args (.text s)
  | size : Returns v args (.int (v.size?.getD 0))
  | element {kind : SequenceKind} {items : List Value} {a : Value} :
      v = .sequence kind items → a ∈ items → Returns v args a
  | null : Returns v args .null

variable {v w : Value} {args : List Value}

lemma Returns.short (h : Returns v args w) (hv : v.Short) (ha : ∀ a ∈ args, a.Short)
    (hsize : v.Sized) (hw : w.Sized) : w.Short := by
  cases h with
  | value => exact hv
  | argument h => exact ha _ h
  | text s => exact .text (hw _ rfl)
  | size =>
    cases hn : v.size? with
    | none => exact .int (Number.not_tooLong_of_le_most (Nat.zero_le _))
    | some n => exact .int (hsize n hn)
  | element h hm =>
    subst h
    cases hv with
    | sequence _ hi => exact hi _ hm
  | null => exact .null

lemma returns_getD {fallback : Value} (h : Returns v args fallback) (i : Nat) :
    Returns v args (args.getD i fallback) := by
  rw [List.getD_eq_getElem?_getD]
  cases hi : args[i]? with
  | none => exact h
  | some a => exact .argument (List.mem_of_getElem? hi)

lemma returns_option {x : Option Value} (h : ∀ a, x = some a → Returns v args a) :
    Returns v args (x.getD .null) := by
  cases x with
  | none => exact .null
  | some a => exact h a rfl

lemma returns_default {fallback : Value} (h : Returns v args fallback) :
    Returns v args (default v fallback) := by
  unfold default
  split
  · exact h
  · split
    · exact h
    · exact .value
  · exact .value

lemma returns_onText (f : List Char → List Char) : Returns v args (onText f v) := by
  cases v <;> exact .text _

lemma returns_length : Returns v args (length v) := by
  have h : length v = .int (v.size?.getD 0) := by cases v <;> rfl
  rw [h]
  exact .size

lemma returns_first : Returns v args (first v) := by
  cases v with
  | sequence kind items =>
    exact returns_option fun a ha => .element rfl (List.mem_of_head? ha)
  | _ => exact .null

lemma returns_last : Returns v args (last v) := by
  cases v with
  | sequence kind items =>
    exact returns_option fun a ha => .element rfl (List.mem_of_getLast? ha)
  | _ => exact .null

lemma returns_join {separator : Value} (h : join v separator = .ok w) : Returns v args w := by
  cases v with
  | sequence kind items =>
    obtain ⟨s, -, h⟩ := bind_eq_ok.1 h
    obtain ⟨texts, -, h⟩ := bind_eq_ok.1 h
    cases h
    exact .text _
  | _ =>
    cases h
    exact .text _

lemma returns_replace {search replacement : Value} (h : replace v search replacement = .ok w) :
    Returns v args w := by
  unfold replace at h
  split at h
  · cases h
    exact returns_onText _
  · cases h

lemma returns_truncate {length killWords ending : Value}
    (h : truncate v length killWords ending = .ok w) : Returns v args w := by
  unfold truncate at h
  extract_lets refuse at h
  have hrefuse : refuse ≠ .ok w := by
    intro hr
    simp only [refuse] at hr
    split at hr <;> cases hr
  split at h
  · split at h
    · exact (hrefuse h).elim
    split at h
    · obtain ⟨n, -, h⟩ := bind_eq_ok.1 h
      dsimp only at h
      split at h
      · cases h
        exact .text _
      · obtain ⟨t, -, h⟩ := bind_eq_ok.1 h
        cases h
        exact .text _
    · cases h
      exact .text _
  · exact (hrefuse h).elim

lemma returns_date {g : Calendar.Setting} {format : Value} (h : (date g v format).outcome = .ok w) :
    Returns v args w := by
  have hanswer : ∀ found, (answer v format found).outcome = .ok w → Returns v args w := by
    intro found h
    cases found with
    | moment t =>
      cases h
      unfold formatted
      split <;> exact .text _
    | nothing =>
      cases h
      exact .text _
    | unreadable u =>
      cases h
      exact .text _
    | fault e => cases h
  cases v with
  | null =>
    cases h
    exact .text _
  | number _ | text _ =>
    cases hf : formatFault? format with
    | none =>
      simp only [date, hf] at h
      exact hanswer _ h
    | some e => simp [date, hf] at h
  | _ =>
    cases h
    exact .value

end Filter

namespace Builtin

open Stencil.Filter

lemma returns_run {g : Calendar.Setting} {b : Builtin} {v w : Value} {args : List Value}
    (h : (b.run g v args).outcome = .ok w) : Returns v args w := by
  cases b with
  | date => exact returns_date h
  | replace => exact returns_replace h
  | truncate => exact returns_truncate h
  | join => exact returns_join h
  | default =>
    cases h
    exact returns_default (returns_getD (.text "") 0)
  | length =>
    cases h
    exact returns_length
  | first =>
    cases h
    exact returns_first
  | last =>
    cases h
    exact returns_last
  | upper | lower | capitalize | title | trim | nl2br =>
    cases h
    exact returns_onText _

lemma returns_of_table {g : Calendar.Setting} {name : String} {f : Filter}
    (hf : table g name = some f) {v w : Value} {args : List Value}
    (h : (f v args).outcome = .ok w) : Returns v args w := by
  obtain ⟨b, -, rfl⟩ := Option.map_eq_some_iff.1 hf
  simp only [filter] at h
  split at h
  · cases h
  · exact returns_run h

end Builtin

end Stencil
