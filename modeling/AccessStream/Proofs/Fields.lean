import AccessStream.Fields
import Mathlib.Data.List.Basic
import Mathlib.Data.List.Nodup
import Mathlib.Tactic.SplitIfs

/-!
# Looking up fields

What stands under a key in a list of keys with values: what comes first under it, and the only thing
under it where no key comes twice (`lookup_eq_some_iff`).
-/

namespace AccessStream.Fields

variable {α β : Type}

theorem lookup_cons_ite [BEq α] [LawfulBEq α] [DecidableEq α] (key other : α) (value : β)
    (entries : List (α × β)) :
    ((key, value) :: entries).lookup other =
      if other = key then some value else entries.lookup other := by
  rw [List.lookup_cons]
  split_ifs with same
  · simp [same]
  · simp [beq_false_of_ne same]

section

variable [BEq α] [LawfulBEq α] {entries : List (α × β)} {key : α} {value : β}

theorem mem_of_lookup (found : entries.lookup key = some value) : (key, value) ∈ entries := by
  obtain ⟨before, after, split, -⟩ := List.lookup_eq_some_iff.1 found
  simp [split]

theorem lookup_eq_of_mem_iff {found : Option β}
    (h : ∀ value, (key, value) ∈ entries ↔ found = some value) : entries.lookup key = found := by
  cases looked : entries.lookup key with
  | some value => exact ((h value).1 (mem_of_lookup looked)).symm
  | none =>
    cases found with
    | none => rfl
    | some value =>
      have absent := List.lookup_eq_none_iff.1 looked (key, value) ((h value).2 rfl)
      simp at absent

theorem lookup_eq_some_iff (distinct : (entries.map Prod.fst).Nodup) :
    entries.lookup key = some value ↔ (key, value) ∈ entries := by
  refine ⟨mem_of_lookup, fun among => ?_⟩
  obtain ⟨before, after, rfl⟩ := List.append_of_mem among
  refine List.lookup_eq_some_iff.2 ⟨before, after, rfl, fun entry inside => ?_⟩
  -- an entry of the same key before it would repeat the key
  rw [List.map_append, List.map_cons, List.nodup_append] at distinct
  have other := distinct.2.2 entry.1 (List.mem_map_of_mem inside) key List.mem_cons_self
  simpa using fun same => other same.symm

end

theorem readOr_eq_elim (fields : Fields α) (name : String) (default : β) (read : α → Option β) :
    fields.readOr name default read = (fields.lookup name).elim (some default) read := by
  rw [readOr]
  cases fields.lookup name <;> rfl

end AccessStream.Fields
