import AccessStream.AttributeSet
import Mathlib.Data.List.Sort

/-!
# Attribute sets as finite mappings

An attribute set is determined by the values of its keys (`ext_get?`), whatever the order in which
they were written. A key that is written has the value that it was written with, the other keys keep
theirs (`get?_insert`), and in a set made from a list each key has the value of its last entry
(`get?_ofList_eq_some_iff`).
-/

namespace AccessStream.AttributeSet

/-- An entry is the last one with its key. -/
def IsLast (entries : List (String × String)) (key value : String) : Prop :=
  ∃ before after, entries = before ++ (key, value) :: after ∧ ∀ later ∈ after, later.1 ≠ key

/-! ## Looking up -/

/-- The place of an entry: the keys before it are less and those after it greater. -/
theorem exists_split_of_mem {set : AttributeSet} {key value : String}
    (h : (key, value) ∈ set.entries) :
    ∃ before after, set.entries = before ++ (key, value) :: after ∧
      (∀ entry ∈ before, entry.1 < key) ∧ ∀ entry ∈ after, key < entry.1 := by
  obtain ⟨before, after, split⟩ := List.append_of_mem h
  have sorted := set.sorted
  rw [split, List.pairwise_append, List.pairwise_cons] at sorted
  obtain ⟨-, ⟨above, -⟩, below⟩ := sorted
  exact ⟨before, after, split, fun entry he => below entry he _ List.mem_cons_self, above⟩

theorem get?_eq_some_iff {set : AttributeSet} {key value : String} :
    set.get? key = some value ↔ (key, value) ∈ set.entries := by
  rw [get?, List.lookup_eq_some_iff]
  constructor
  · rintro ⟨before, after, split, -⟩
    simp [split]
  · intro h
    obtain ⟨before, after, split, below, -⟩ := exists_split_of_mem h
    refine ⟨before, after, split, fun entry he => ?_⟩
    simpa using (String.ne_of_lt (below entry he)).symm

theorem contains_eq_true_iff {set : AttributeSet} {key : String} :
    set.contains key = true ↔ ∃ value, set.get? key = some value := by
  rw [contains, Option.isSome_iff_exists]

theorem keys_pairwise (set : AttributeSet) : set.keys.Pairwise (· < ·) :=
  List.pairwise_map.2 set.sorted

theorem mem_keys_iff {set : AttributeSet} {key : String} :
    key ∈ set.keys ↔ set.contains key = true := by
  rw [keys, List.mem_map, contains_eq_true_iff]
  constructor
  · rintro ⟨entry, h, rfl⟩
    exact ⟨entry.2, get?_eq_some_iff.2 h⟩
  · rintro ⟨value, h⟩
    exact ⟨(key, value), get?_eq_some_iff.1 h, rfl⟩

/-- Sets with the same value for each key are equal. -/
theorem ext_get? {a b : AttributeSet} (h : ∀ key, a.get? key = b.get? key) : a = b := by
  have : Std.Irrefl fun x y : String × String => x.1 < y.1 := ⟨fun x => String.lt_irrefl x.1⟩
  have : Std.Antisymm fun x y : String × String => x.1 < y.1 :=
    ⟨fun _ _ less greater => absurd greater (String.lt_asymm less)⟩
  refine AttributeSet.ext (a.sorted.eq_of_mem_iff b.sorted fun entry => ?_)
  rw [← get?_eq_some_iff, ← get?_eq_some_iff, h]

@[simp] theorem get?_empty (key : String) : empty.get? key = none := rfl

/-! ## Writing -/

theorem get?_insert_self (set : AttributeSet) (key value : String) :
    (set.insert key value).get? key = some value := by
  rw [get?_eq_some_iff]
  exact List.mem_append_right _ List.mem_cons_self

theorem mem_takeWhile_lt {entries : List (String × String)}
    (sorted : entries.Pairwise fun a b => a.1 < b.1) {key : String} {entry : String × String}
    (h : entry ∈ entries) (less : entry.1 < key) : entry ∈ entries.takeWhile (·.1 < key) := by
  induction entries with
  | nil => cases h
  | cons head tail ih =>
    rw [List.pairwise_cons] at sorted
    rcases List.mem_cons.1 h with rfl | h
    · rw [List.takeWhile_cons_of_pos (by simpa using less)]
      exact List.mem_cons_self
    · have := String.lt_trans (sorted.1 entry h) less
      rw [List.takeWhile_cons_of_pos (by simpa using this)]
      exact List.mem_cons_of_mem _ (ih sorted.2 h)

theorem mem_dropWhile_le {entries : List (String × String)} {key : String}
    {entry : String × String} (h : entry ∈ entries) (greater : key < entry.1) :
    entry ∈ entries.dropWhile (·.1 ≤ key) := by
  induction entries with
  | nil => cases h
  | cons head tail ih =>
    rw [List.dropWhile_cons]
    split
    · rename_i passed
      rcases List.mem_cons.1 h with rfl | h
      · exact absurd greater (String.not_lt.2 (by simpa using passed))
      · exact ih h
    · exact h

theorem lt_or_lt_of_ne {key other : String} (h : other ≠ key) : other < key ∨ key < other := by
  by_cases less : other < key
  · exact .inl less
  · by_cases greater : key < other
    · exact .inr greater
    · exact absurd (String.le_antisymm (String.not_lt.1 greater) (String.not_lt.1 less)) h

theorem mem_entries_insert_of_ne {set : AttributeSet} {key other : String} (value : String)
    {found : String} (different : other ≠ key) :
    (other, found) ∈ (set.insert key value).entries ↔ (other, found) ∈ set.entries := by
  simp only [insert, List.mem_append, List.mem_cons, Prod.mk.injEq, different, false_and, false_or]
  constructor
  · rintro (h | h)
    · exact (List.takeWhile_sublist _).subset h
    · exact (List.dropWhile_sublist _).subset h
  · intro h
    rcases lt_or_lt_of_ne different with less | greater
    · exact .inl (mem_takeWhile_lt set.sorted h less)
    · exact .inr (mem_dropWhile_le h greater)

theorem get?_insert (set : AttributeSet) (key value other : String) :
    (set.insert key value).get? other = if other = key then some value else set.get? other := by
  split
  · rename_i same
    rw [same, get?_insert_self]
  · rename_i different
    apply Option.ext
    intro found
    rw [get?_eq_some_iff, get?_eq_some_iff, mem_entries_insert_of_ne value different]

/-- What is answered when a value is exchanged is the value before. -/
theorem fst_exchange (set : AttributeSet) (key value : String) :
    (set.exchange key value).1 = set.get? key := by
  refine Option.ext fun found => ?_
  rw [exchange, Option.map_eq_some_iff, get?_eq_some_iff]
  constructor
  · rintro ⟨⟨_, _⟩, first, rfl⟩
    obtain ⟨head, same⟩ := Option.filter_eq_some_iff.1 first
    obtain rfl := beq_iff_eq.1 same
    exact (List.dropWhile_sublist _).subset (List.mem_of_head? head)
  · intro h
    obtain ⟨before, after, split, below, -⟩ := exists_split_of_mem h
    refine ⟨(key, found), ?_, rfl⟩
    rw [split, List.dropWhile_append_of_pos (by simpa using below),
      List.dropWhile_cons_of_neg (by simp), Option.filter_eq_some_iff]
    exact ⟨List.head?_cons, beq_self_eq_true key⟩

/-- In a set made from a list, each key has the value of its last entry. -/
theorem get?_ofList (entries : List (String × String)) (key : String) :
    (ofList entries).get? key = entries.reverse.lookup key := by
  rw [ofList, List.foldl_eq_foldr_reverse]
  induction entries.reverse with
  | nil => rfl
  | cons entry entries ih =>
    rw [List.foldr_cons, get?_insert, ih, List.lookup_cons]
    by_cases same : key = entry.1
    · simp [same]
    · rw [if_neg same, beq_false_of_ne same]

theorem get?_ofList_eq_some_iff {entries : List (String × String)} {key value : String} :
    (ofList entries).get? key = some value ↔ IsLast entries key value := by
  rw [get?_ofList, List.lookup_eq_some_iff]
  constructor
  · rintro ⟨after, before, split, others⟩
    refine ⟨before.reverse, after.reverse, ?_, fun later hl => ?_⟩
    · rw [← List.reverse_reverse entries, split]
      simp
    · have := others later (List.mem_reverse.1 hl)
      exact fun same => by simp [same] at this
  · rintro ⟨before, after, rfl, others⟩
    refine ⟨after.reverse, before.reverse, by simp, fun later hl => ?_⟩
    exact bne_iff_ne.2 (others later (List.mem_reverse.1 hl)).symm

/-- A set is made of its entries. -/
theorem ofList_entries (set : AttributeSet) : ofList set.entries = set := by
  refine ext_get? fun key => Option.ext fun value => ?_
  rw [get?_ofList_eq_some_iff, get?_eq_some_iff]
  constructor
  · rintro ⟨before, after, split, -⟩
    rw [split]
    exact List.mem_append_right _ List.mem_cons_self
  · intro h
    obtain ⟨before, after, split, -, above⟩ := exists_split_of_mem h
    exact ⟨before, after, split, fun later hl => (String.ne_of_lt (above later hl)).symm⟩

end AccessStream.AttributeSet
