/-!
# Attribute sets

What one record says: a finite mapping from keys to values, both texts. Keys are compared exactly,
and a key that is missing is told apart from a key with the empty value. The mapping is kept as its
list of entries in strictly ascending key order, so that two sets with the same content are equal,
and the order of the entries is the order of the UTF-8 forms of their keys.
-/

namespace AccessStream

/-- A finite mapping from keys to values. -/
@[ext] structure AttributeSet where
  /-- The entries, in ascending order of their keys. -/
  entries : List (String × String)
  sorted : entries.Pairwise fun a b => a.1 < b.1

namespace AttributeSet

instance : DecidableEq AttributeSet := fun a b =>
  decidable_of_iff (a.entries = b.entries) AttributeSet.ext_iff.symm

/-- The set without entries. -/
def empty : AttributeSet := ⟨[], .nil⟩

/-- The entries, in ascending order of their keys. -/
def toList (set : AttributeSet) : List (String × String) := set.entries

/-- The number of keys. -/
def size (set : AttributeSet) : Nat := set.entries.length

/-- Whether there is no key. -/
def isEmpty (set : AttributeSet) : Bool := set.entries.isEmpty

/-- The value of a key, if the set has the key. -/
def get? (set : AttributeSet) (key : String) : Option String := set.entries.lookup key

/-- Whether the set has a key. -/
def contains (set : AttributeSet) (key : String) : Bool := (set.get? key).isSome

/-- The keys, in ascending order. -/
def keys (set : AttributeSet) : List String := set.entries.map (·.1)

theorem le_of_mem_takeWhile_lt {key : String} {entries : List (String × String)}
    {entry : String × String} (h : entry ∈ entries.takeWhile (·.1 < key)) : entry.1 < key := by
  induction entries with
  | nil => simp at h
  | cons head tail ih =>
    rw [List.takeWhile_cons] at h
    split at h
    · rcases List.mem_cons.1 h with rfl | h
      · simp_all
      · exact ih h
    · simp at h

theorem lt_of_mem_dropWhile_le {key : String} {entries : List (String × String)}
    (sorted : entries.Pairwise fun a b => a.1 < b.1) {entry : String × String}
    (h : entry ∈ entries.dropWhile (·.1 ≤ key)) : key < entry.1 := by
  induction entries with
  | nil => simp at h
  | cons head tail ih =>
    rw [List.pairwise_cons] at sorted
    rw [List.dropWhile_cons] at h
    split at h
    · exact ih sorted.2 h
    · rename_i greater
      have greater : key < head.1 := by simpa using greater
      rcases List.mem_cons.1 h with rfl | h
      · exact greater
      · exact String.lt_trans greater (sorted.1 _ h)

/-- The set with a value under a key, in the place of the key's earlier value if it had one. -/
def insert (set : AttributeSet) (key value : String) : AttributeSet where
  entries :=
    set.entries.takeWhile (·.1 < key) ++ (key, value) :: set.entries.dropWhile (·.1 ≤ key)
  sorted := by
    rw [List.pairwise_append, List.pairwise_cons]
    refine ⟨set.sorted.sublist (List.takeWhile_sublist _), ⟨?_, ?_⟩, ?_⟩
    · exact fun _ h => lt_of_mem_dropWhile_le set.sorted h
    · exact set.sorted.sublist (List.dropWhile_sublist _)
    · intro a ha b hb
      have below := le_of_mem_takeWhile_lt ha
      rcases List.mem_cons.1 hb with rfl | hb
      · exact below
      · exact String.lt_trans below (lt_of_mem_dropWhile_le set.sorted hb)

/-- The value that a key had, if it had one, and the set with a new value in its place. -/
def exchange (set : AttributeSet) (key value : String) : Option String × AttributeSet :=
  let place := (set.entries.dropWhile (·.1 < key)).head?
  ((place.filter (·.1 == key)).map (·.2), set.insert key value)

/-- The set with the given entries; of several values for one key the last one counts. -/
def ofList (entries : List (String × String)) : AttributeSet :=
  entries.foldl (fun set entry => set.insert entry.1 entry.2) empty

end AttributeSet

end AccessStream
