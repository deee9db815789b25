import AccessStream.Proofs.AttributeSet.Written
import AccessStream.Proofs.Text.Order
import AccessStream.Request
import Mathlib.Data.List.Induction
import Mathlib.Data.List.Nodup

/-!
# Attribute sets and their history

An attribute set comes about by writing values, singly or by replacing the whole content at once. It
holds under each key the value that was last written there (`get?_ofChanges`), and everything that
can be seen of it follows from these values: its entries in the order of the bytes of their keys,
its size, its JSON text and the request that it makes (`ofChanges_refines_map`). A change does to
the value of a key what `get?_apply` says; the history is an induction on the last change.
-/

namespace AccessStream.AttributeSet

/-- A way to change an attribute set. -/
inductive Change where
  /-- A value is written under a key, and the value before is asked for. -/
  | exchange (key value : String)
  /-- A value is written under a key. -/
  | insert (key value : String)
  /-- The content is replaced by some entries, collected one after the other. -/
  | collect (entries : List (String × String))
  /-- The content is replaced by that of a JSON document, if the document is an object of strings. -/
  | parse (document : Bytes)

namespace Change

/-- A set after a change. -/
def apply (set : AttributeSet) : Change → AttributeSet
  | exchange key value => (set.exchange key value).2
  | insert key value => set.insert key value
  | collect entries => ofList entries
  | parse document => (ofJson? document).getD set

/-- A change writes a value under a key, as the last one that it writes there. -/
inductive Writes : Change → String → String → Prop where
  | exchange (key value : String) : Writes (.exchange key value) key value
  | insert (key value : String) : Writes (.insert key value) key value
  | collect {entries : List (String × String)} {key value : String} :
      IsLast entries key value → Writes (.collect entries) key value
  | parse {document : Bytes} {members : List (String × String)} {key value : String} :
      Json.ObjectForm document members → IsLast members key value →
      Writes (.parse document) key value

/-- A change drops what the set held before. -/
inductive Replaces : Change → Prop where
  | collect (entries : List (String × String)) : Replaces (.collect entries)
  | parse {document : Bytes} {members : List (String × String)} :
      Json.ObjectForm document members → Replaces (.parse document)

/-- A change leaves the value of a key, or its absence, as it is. -/
def Spares (change : Change) (key : String) : Prop :=
  ¬ change.Replaces ∧ ∀ value, ¬ change.Writes key value

end Change

/-- The set that some changes make of the empty one. -/
def ofChanges (changes : List Change) : AttributeSet := changes.foldl Change.apply empty

/-- Among some changes, a value was the last to be written under a key, and the content was not
replaced since. -/
def LastWritten (changes : List Change) (key value : String) : Prop :=
  ∃ before change after, changes = before ++ change :: after ∧ change.Writes key value ∧
    ∀ later ∈ after, later.Spares key

/-! ## One change -/

namespace Change

section Apply

variable {set : AttributeSet} {change : Change} {key value : String}

/-- A change that writes one value. -/
theorem get?_apply_of_insert {written content : String}
    (result : change.apply set = set.insert written content)
    (single : ∀ key value, change.Writes key value ↔ key = written ∧ value = content)
    (keeps : ¬ change.Replaces) :
    (change.apply set).get? key = some value ↔
      change.Writes key value ∨ change.Spares key ∧ set.get? key = some value := by
  have spares : change.Spares key ↔ key ≠ written := by
    simp only [Spares, keeps, not_false_eq_true, single, true_and]
    exact ⟨fun none same => none content ⟨same, rfl⟩, fun other _ same => other same.1⟩
  rw [result, get?_insert, single, spares]
  split_ifs with same
  · simp [same, eq_comm]
  · simp [same]

/-- A change that replaces the content. -/
theorem get?_apply_of_ofList {members : List (String × String)}
    (result : change.apply set = ofList members)
    (last : ∀ key value, change.Writes key value ↔ IsLast members key value)
    (replaces : change.Replaces) :
    (change.apply set).get? key = some value ↔
      change.Writes key value ∨ change.Spares key ∧ set.get? key = some value := by
  rw [result, get?_ofList_eq_some_iff, last]
  exact ⟨.inl, fun h => h.resolve_right fun spared => spared.1.1 replaces⟩

/-- A change that changes nothing. -/
theorem get?_apply_of_same (result : change.apply set = set)
    (nothing : ∀ key value, ¬ change.Writes key value) (keeps : ¬ change.Replaces) :
    (change.apply set).get? key = some value ↔
      change.Writes key value ∨ change.Spares key ∧ set.get? key = some value := by
  have spares : change.Spares key := ⟨keeps, nothing key⟩
  simp only [result, nothing, spares, true_and, false_or]

/-- After a change a key has the value that the change wrote under it, or else the one before if the
change spared it. -/
theorem get?_apply (set : AttributeSet) (change : Change) (key value : String) :
    (change.apply set).get? key = some value ↔
      change.Writes key value ∨ change.Spares key ∧ set.get? key = some value := by
  cases change with
  | exchange written content =>
    refine get?_apply_of_insert rfl (fun key value => ⟨?_, ?_⟩) fun replaces => ?_
    · rintro ⟨⟩
      exact ⟨rfl, rfl⟩
    · rintro ⟨rfl, rfl⟩
      exact .exchange _ _
    · cases replaces
  | insert written content =>
    refine get?_apply_of_insert rfl (fun key value => ⟨?_, ?_⟩) fun replaces => ?_
    · rintro ⟨⟩
      exact ⟨rfl, rfl⟩
    · rintro ⟨rfl, rfl⟩
      exact .insert _ _
    · cases replaces
  | collect entries =>
    refine get?_apply_of_ofList rfl (fun key value => ⟨?_, .collect⟩) (.collect entries)
    rintro ⟨⟩
    assumption
  | parse document =>
    cases read : Json.readObject document with
    | ok members =>
      have written : Json.ObjectForm document members := Json.readObject_eq_ok_iff.1 read
      have result : (Change.parse document).apply set = ofList members := by
        rw [apply, ofJson?, read]
        rfl
      refine get?_apply_of_ofList result (fun key value => ⟨?_, .parse written⟩) (.parse written)
      rintro ⟨⟩
      rename_i found form last
      rw [Json.readObject_eq_ok_iff.2 form] at read
      cases read
      exact last
    | error fault =>
      have unwritten : ∀ members, ¬ Json.ObjectForm document members := by
        intro members form
        rw [Json.readObject_eq_ok_iff.2 form] at read
        cases read
      refine get?_apply_of_same ?_ (fun key value => ?_) ?_
      · rw [apply, ofJson?, read]
        rfl
      · rintro ⟨⟩
        rename_i members form last
        exact unwritten members form
      · rintro ⟨⟩
        rename_i members form
        exact unwritten members form

end Apply

end Change

/-! ## Many changes -/

theorem not_lastWritten_nil {key value : String} : ¬ LastWritten [] key value := by
  rintro ⟨before, change, after, split, -⟩
  cases before <;> cases split

/-- What one more change does to what was last written. -/
theorem lastWritten_concat_iff {changes : List Change} {change : Change} {key value : String} :
    LastWritten (changes ++ [change]) key value ↔
      change.Writes key value ∨ change.Spares key ∧ LastWritten changes key value := by
  constructor
  · rintro ⟨before, writer, after, split, writes, spared⟩
    rcases List.eq_nil_or_concat after with rfl | ⟨between, last, rfl⟩
    · obtain ⟨-, same⟩ := List.append_inj' split rfl
      cases same
      exact .inl writes
    · rw [List.concat_eq_append, ← List.cons_append, ← List.append_assoc] at split
      obtain ⟨rfl, same⟩ := List.append_inj' split rfl
      cases same
      rw [List.concat_eq_append, List.forall_mem_append, List.forall_mem_singleton] at spared
      exact .inr ⟨spared.2, before, writer, between, rfl, writes, spared.1⟩
  · rintro (writes | ⟨spares, before, writer, between, rfl, writes, spared⟩)
    · exact ⟨changes, change, [], rfl, writes, List.forall_mem_nil _⟩
    · refine ⟨before, writer, between ++ [change], by simp, writes, ?_⟩
      rw [List.forall_mem_append, List.forall_mem_singleton]
      exact ⟨spared, spares⟩

/-- Each key has the value that was last written under it. -/
theorem get?_ofChanges (changes : List Change) (key value : String) :
    (ofChanges changes).get? key = some value ↔ LastWritten changes key value := by
  induction changes using List.reverseRecOn generalizing value with
  | nil => simp [ofChanges, not_lastWritten_nil]
  | append_singleton changes change ih =>
    rw [ofChanges, List.foldl_concat, ← ofChanges, Change.get?_apply, lastWritten_concat_iff, ih]

/-! ## What can be seen of a set -/

section Views

variable (set : AttributeSet)

/-- The entries are in the order of the bytes of their keys. -/
theorem lex_toList :
    set.toList.Pairwise fun first second =>
      List.Lex (· < ·) (Utf8.encode first.1) (Utf8.encode second.1) :=
  set.sorted.imp Utf8.lex_encode

theorem count_keys (key : String) :
    set.keys.count key = if set.contains key = true then 1 else 0 := by
  have distinct : set.keys.Nodup := set.keys_pairwise.imp String.ne_of_lt
  rw [distinct.count]
  simp only [mem_keys_iff]

theorem isEmpty_eq_true_iff : set.isEmpty = true ↔ set.size = 0 := by
  rw [isEmpty, size, List.isEmpty_iff, List.length_eq_zero_iff]

theorem toRecord_eq_iff (other : AttributeSet) :
    set.toRecord = other.toRecord ↔ ∀ key, set.get? key = other.get? key := by
  constructor
  · intro same key
    rw [toRecord_injective same]
  · intro same
    rw [ext_get? same]

end Views

/-- A set that was made by any changes is the finite map of what was last written. Its lookups, the
answers when values are exchanged, its entries, their number and its JSON text show this map and
nothing else of the changes, and a request takes from it the values of the keys of the schema. -/
theorem ofChanges_refines_map (changes : List Change) :
    let set := ofChanges changes
    (∀ key value, set.get? key = some value ↔ LastWritten changes key value) ∧
    (∀ key, set.contains key = true ↔ ∃ value, LastWritten changes key value) ∧
    (∀ key value previous,
      (set.exchange key value).1 = some previous ↔ LastWritten changes key previous) ∧
    (set.toList.Pairwise (fun first second =>
        List.Lex (· < ·) (Utf8.encode first.1) (Utf8.encode second.1)) ∧
      (∀ key value, (key, value) ∈ set.toList ↔ LastWritten changes key value) ∧
      ∀ key, (set.toList.map (·.1)).count key = if set.contains key = true then 1 else 0) ∧
    (set.size = set.toList.length ∧ (set.isEmpty = true ↔ set.size = 0)) ∧
    (∀ others, set.toRecord = (ofChanges others).toRecord ↔
      ∀ key value, LastWritten changes key value ↔ LastWritten others key value) ∧
    ∀ a : Attribute, (Request.ofSet set).get? a = set.get? a.key := by
  intro set
  have values : ∀ key value, set.get? key = some value ↔ LastWritten changes key value :=
    get?_ofChanges changes
  refine ⟨values, fun key => ?_, fun key value previous => ?_,
    ⟨set.lex_toList, fun key value => ?_, set.count_keys⟩, ⟨rfl, set.isEmpty_eq_true_iff⟩,
    fun others => ?_, Request.get?_ofSet set⟩
  · simp only [contains_eq_true_iff, values]
  · rw [fst_exchange, values]
  · rw [← values, get?_eq_some_iff, toList]
  · rw [toRecord_eq_iff]
    constructor
    · intro same key value
      rw [← values, ← get?_ofChanges others, same]
    · intro same key
      refine Option.ext fun value => ?_
      rw [values, get?_ofChanges, same]

end AccessStream.AttributeSet
