import AccessStream.Proofs.Toml.Tree
import AccessStream.Toml.Reader

/-!
# What the dialects have in common

The dialects differ in which documents they take, and in what may still be added to a table, but not
in what is added: two tables under construction that are alike apart from how their tables came
about stay so whatever is added to both (`Entries.alike_of_insert?` for a value,
`Entries.alike_of_addSection?` for a section).
So a document that both dialects take says the same in both (`read?_unique`).
-/

namespace AccessStream.Toml

namespace Node

mutual

/-- A part of a document, regardless of how its tables came about. -/
def forget : Node → Node
  | closed value => .closed value
  | table _ entries => .table .header (forgetEntries entries)
  | tables elements => .tables (forgetElements elements)

/-- The entries of a table, regardless of how the tables in it came about. -/
def forgetEntries : List (String × Node) → List (String × Node)
  | [] => []
  | (key, node) :: entries => (key, forget node) :: forgetEntries entries

/-- Some tables, regardless of how the tables in them came about. -/
def forgetElements : List (List (String × Node)) → List (List (String × Node))
  | [] => []
  | entries :: elements => forgetEntries entries :: forgetElements elements

end

mutual

theorem toValue_forget : ∀ node : Node, toValue (forget node) = toValue node
  | closed _ => rfl
  | table _ entries => by rw [forget, toValue, toValue, entriesToValues_forget entries]
  | tables elements => by rw [forget, toValue, toValue, elementsToValues_forget elements]

/-- What a table has come to does not depend on how it came about. -/
theorem entriesToValues_forget : ∀ entries : List (String × Node),
    entriesToValues (forgetEntries entries) = entriesToValues entries
  | [] => rfl
  | (key, node) :: entries => by
    rw [forgetEntries, entriesToValues, entriesToValues, toValue_forget node,
      entriesToValues_forget entries]

theorem elementsToValues_forget : ∀ elements : List (List (String × Node)),
    elementsToValues (forgetElements elements) = elementsToValues elements
  | [] => rfl
  | entries :: elements => by
    rw [forgetElements, elementsToValues, elementsToValues, entriesToValues_forget entries,
      elementsToValues_forget elements]

end

theorem forgetElements_append (elements more : List (List (String × Node))) :
    forgetElements (elements ++ more) = forgetElements elements ++ forgetElements more := by
  induction elements with
  | nil => rfl
  | cons entries elements ih =>
    rw [List.cons_append, forgetElements, forgetElements, ih, List.cons_append]

end Node

open Node (forget forgetEntries forgetElements)

namespace Entries

/-- Two tables under construction are alike apart from how the tables in them came about. -/
def Alike (left right : Entries) : Prop := forgetEntries left = forgetEntries right

variable {left right left' right' : Entries} {key : String} {dialect other : Dialect}

theorem alike_nil : Alike [] [] := rfl

theorem lookup_forgetEntries (entries : Entries) (key : String) :
    (forgetEntries entries).lookup key = (entries.lookup key).map forget := by
  induction entries with
  | nil => rfl
  | cons entry entries ih =>
    rw [forgetEntries, List.lookup_cons, List.lookup_cons, ih]
    cases key == entry.1 <;> rfl

theorem forgetEntries_set (entries : Entries) (key : String) (node : Node) :
    forgetEntries (entries.set key node) = set (forgetEntries entries) key (forget node) := by
  induction entries with
  | nil => rfl
  | cons entry entries ih =>
    obtain ⟨first, found⟩ := entry
    rw [set, forgetEntries, set]
    split_ifs
    · rfl
    · rw [forgetEntries, ih]

namespace Alike

theorem set (alike : Alike left right) {node node' : Node} (same : forget node = forget node') :
    Alike (left.set key node) (right.set key node') := by
  rw [Alike, forgetEntries_set, forgetEntries_set, alike, same]

/-- Where two tables are given what two changes make, they stay alike if what is made is. -/
theorem set_map {α : Type} (alike : Alike left right) {made made' : Option α}
    {node node' : α → Node}
    (same : ∀ {inner inner' : α}, made = some inner → made' = some inner' →
      forget (node inner) = forget (node' inner'))
    (first : made.map (fun inner => left.set key (node inner)) = some left')
    (second : made'.map (fun inner => right.set key (node' inner)) = some right') :
    Alike left' right' := by
  obtain ⟨inner, found, rfl⟩ := Option.map_eq_some_iff.1 first
  obtain ⟨inner', found', rfl⟩ := Option.map_eq_some_iff.1 second
  exact alike.set (same found found')

theorem table (alike : Alike left right) {origin origin' : Origin} :
    forget (.table origin left) = forget (.table origin' right) := by
  rw [forget, forget, alike]

theorem lookup (alike : Alike left right) (key : String) :
    (left.lookup key).map forget = (right.lookup key).map forget := by
  rw [← lookup_forgetEntries, alike, lookup_forgetEntries]

/-- What stands under a key on one side says what stands there on the other. -/
theorem lookup_none (alike : Alike left right) (absent : left.lookup key = none) :
    right.lookup key = none := by
  have same := alike.lookup key
  rw [absent] at same
  exact Option.map_eq_none_iff.1 same.symm

theorem lookup_table (alike : Alike left right) {origin : Origin} {inner : Entries}
    (found : left.lookup key = some (.table origin inner)) :
    ∃ origin' inner', right.lookup key = some (.table origin' inner') ∧ Alike inner inner' := by
  have same := alike.lookup key
  rw [found] at same
  obtain ⟨node, there, form⟩ := Option.map_eq_some_iff.1 same.symm
  cases node with
  | closed value => cases form
  | table origin' inner' =>
    rw [forget, forget] at form
    exact ⟨origin', inner', there, (Node.table.inj form).2.symm⟩
  | tables elements => cases form

theorem lookup_tables (alike : Alike left right) {elements : List Entries}
    (found : left.lookup key = some (.tables elements)) :
    ∃ elements', right.lookup key = some (.tables elements') ∧
      forgetElements elements = forgetElements elements' := by
  have same := alike.lookup key
  rw [found] at same
  obtain ⟨node, there, form⟩ := Option.map_eq_some_iff.1 same.symm
  cases node with
  | closed value => cases form
  | table origin' inner' => cases form
  | tables elements' =>
    rw [forget, forget] at form
    exact ⟨elements', there, (Node.tables.inj form).symm⟩

end Alike

/-- Two changes that keep tables alike keep arrays of tables alike. -/
theorem forgetElements_of_changeLast? {change change' : Entries → Option Entries}
    (keeps : ∀ {left right left' right' : Entries}, Alike left right → change left = some left' →
      change' right = some right' → Alike left' right')
    {elements elements' changed changed' : List Entries}
    (alike : forgetElements elements = forgetElements elements')
    (first : changeLast? change elements = some changed)
    (second : changeLast? change' elements' = some changed') :
    forgetElements changed = forgetElements changed' := by
  induction elements generalizing elements' changed changed' with
  | nil => cases first
  | cons entries elements ih =>
    cases elements' with
    | nil => cases second
    | cons entries' elements' =>
      rw [forgetElements, forgetElements, List.cons.injEq] at alike
      cases elements with
      | nil =>
        cases elements' with
        | cons _ _ => cases alike.2
        | nil =>
          obtain ⟨last, made, rfl⟩ := Option.map_eq_some_iff.1 first
          obtain ⟨last', made', rfl⟩ := Option.map_eq_some_iff.1 second
          have same : forgetEntries last = forgetEntries last' := keeps alike.1 made made'
          rw [forgetElements, forgetElements, same]
          rfl
      | cons next elements =>
        cases elements' with
        | nil => cases alike.2
        | cons next' elements' =>
          obtain ⟨rest, made, rfl⟩ := Option.map_eq_some_iff.1 first
          obtain ⟨rest', made', rfl⟩ := Option.map_eq_some_iff.1 second
          rw [forgetElements, forgetElements, alike.1, ih alike.2 made made']

/-- Adding a value to both of two tables that are alike keeps them so. -/
theorem alike_of_insert? {names : List String} {value : Value} (alike : Alike left right)
    (first : insert? dialect left names value = some left')
    (second : insert? other right names value = some right') : Alike left' right' := by
  induction names generalizing left right left' right' with
  | nil => cases first
  | cons name names ih =>
    cases names with
    | nil =>
      rw [insert?] at first second
      cases found : left.lookup name with
      | some node =>
        rw [found] at first
        cases first
      | none =>
        rw [found] at first
        rw [alike.lookup_none found] at second
        cases first
        cases second
        exact alike.set rfl
    | cons next names =>
      rw [insert?] at first second
      cases found : left.lookup name with
      | none =>
        rw [found] at first
        rw [alike.lookup_none found] at second
        exact alike.set_map (fun made made' => (ih alike_nil made made').table) first second
      | some node =>
        cases node with
        | closed value =>
          rw [found] at first
          cases first
        | table origin inner =>
          obtain ⟨origin', inner', found', inside⟩ := alike.lookup_table found
          simp only [found, found'] at first second
          cases entered : dialect.enter? names.isEmpty origin with
          | none =>
            rw [entered] at first
            cases first
          | some after =>
            cases entered' : other.enter? names.isEmpty origin' with
            | none =>
              rw [entered'] at second
              cases second
            | some after' =>
              rw [entered] at first
              rw [entered'] at second
              exact alike.set_map (fun made made' => (ih inside made made').table) first second
        | tables elements =>
          obtain ⟨elements', found', inside⟩ := alike.lookup_tables found
          simp only [found, found'] at first second
          split_ifs at first second with last
          refine alike.set_map (fun made made' => ?_) first second
          rw [forget, forget, forgetElements_of_changeLast? ih inside made made']

theorem alike_of_insertAll? {pairs : List (List String × Value)} (alike : Alike left right)
    (first : insertAll? dialect left pairs = some left')
    (second : insertAll? other right pairs = some right') : Alike left' right' := by
  induction pairs generalizing left right with
  | nil =>
    cases first
    cases second
    exact alike
  | cons pair pairs ih =>
    rw [insertAll?, List.foldlM_cons] at first second
    obtain ⟨inner, made, rest⟩ := Option.bind_eq_some_iff.1 first
    obtain ⟨inner', made', rest'⟩ := Option.bind_eq_some_iff.1 second
    exact ih (alike_of_insert? alike made made') rest rest'

/-- Two changes that keep tables alike may be made anywhere below. -/
theorem alike_of_change? {change change' : Entries → String → Option Entries}
    (keeps : ∀ {left right left' right' : Entries} {name : String}, Alike left right →
      change left name = some left' → change' right name = some right' → Alike left' right')
    {names : List String} (alike : Alike left right)
    (first : change? left names change = some left')
    (second : change? right names change' = some right') : Alike left' right' := by
  induction names generalizing left right left' right' with
  | nil => cases first
  | cons name names ih =>
    cases names with
    | nil => exact keeps alike first second
    | cons next names =>
      rw [change?] at first second
      cases found : left.lookup name with
      | none =>
        rw [found] at first
        rw [alike.lookup_none found] at second
        exact alike.set_map (fun made made' => (ih alike_nil made made').table) first second
      | some node =>
        cases node with
        | closed value =>
          rw [found] at first
          cases first
        | table origin inner =>
          obtain ⟨origin', inner', found', inside⟩ := alike.lookup_table found
          simp only [found, found'] at first second
          exact alike.set_map (fun made made' => (ih inside made made').table) first second
        | tables elements =>
          obtain ⟨elements', found', inside⟩ := alike.lookup_tables found
          simp only [found, found'] at first second
          refine alike.set_map (fun made made' => ?_) first second
          rw [forget, forget, forgetElements_of_changeLast? ih inside made made']

theorem alike_of_addTable? {pairs : List (List String × Value)} (alike : Alike left right)
    (first : addTable? dialect pairs left key = some left')
    (second : addTable? other pairs right key = some right') : Alike left' right' := by
  rw [addTable?] at first second
  split at first
  · rename_i found
    rw [alike.lookup_none found] at second
    exact alike.set_map (fun made made' => (alike_of_insertAll? alike_nil made made').table) first
      second
  · rename_i before found
    obtain ⟨origin', before', found', within⟩ := alike.lookup_table found
    rw [found'] at second
    split at second
    · rename_i absent
      cases absent
    · rename_i before' same
      cases same
      exact alike.set_map (fun made made' => (alike_of_insertAll? within made made').table) first
        second
    · cases second
  · cases first

theorem alike_of_addElement? {pairs : List (List String × Value)} (alike : Alike left right)
    (first : addElement? dialect pairs left key = some left')
    (second : addElement? other pairs right key = some right') : Alike left' right' := by
  rw [addElement?] at first second
  split at first
  · rename_i found
    rw [alike.lookup_none found] at second
    refine alike.set_map (fun made made' => ?_) first second
    have inside := alike_of_insertAll? alike_nil made made'
    rw [forget, forget, forgetElements, forgetElements, inside]
    rfl
  · rename_i elements found
    obtain ⟨elements', found', within⟩ := alike.lookup_tables found
    rw [found'] at second
    refine alike.set_map (fun made made' => ?_) first second
    have inside := alike_of_insertAll? alike_nil made made'
    rw [forget, forget, Node.forgetElements_append, Node.forgetElements_append, within,
      forgetElements, forgetElements, inside]
    rfl
  · cases first

/-- Adding a section to both of two tables that are alike keeps them so. -/
theorem alike_of_addSection? {part : Section} (alike : Alike left right)
    (first : addSection? dialect left part = some left')
    (second : addSection? other right part = some right') : Alike left' right' := by
  rw [addSection?] at first second
  refine alike_of_change? (fun within made made' => ?_) alike first second
  cases element : part.isElement with
  | true =>
    rw [element, if_pos rfl] at made made'
    exact alike_of_addElement? within made made'
  | false =>
    rw [element, if_neg Bool.false_ne_true] at made made'
    exact alike_of_addTable? within made made'

theorem alike_of_addSections? {parts : List Section} (alike : Alike left right)
    (first : parts.foldlM (addSection? dialect) left = some left')
    (second : parts.foldlM (addSection? other) right = some right') : Alike left' right' := by
  induction parts generalizing left right with
  | nil =>
    cases first
    cases second
    exact alike
  | cons part parts ih =>
    rw [List.foldlM_cons] at first second
    obtain ⟨inner, made, rest⟩ := Option.bind_eq_some_iff.1 first
    obtain ⟨inner', made', rest'⟩ := Option.bind_eq_some_iff.1 second
    exact ih (alike_of_addSection? alike made made') rest rest'

end Entries

/-- What a document is read as, step by step. -/
theorem exists_of_read? {text : String} {dialect : Dialect} {document : Value}
    (h : read? text dialect = some document) :
    ∃ lines begun entries, linesAfter? #[] (dropMark text.toList) = some lines ∧
      Entries.insertAll? dialect [] (sectionsOf lines).1 = some begun ∧
      (sectionsOf lines).2.foldlM (Entries.addSection? dialect) begun = some entries ∧
      document = .table (Node.entriesToValues entries) := by
  obtain ⟨lines, scanned, assembled⟩ := Option.bind_eq_some_iff.1 h
  obtain ⟨begun, paired, finished⟩ := Option.bind_eq_some_iff.1 assembled
  obtain ⟨entries, whole, same⟩ := Option.bind_eq_some_iff.1 finished
  exact ⟨lines, begun, entries, scanned, paired, whole, (Option.some.inj same).symm⟩

/-- A document that two dialects take says the same in both. -/
theorem read?_unique {text : String} {dialect other : Dialect} {document document' : Value}
    (first : read? text dialect = some document) (second : read? text other = some document') :
    document = document' := by
  obtain ⟨lines, begun, entries, scanned, paired, whole, rfl⟩ := exists_of_read? first
  obtain ⟨lines', begun', entries', scanned', paired', whole', rfl⟩ := exists_of_read? second
  obtain rfl := Option.some.inj (scanned.symm.trans scanned')
  have begun_alike : Entries.Alike begun begun' :=
    Entries.alike_of_insertAll? Entries.alike_nil paired paired'
  have same : forgetEntries entries = forgetEntries entries' :=
    Entries.alike_of_addSections? begun_alike whole whole'
  rw [← Node.entriesToValues_forget entries, same, Node.entriesToValues_forget]

end AccessStream.Toml
