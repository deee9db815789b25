import AccessStream.Proofs.Fields
import AccessStream.Proofs.Toml.Dialect

/-!
# Tables with distinct keys

No table that is read from a document has two entries of one key, at whatever depth
(`isDistinct_of_read?`): what is added to a table under construction is added under a new key or
replaces what stands under its key, and a table between braces is built in the same way.
-/

namespace AccessStream.Toml

/-- In no table of a value two entries have the same key. -/
inductive Value.IsDistinct : Value → Prop
  | leaf {value : Value} (noArray : ∀ items, value ≠ .array items)
      (noTable : ∀ entries, value ≠ .table entries) : IsDistinct value
  | array {items : List Value} (each : ∀ item ∈ items, IsDistinct item) : IsDistinct (.array items)
  | table {entries : List (String × Value)} (keys : (entries.map Prod.fst).Nodup)
      (each : ∀ entry ∈ entries, IsDistinct entry.2) : IsDistinct (.table entries)

/-- In no table of a part of a document two entries have the same key. -/
inductive Node.IsDistinct : Node → Prop
  | closed {value : Value} (h : value.IsDistinct) : IsDistinct (.closed value)
  | table {origin : Origin} {entries : Entries} (keys : (entries.map Prod.fst).Nodup)
      (each : ∀ entry ∈ entries, IsDistinct entry.2) : IsDistinct (.table origin entries)
  | tables {elements : List Entries}
      (keys : ∀ entries ∈ elements, (entries.map Prod.fst).Nodup)
      (each : ∀ entries ∈ elements, ∀ entry ∈ entries, IsDistinct entry.2) :
      IsDistinct (.tables elements)

theorem Node.entriesToValues_eq_map (entries : Entries) :
    entriesToValues entries = entries.map fun entry => (entry.1, toValue entry.2) := by
  induction entries with
  | nil => rfl
  | cons entry entries ih => rw [entriesToValues, ih, List.map_cons]

theorem Node.elementsToValues_eq_map (elements : List Entries) :
    elementsToValues elements = elements.map fun entries => .table (entriesToValues entries) := by
  induction elements with
  | nil => rfl
  | cons entries elements ih => rw [elementsToValues, ih, List.map_cons]

theorem Node.isDistinct_entriesToValues {entries : Entries}
    (keys : (entries.map Prod.fst).Nodup)
    (each : ∀ entry ∈ entries, (toValue entry.2).IsDistinct) :
    (Value.table (entriesToValues entries)).IsDistinct := by
  rw [entriesToValues_eq_map]
  refine .table ?_ fun entry among => ?_
  · rwa [List.map_map]
  · obtain ⟨node, listed, rfl⟩ := List.mem_map.1 among
    exact each node listed

/-- What a part of a document has come to has distinct keys if the part has. -/
theorem Node.IsDistinct.toValue {node : Node} (h : node.IsDistinct) : node.toValue.IsDistinct := by
  induction h with
  | closed h => exact h
  | table keys _ ih =>
    rw [Node.toValue]
    exact isDistinct_entriesToValues keys ih
  | tables keys _ ih =>
    rw [Node.toValue, elementsToValues_eq_map]
    refine .array fun item among => ?_
    obtain ⟨entries, listed, rfl⟩ := List.mem_map.1 among
    exact isDistinct_entriesToValues (keys entries listed) (ih entries listed)

namespace Entries

/-- A table under construction in which no two entries of one table have the same key. -/
structure IsDistinct (entries : Entries) : Prop where
  keys : (entries.map Prod.fst).Nodup
  each : ∀ entry ∈ entries, entry.2.IsDistinct

variable {entries changed : Entries} {key : String} {dialect : Dialect}

theorem isDistinct_nil : IsDistinct [] := ⟨List.nodup_nil, nofun⟩

theorem IsDistinct.node (h : entries.IsDistinct) {origin : Origin} :
    (Node.table origin entries).IsDistinct :=
  .table h.keys h.each

theorem mem_set {node : Node} {entry : String × Node} (among : entry ∈ entries.set key node) :
    entry = (key, node) ∨ entry ∈ entries := by
  induction entries with
  | nil => exact .inl (List.mem_singleton.1 among)
  | cons first entries ih =>
    rw [set] at among
    split_ifs at among
    · exact (List.mem_cons.1 among).imp_right (List.mem_cons_of_mem _)
    · rcases List.mem_cons.1 among with rfl | later
      · exact .inr List.mem_cons_self
      · exact (ih later).imp_right (List.mem_cons_of_mem _)

theorem keys_set_of_mem (present : key ∈ entries.map Prod.fst) (node : Node) :
    (entries.set key node).map Prod.fst = entries.map Prod.fst := by
  induction entries with
  | nil => cases present
  | cons first entries ih =>
    obtain ⟨other, found⟩ := first
    rw [set]
    split_ifs with here
    · rw [List.map_cons, List.map_cons, here]
    · rw [List.map_cons, List.mem_cons] at present
      rw [List.map_cons, List.map_cons, ih (present.resolve_left (Ne.symm here))]

/-- Setting what stands under a key keeps the keys distinct. -/
theorem IsDistinct.set (h : entries.IsDistinct) {node : Node} (inside : node.IsDistinct) :
    (entries.set key node).IsDistinct := by
  refine ⟨?_, fun entry among => ?_⟩
  · by_cases present : key ∈ entries.map Prod.fst
    · rw [keys_set_of_mem present]
      exact h.keys
    · rw [set_eq_append present, List.map_append]
      exact h.keys.append (List.nodup_singleton key)
        (List.disjoint_singleton.2 present)
  · rcases mem_set among with rfl | before
    · exact inside
    · exact h.each entry before

theorem IsDistinct.of_lookup (h : entries.IsDistinct) {node : Node}
    (found : entries.lookup key = some node) : node.IsDistinct :=
  h.each _ (Fields.mem_of_lookup found)

theorem IsDistinct.of_lookup_table (h : entries.IsDistinct) {origin : Origin} {inner : Entries}
    (found : entries.lookup key = some (.table origin inner)) : inner.IsDistinct := by
  cases h.of_lookup found with
  | table keys each => exact ⟨keys, each⟩

theorem IsDistinct.of_lookup_tables (h : entries.IsDistinct) {elements : List Entries}
    (found : entries.lookup key = some (.tables elements)) :
    ∀ inner ∈ elements, inner.IsDistinct := by
  cases h.of_lookup found with
  | tables keys each => exact fun inner among => ⟨keys inner among, each inner among⟩

theorem isDistinct_tables {elements : List Entries}
    (h : ∀ inner ∈ elements, inner.IsDistinct) : (Node.tables elements).IsDistinct :=
  .tables (fun inner among => (h inner among).keys) fun inner among => (h inner among).each

/-- A change that keeps the keys of a table distinct keeps those of an array of tables so. -/
theorem isDistinct_of_changeLast? {change : Entries → Option Entries}
    (keeps : ∀ {entries changed : Entries}, entries.IsDistinct → change entries = some changed →
      changed.IsDistinct)
    {elements changed : List Entries} (h : ∀ inner ∈ elements, inner.IsDistinct)
    (made : changeLast? change elements = some changed) : ∀ inner ∈ changed, inner.IsDistinct := by
  induction elements generalizing changed with
  | nil => cases made
  | cons first elements ih =>
    rw [List.forall_mem_cons] at h
    cases elements with
    | nil =>
      obtain ⟨last, built, rfl⟩ := Option.map_eq_some_iff.1 made
      intro inner among
      obtain rfl := List.mem_singleton.1 among
      exact keeps h.1 built
    | cons next elements =>
      obtain ⟨rest, built, rfl⟩ := Option.map_eq_some_iff.1 made
      exact List.forall_mem_cons.2 ⟨h.1, ih h.2 built⟩

/-- Adding a value keeps the keys distinct. -/
theorem IsDistinct.insert? {names : List String} {value : Value} (h : entries.IsDistinct)
    (inside : value.IsDistinct) (made : entries.insert? dialect names value = some changed) :
    changed.IsDistinct := by
  induction names generalizing entries changed with
  | nil => cases made
  | cons name names ih =>
    cases names with
    | nil =>
      rw [Entries.insert?] at made
      cases found : entries.lookup name with
      | some node =>
        rw [found] at made
        cases made
      | none =>
        rw [found] at made
        cases made
        exact h.set (.closed inside)
    | cons next names =>
      rw [Entries.insert?] at made
      split at made
      · obtain ⟨inner, built, rfl⟩ := Option.map_eq_some_iff.1 made
        exact h.set (ih isDistinct_nil built).node
      · rename_i origin inner found
        cases entered : dialect.enter? names.isEmpty origin with
        | none =>
          rw [entered] at made
          cases made
        | some after =>
          rw [entered] at made
          obtain ⟨inner', built, rfl⟩ := Option.map_eq_some_iff.1 made
          exact h.set (ih (h.of_lookup_table found) built).node
      · rename_i elements found
        split_ifs at made
        obtain ⟨elements', built, rfl⟩ := Option.map_eq_some_iff.1 made
        exact h.set (isDistinct_tables
          (isDistinct_of_changeLast? ih (h.of_lookup_tables found) built))
      · cases made

theorem IsDistinct.insertAll? {pairs : List (List String × Value)} (h : entries.IsDistinct)
    (inside : ∀ pair ∈ pairs, pair.2.IsDistinct)
    (made : entries.insertAll? dialect pairs = some changed) : changed.IsDistinct := by
  induction pairs generalizing entries with
  | nil =>
    cases made
    exact h
  | cons pair pairs ih =>
    rw [List.forall_mem_cons] at inside
    rw [Entries.insertAll?, List.foldlM_cons] at made
    obtain ⟨inner, made, rest⟩ := Option.bind_eq_some_iff.1 made
    exact ih (h.insert? inside.1 made) inside.2 rest

/-- A change that keeps the keys of a table distinct may be made anywhere below. -/
theorem IsDistinct.change? {change : Entries → String → Option Entries}
    (keeps : ∀ {entries changed : Entries} {name : String}, entries.IsDistinct →
      change entries name = some changed → changed.IsDistinct)
    {names : List String} (h : entries.IsDistinct)
    (made : entries.change? names change = some changed) : changed.IsDistinct := by
  induction names generalizing entries changed with
  | nil => cases made
  | cons name names ih =>
    cases names with
    | nil => exact keeps h made
    | cons next names =>
      rw [Entries.change?] at made
      split at made
      · obtain ⟨inner, built, rfl⟩ := Option.map_eq_some_iff.1 made
        exact h.set (ih isDistinct_nil built).node
      · rename_i origin inner found
        obtain ⟨inner', built, rfl⟩ := Option.map_eq_some_iff.1 made
        exact h.set (ih (h.of_lookup_table found) built).node
      · rename_i elements found
        obtain ⟨elements', built, rfl⟩ := Option.map_eq_some_iff.1 made
        exact h.set (isDistinct_tables
          (isDistinct_of_changeLast? ih (h.of_lookup_tables found) built))
      · cases made

theorem IsDistinct.addTable? {pairs : List (List String × Value)} (h : entries.IsDistinct)
    (inside : ∀ pair ∈ pairs, pair.2.IsDistinct)
    (made : entries.addTable? dialect pairs key = some changed) : changed.IsDistinct := by
  rw [Entries.addTable?] at made
  split at made
  · obtain ⟨inner, built, rfl⟩ := Option.map_eq_some_iff.1 made
    exact h.set (isDistinct_nil.insertAll? inside built).node
  · rename_i before found
    obtain ⟨inner, built, rfl⟩ := Option.map_eq_some_iff.1 made
    exact h.set ((h.of_lookup_table found).insertAll? inside built).node
  · cases made

theorem IsDistinct.addElement? {pairs : List (List String × Value)} (h : entries.IsDistinct)
    (inside : ∀ pair ∈ pairs, pair.2.IsDistinct)
    (made : entries.addElement? dialect pairs key = some changed) : changed.IsDistinct := by
  rw [Entries.addElement?] at made
  split at made
  · obtain ⟨inner, built, rfl⟩ := Option.map_eq_some_iff.1 made
    refine h.set (isDistinct_tables fun element among => ?_)
    obtain rfl := List.mem_singleton.1 among
    exact isDistinct_nil.insertAll? inside built
  · rename_i elements found
    obtain ⟨inner, built, rfl⟩ := Option.map_eq_some_iff.1 made
    refine h.set (isDistinct_tables fun element among => ?_)
    rcases List.mem_append.1 among with before | last
    · exact h.of_lookup_tables found element before
    · obtain rfl := List.mem_singleton.1 last
      exact isDistinct_nil.insertAll? inside built
  · cases made

/-- Adding a section keeps the keys distinct. -/
theorem IsDistinct.addSection? {part : Section} (h : entries.IsDistinct)
    (inside : ∀ pair ∈ part.pairs, pair.2.IsDistinct)
    (made : entries.addSection? dialect part = some changed) : changed.IsDistinct := by
  rw [Entries.addSection?] at made
  refine h.change? (fun within made => ?_) made
  cases element : part.isElement with
  | true =>
    rw [element, if_pos rfl] at made
    exact within.addElement? inside made
  | false =>
    rw [element, if_neg Bool.false_ne_true] at made
    exact within.addTable? inside made

theorem IsDistinct.addSections? {parts : List Section} (h : entries.IsDistinct)
    (inside : ∀ part ∈ parts, ∀ pair ∈ part.pairs, pair.2.IsDistinct)
    (made : parts.foldlM (Entries.addSection? dialect) entries = some changed) :
    changed.IsDistinct := by
  induction parts generalizing entries with
  | nil =>
    cases made
    exact h
  | cons part parts ih =>
    rw [List.forall_mem_cons] at inside
    rw [List.foldlM_cons] at made
    obtain ⟨inner, made, rest⟩ := Option.bind_eq_some_iff.1 made
    exact ih (h.addSection? inside.1 made) inside.2 rest

end Entries

/-! ## Values -/

theorem forall_mem_empty {α : Type} {P : α → Prop} : ∀ value ∈ (#[] : Array α), P value :=
  fun _ among => absurd among (Array.not_mem_empty _)

/-- The items between brackets have what every item has that can be read. -/
theorem forall_of_scanItems? {α : Type} {P : α → Prop} {close : Char} {item : Scanner α}
    (reads : ∀ {text : Chars} {value : α} {rest : Chars},
      item.scan text = some (value, rest) → P value)
    {found items : Array α} {text rest : Chars} (before : ∀ value ∈ found, P value)
    (h : scanItems? close item found text = some (items, rest)) : ∀ value ∈ items, P value := by
  have pushed : ∀ {found : Array α} {value : α}, (∀ other ∈ found, P other) → P value →
      ∀ other ∈ found.push value, P other := by
    intro found value before here other among
    rcases Array.mem_push.1 among with earlier | rfl
    · exact before other earlier
    · exact here
  fun_induction scanItems? close item found text with
  | case1 => cases h
  | case2 =>
    cases h
    exact before
  | case3 => cases h
  | case4 => cases h
  | case5 _ _ _ _ _ _ _ _ value _ _ =>
    cases h
    exact pushed before (reads value)
  | case6 _ _ _ _ _ _ _ _ value _ _ ih => exact ih (pushed before (reads value)) h

/-- The value of a pair that is read is read by the scanner of values. -/
theorem exists_scan_of_scanPair? {α : Type} {spread : Spread} {value : Scanner α}
    {text rest : Chars} {pair : List String × α}
    (h : scanPair? spread value text = some (pair, rest)) :
    ∃ content, value.scan content = some (pair.2, rest) := by
  rw [scanPair?] at h
  split at h
  · cases h
  split at h
  · cases h
  split at h
  · cases h
  rename_i content _ _ found
  cases h
  exact ⟨_, found⟩

theorem Word.isDistinct_of_scan? {text rest : List Char} {value : Value}
    (h : scan? text = some (value, rest)) : value.IsDistinct := by
  obtain ⟨found, word, same⟩ := Option.map_eq_some_iff.1 h
  obtain ⟨rfl, -⟩ := Prod.ext_iff.1 same
  rw [value?] at word
  split_ifs at word
  · cases word
    exact .leaf nofun nofun
  · cases word
    exact .leaf nofun nofun
  · cases whole : integer? (split text).1 with
    | some number =>
      rw [whole] at word
      cases word
      simp only
      split_ifs
      · exact .leaf nofun nofun
      · exact .leaf nofun nofun
    | none =>
      rw [whole] at word
      cases fractional : float? (split text).1 with
      | some number =>
        rw [fractional] at word
        simp only at word
        split_ifs at word
        · cases word
          exact .leaf nofun nofun
        · cases word
          exact .leaf nofun nofun
      | none =>
        rw [fractional] at word
        obtain ⟨date, -, same⟩ := Option.map_eq_some_iff.1 word
        rw [← same]
        exact .leaf nofun nofun

namespace Value

theorem isDistinct_of_scanScalar? {text rest : Chars} {value : Value}
    (h : scanScalar? text = some (value, rest)) : value.IsDistinct := by
  rw [scanScalar?] at h
  split at h
  · cases h
    exact .leaf nofun nofun
  · exact Word.isDistinct_of_scan? h

theorem isDistinct_of_inlineTable? {pairs : List (List String × Value)} {value : Value}
    (inside : ∀ pair ∈ pairs, pair.2.IsDistinct) (h : inlineTable? pairs = some value) :
    value.IsDistinct := by
  obtain ⟨entries, made, rfl⟩ := Option.map_eq_some_iff.1 h
  have distinct := Entries.isDistinct_nil.insertAll? inside made
  exact Node.isDistinct_entriesToValues distinct.keys fun entry among =>
    (distinct.each entry among).toValue

/-- The tables of a value that is read have distinct keys. -/
theorem isDistinct_of_scan {depth : Nat} {text rest : Chars} {value : Value}
    (h : (scanner depth).scan text = some (value, rest)) : value.IsDistinct := by
  induction depth generalizing text value rest with
  | zero => exact isDistinct_of_scanScalar? h
  | succ depth ih =>
    have h : scanNesting? (scanner depth) text = some (value, rest) := h
    rw [scanNesting?.eq_def] at h
    split at h
    · split at h
      · rename_i scanned
        cases h
        exact .array fun item among =>
          forall_of_scanItems? ih forall_mem_empty scanned item (Array.mem_toList_iff.1 among)
      · cases h
    · split at h
      · rename_i pairs after scanned
        obtain ⟨table, built, same⟩ := Option.map_eq_some_iff.1 h
        obtain ⟨rfl, -⟩ := Prod.ext_iff.1 same
        refine isDistinct_of_inlineTable? (fun pair among => ?_) built
        have reads : ∀ {text : Chars} {pair : List String × Value} {rest : Chars},
            (scanner depth).pair.scan text = some (pair, rest) → pair.2.IsDistinct := by
          intro text pair rest read
          obtain ⟨content, reads⟩ := exists_scan_of_scanPair? read
          exact ih reads
        exact forall_of_scanItems? reads forall_mem_empty scanned pair
          (Array.mem_toList_iff.1 among)
      · cases h
    · exact isDistinct_of_scanScalar? h

end Value

/-! ## Documents -/

theorem isDistinct_of_scanLine? {text rest : Chars} {names : List String} {value : Value}
    (h : scanLine? text = some (.pair names value, rest)) : value.IsDistinct := by
  unfold scanLine? at h
  split at h
  · unfold scanElement? at h
    split at h <;> cases h
  · unfold scanTable? at h
    split at h <;> cases h
  · split at h
    · rename_i scanned
      cases h
      obtain ⟨content, reads⟩ := exists_scan_of_scanPair? scanned
      exact Value.isDistinct_of_scan reads
    · cases h

theorem isDistinct_of_linesAfter? {found : Array Line} {text : Chars} {lines : List Line}
    (before : ∀ names value, Line.pair names value ∈ found → value.IsDistinct)
    (h : linesAfter? found text = some lines) :
    ∀ names value, Line.pair names value ∈ lines → value.IsDistinct := by
  fun_induction linesAfter? found text with
  | case1 =>
    cases h
    exact fun names value among => before names value (Array.mem_toList_iff.1 among)
  | case2 => cases h
  | case3 => cases h
  | case4 found text c rest lines line afterLine scanned rest' finish ih =>
    refine ih (fun names value among => ?_) h
    rcases Array.mem_push.1 among with earlier | rfl
    · exact before names value earlier
    · exact isDistinct_of_scanLine? scanned

/-- The pairs of a document are those of its lines. -/
theorem mem_of_sectionsOf (lines : List Line) :
    (∀ pair ∈ (sectionsOf lines).1, Line.pair pair.1 pair.2 ∈ lines) ∧
      ∀ part ∈ (sectionsOf lines).2, ∀ pair ∈ part.pairs, Line.pair pair.1 pair.2 ∈ lines := by
  induction lines with
  | nil => exact ⟨nofun, nofun⟩
  | cons line lines ih =>
    obtain ⟨front, parts⟩ := ih
    cases line with
    | pair names value =>
      refine ⟨fun pair among => ?_, fun part among pair listed => ?_⟩
      · rcases List.mem_cons.1 among with rfl | later
        · exact List.mem_cons_self
        · exact List.mem_cons_of_mem _ (front pair later)
      · exact List.mem_cons_of_mem _ (parts part among pair listed)
    | header isElement names =>
      refine ⟨nofun, fun part among pair listed => List.mem_cons_of_mem _ ?_⟩
      rcases List.mem_cons.1 among with rfl | later
      · exact front pair listed
      · exact parts part later pair listed

/-- No table of a document that is read has two entries of one key. -/
theorem isDistinct_of_read? {text : String} {dialect : Dialect} {document : Value}
    (h : read? text dialect = some document) : document.IsDistinct := by
  obtain ⟨lines, begun, entries, scanned, paired, whole, rfl⟩ := exists_of_read? h
  have values := isDistinct_of_linesAfter? (fun _ _ => fun among =>
    absurd among (Array.not_mem_empty _)) scanned
  obtain ⟨front, parts⟩ := mem_of_sectionsOf lines
  have distinct : begun.IsDistinct :=
    Entries.isDistinct_nil.insertAll? (fun pair among => values _ _ (front pair among)) paired
  have final : entries.IsDistinct := distinct.addSections?
    (fun part among pair listed => values _ _ (parts part among pair listed)) whole
  exact Node.isDistinct_entriesToValues final.keys fun entry among =>
    (final.each entry among).toValue

end AccessStream.Toml
