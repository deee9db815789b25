import AccessStream.Proofs.Decimal
import AccessStream.Proofs.Toml.Key
import AccessStream.Proofs.Toml.Tree

/-!
# Values read back

Texts, whole numbers and booleans, and arrays and tables of them whose keys are bare and distinct,
are read back from what is written for them (`Value.reads_write`), if they are not nested deeper
than the reader goes and something follows that ends a value.
-/

namespace AccessStream.Toml

/-- What follows a value ends it. -/
def Ends (rest : Chars) : Prop := ∀ c ∈ rest.head?, c ∈ [' ', ',', ']', '}', '\n']

theorem ends_cons {c : Char} (h : c ∈ [' ', ',', ']', '}', '\n']) (rest : Chars) :
    Ends (c :: rest) := by
  intro d first
  cases first
  exact h

/-! ## Words -/

namespace Word

theorem digits?_of_digits {isDigit : Char → Bool} {digits : List Char} (nonempty : digits ≠ [])
    (all : ∀ c ∈ digits, isDigit c = true) (underscore : '_' ∉ digits) :
    digits? isDigit digits = some digits := by
  fun_induction digits? isDigit digits with
  | case1 => exact absurd rfl nonempty
  | case2 => rfl
  | case3 c h => exact absurd (all c List.mem_cons_self) h
  | case4 => simp at underscore
  | case5 => simp at underscore
  | case6 c rest more _ _ ih =>
    rw [ih more (fun d h => all d (List.mem_cons_of_mem c h))
      (fun h => underscore (List.mem_cons_of_mem c h)), Option.map_some]
  | case7 c _ _ _ h => exact absurd (all c List.mem_cons_self) h

theorem decimal?_toDigits (n : Nat) :
    decimal? (Nat.toDigits 10 n) = some (Nat.toDigits 10 n) := by
  have digits : digits? Char.isDigit (Nat.toDigits 10 n) = some (Nat.toDigits 10 n) :=
    digits?_of_digits Nat.toDigits_ne_nil
      (fun c h => Nat.isDigit_of_mem_toDigits (by decide) (by decide) h)
      Nat.underscore_not_in_toDigits
  obtain ⟨first, more, written, single⟩ := Decimal.toDigits_eq_cons n
  rw [decimal?, digits]
  split
  · rename_i same
    rw [Option.some.injEq, written, List.cons.injEq] at same
    obtain ⟨zero, rest⟩ := same
    cases (single zero).symm.trans rest
  · rfl

/-- A letter is in no number. -/
theorem not_mem_write {c : Char} (sign : c ≠ '-') (digit : c.isDigit = false) (value : Int) :
    c ∉ Decimal.write value := by
  intro h
  rcases Decimal.mem_write h with minus | found
  · exact sign minus
  · cases digit.symm.trans found

theorem integer?_write (value : Int) : integer? (Decimal.write value) = some value := by
  have unbased {base : Char} (rest : List Char) (sign : base ≠ '-') (digit : base.isDigit = false) :
      Decimal.write value ≠ '0' :: base :: rest := by
    intro same
    exact not_mem_write sign digit value (same ▸ by simp)
  rw [integer?.eq_def]
  split
  · rename_i rest same
    exact absurd same (unbased rest (by decide) (by decide))
  · rename_i rest same
    exact absurd same (unbased rest (by decide) (by decide))
  · rename_i rest same
    exact absurd same (unbased rest (by decide) (by decide))
  · simp only [Decimal.splitSign_write, decimal?_toDigits, Option.map_some,
      Decimal.ofDigits_toDigits, Decimal.signed_natAbs]

theorem value?_write {value : Int} (readable : isReadable value = true) :
    value? (Decimal.write value) = some (.integer value) := by
  have boolean (word : List Char) (c : Char) (inside : c ∈ word) (sign : c ≠ '-')
      (digit : c.isDigit = false) : Decimal.write value ≠ word := by
    rintro rfl
    exact not_mem_write sign digit value inside
  rw [value?, if_neg (boolean _ 'e' (by decide) (by decide) (by decide)),
    if_neg (boolean _ 'e' (by decide) (by decide) (by decide)), integer?_write]
  simp only [readable, if_true]

theorem mark?_eq_none {c : Char} {text : Chars} (h : c ∉ text) : Datetime.mark? c text = none := by
  cases text with
  | nil => rfl
  | cons first text =>
    rw [Datetime.mark?, if_neg]
    rintro rfl
    exact h List.mem_cons_self

/-- A word is no date if it has no hyphen behind its first four characters. -/
theorem date?_eq_none {word : Chars} (h : '-' ∉ word.drop 4) : Datetime.date? word = none := by
  rw [Datetime.date?]
  cases year : Datetime.number? 4 word with
  | none => rfl
  | some found =>
    have rest : found.2 = word.drop 4 := by
      simp only [Datetime.number?] at year
      split at year <;> cases year
      rfl
    rw [← rest] at h
    simp only [Option.bind_eq_bind, Option.bind_some, mark?_eq_none h, Option.bind_none]

/-- A word that is no date is read as a word, if something follows that ends it. -/
theorem scan?_append {word : Chars} (chars : ∀ c ∈ word, isWordChar c = true)
    (date : '-' ∉ word.drop 4) {value : Value} (read : value? word = some value) {rest : Chars}
    (ends : Ends rest) : scan? (word ++ rest) = some (value, rest) := by
  have next : ∀ c ∈ rest.head?, isWordChar c = false :=
    fun c first => eq_false_of_mem (by decide) (ends c first)
  have cut : split (word ++ rest) = (word, rest) := by
    rw [split]
    simp only [takeWhile_front chars next, dropWhile_front chars next, date?_eq_none date]
  rw [scan?, cut, read, Option.map_some]

theorem isWordChar_of_mem_write {value : Int} {c : Char} (h : c ∈ Decimal.write value) :
    isWordChar c = true := by
  rcases Decimal.mem_write h with rfl | digit
  · decide
  · simp [isWordChar, Char.isAlphanum, digit]

/-- Only the sign of a number is a hyphen. -/
theorem hyphen_not_mem_drop_write (value : Int) : '-' ∉ (Decimal.write value).drop 4 := by
  intro h
  have digits : (Decimal.write value).drop 4 <:+ Nat.toDigits 10 value.natAbs := by
    rw [Decimal.write]
    split
    · exact List.drop_suffix 3 _
    · exact List.drop_suffix 4 _
  have digit : '-'.isDigit = true :=
    Nat.isDigit_of_mem_toDigits (b := 10) (by decide) (by decide) (digits.mem h)
  exact absurd digit (by decide)

end Word

/-! ## Scanners -/

/-- A text is read as a value, whatever ends it. -/
structure Scanner.Reads {α : Type} (scanner : Scanner α) (text : Chars) (value : α) : Prop where
  /-- The text begins at once, and not with a closing bracket or brace. -/
  starts : ∃ c more, text = c :: more ∧ IsVisible c ∧ c ∉ [']', '}']
  /-- The value is read, and what ends it is left. -/
  scan : ∀ {rest : Chars}, Ends rest → scanner.scan (text ++ rest) = some (value, rest)

section

variable {α : Type} {close : Char} {item : Scanner α}

theorem scanComma?_comma (other : close ≠ ',') (rest : Chars) :
    scanComma? close (',' :: rest) = some (true, rest) := by
  rw [scanComma?, skipLines_visible (by decide)]
  simp only [if_neg other.symm, if_true]

theorem scanComma?_close (visible : IsVisible close) (rest : Chars) :
    scanComma? close (close :: rest) = some (false, rest) := by
  rw [scanComma?, skipLines_visible visible]
  simp only [if_true]

theorem scanItems?_congr {text other : Chars} (h : skipLines text = skipLines other)
    (found : Array α) : scanItems? close item found text = scanItems? close item found other := by
  rw [scanItems?.eq_def, scanItems?.eq_def close item found other, h]

theorem scanItems?_close (visible : IsVisible close) (found : Array α) (rest : Chars) :
    scanItems? close item found (close :: rest) = some (found, rest) := by
  rw [scanItems?.eq_def, skipLines_visible visible]
  simp only [if_true]

/-- After an item, what follows it decides. -/
theorem scanItems?_reads {text : Chars} {value : α} (reads : item.Reads text value)
    (closing : close ∈ [']', '}']) {after : Chars} (ends : Ends after) (found : Array α) :
    scanItems? close item found (text ++ after) =
      match scanComma? close after with
      | none => none
      | some (false, rest) => some (found.push value, rest)
      | some (true, rest) => scanItems? close item (found.push value) rest := by
  obtain ⟨c, more, start, visible, opening⟩ := reads.starts
  have scan := reads.scan ends
  have other : c ≠ close := by
    rintro rfl
    exact opening closing
  rw [start, List.cons_append] at scan ⊢
  rw [scanItems?.eq_def, skipLines_visible visible]
  simp only [if_neg other]
  split
  · rename_i unread
    cases scan.symm.trans unread
  · rename_i read
    cases scan.symm.trans read
    split <;> rename_i comma <;> simp only [comma]

end

/-- A pair is read as its name and its value. -/
theorem Scanner.Reads.pair {α : Type} {scanner : Scanner α} {text : Chars} {value : α}
    (reads : scanner.Reads text value) {name : String} (bare : Key.IsBare name) :
    scanner.pair.Reads (Key.writeName name ++ ' ' :: '=' :: ' ' :: text) ([name], value) := by
  have key := Key.writable_singleton bare
  constructor
  · obtain ⟨c, more, start, first⟩ := Key.write_eq_cons key.nonempty key.bare
    rw [Key.write_singleton] at start
    exact ⟨c, _, by rw [start, List.cons_append], Key.isVisible_of_isBare first,
      not_mem_of_class first (by decide)⟩
  · intro rest ends
    obtain ⟨c, more, start, visible, -⟩ := reads.starts
    have scan := reads.scan ends
    rw [start, List.cons_append] at scan
    have read := scanPair?_write .anyLine key visible scan
    rw [Key.write_singleton] at read
    rw [start, List.append_assoc]
    exact read

/-! ## Values -/

namespace Value

/-- A value that reads back: numbers and names are such as can be written, no name stands twice in a
table, and arrays and tables are nested no deeper than the given number. -/
inductive Writable : Nat → Value → Prop where
  | text (depth : Nat) (content : String) : Writable depth (.text content)
  | integer (depth : Nat) {value : Int} (readable : Word.isReadable value = true) :
      Writable depth (.integer value)
  | boolean (depth : Nat) (value : Bool) : Writable depth (.boolean value)
  | array {depth : Nat} {items : List Value}
      (items_writable : ∀ item ∈ items, Writable depth item) : Writable (depth + 1) (.array items)
  | table {depth : Nat} {entries : List (String × Value)}
      (bare : ∀ entry ∈ entries, Key.IsBare entry.1) (distinct : (entries.map (·.1)).Nodup)
      (values_writable : ∀ entry ∈ entries, Writable depth entry.2) :
      Writable (depth + 1) (.table entries)

theorem Writable.mono {depth depth' : Nat} {value : Value}
    (h : Writable depth value) (le : depth ≤ depth') : Writable depth' value := by
  induction h generalizing depth' with
  | text _ content => exact .text depth' content
  | integer _ readable => exact .integer depth' readable
  | boolean _ value => exact .boolean depth' value
  | array _ ih =>
    obtain ⟨more, rfl⟩ := Nat.exists_eq_add_of_lt le
    exact .array fun item inside => ih item inside (by omega)
  | table bare distinct _ ih =>
    obtain ⟨more, rfl⟩ := Nat.exists_eq_add_of_lt le
    exact .table bare distinct fun entry inside => ih entry inside (by omega)

/-- A string or word that is read as such is read as a value, at any depth. -/
theorem reads_scalar {text : Chars} {value : Value}
    (starts : ∃ c more, text = c :: more ∧ IsVisible c ∧ c ∉ ['[', '{', ']', '}'])
    (scan : ∀ {rest : Chars}, Ends rest → scanScalar? (text ++ rest) = some (value, rest))
    (depth : Nat) : (scanner depth).Reads text value := by
  obtain ⟨c, more, start, visible, other⟩ := starts
  simp only [List.mem_cons, not_or, List.not_mem_nil, not_false_eq_true, and_true] at other
  refine ⟨⟨c, more, start, visible, by simp [other]⟩, fun {rest} ends => ?_⟩
  have read := scan ends
  cases depth with
  | zero => exact read
  | succ depth =>
    rw [start, List.cons_append] at read ⊢
    show scanNesting? (scanner depth) (c :: (more ++ rest)) = _
    rw [scanNesting?.eq_def]
    split
    · rename_i same
      exact absurd (List.cons.inj same).1 other.1
    · rename_i same
      exact absurd (List.cons.inj same).1 other.2.1
    · exact read

theorem reads_text (depth : Nat) (content : String) :
    (scanner depth).Reads (Quoted.write content) (.text content) := by
  refine reads_scalar ?_ (fun {rest} ends => ?_) depth
  · obtain ⟨quote, more, start, rfl | rfl⟩ := Quoted.write_eq_cons content
    · exact ⟨_, more, start, by decide, by decide⟩
    · exact ⟨_, more, start, by decide, by decide⟩
  · have next (quote : Char) (other : quote ∉ [' ', ',', ']', '}', '\n']) :
        rest.head? ≠ some quote := fun first => other (ends quote first)
    rw [scanScalar?, Quoted.scan?_write content (next '"' (by decide)) (next '\'' (by decide))]

theorem reads_word {word : Chars} {value : Value} (nonempty : word ≠ [])
    (chars : word.all Word.isWordChar = true) (date : '-' ∉ word.drop 4)
    (read : Word.value? word = some value) (depth : Nat) : (scanner depth).Reads word value := by
  obtain ⟨c, more, rfl⟩ := List.exists_cons_of_ne_nil nonempty
  have first : Word.isWordChar c = true := List.all_eq_true.1 chars c List.mem_cons_self
  refine reads_scalar ?_ (fun {rest} ends => ?_) depth
  · exact ⟨c, more, rfl, not_mem_of_class first (by decide), not_mem_of_class first (by decide)⟩
  · rw [scanScalar?, List.cons_append, Quoted.scan?_eq_none (not_mem_of_class first (by decide)),
      ← List.cons_append]
    exact Word.scan?_append (List.all_eq_true.1 chars) date read ends

/-- The lines of an array are read item by item, each from the end of the line before. -/
theorem scanItems?_writeItems {inner : Scanner Value} {items : List Value}
    (reads : ∀ item ∈ items, inner.Reads item.write item) (found : Array Value) (rest : Chars) :
    scanItems? ']' inner found ('\n' :: (writeItems items ++ rest)) =
      some ((found.toList ++ items).toArray, rest) := by
  induction items generalizing found with
  | nil =>
    rw [writeItems, List.singleton_append, scanItems?_congr (skipLines_lineFeed _),
      scanItems?_close (by decide)]
    simp
  | cons item items ih =>
    have inner_reads := ih (fun other h => reads other (List.mem_cons_of_mem item h))
      (found.push item)
    have blanks (text : Chars) :
        skipLines ('\n' :: ' ' :: ' ' :: ' ' :: ' ' :: text) = skipLines text := by
      simp only [skipLines_lineFeed, skipLines_blank (c := ' ') (by decide)]
    rw [writeItems_cons]
    simp only [List.cons_append, List.append_assoc]
    rw [scanItems?_congr (blanks _), scanItems?_reads (reads item List.mem_cons_self) (by decide)
      (ends_cons (by decide) _), scanComma?_comma (by decide)]
    simp only
    rw [inner_reads]
    simp

/-- The entries of a table are read one by one, each from the blank before it. -/
theorem scanItems?_writeEntries {inner : Scanner Value} {entries : List (String × Value)}
    (nonempty : entries ≠ []) (bare : ∀ entry ∈ entries, Key.IsBare entry.1)
    (reads : ∀ entry ∈ entries, inner.Reads entry.2.write entry.2)
    (found : Array (List String × Value)) (rest : Chars) :
    scanItems? '}' inner.pair found (' ' :: (writeEntries entries ++ rest)) =
      some ((found.toList ++ Entries.pairsOf entries).toArray, rest) := by
  induction entries generalizing found with
  | nil => exact absurd rfl nonempty
  | cons entry entries ih =>
    obtain ⟨name, value⟩ := entry
    have pair := (reads _ List.mem_cons_self).pair (bare _ List.mem_cons_self)
    rw [scanItems?_congr (skipLines_blank (by decide) _)]
    cases entries with
    | nil =>
      have ends : Ends (' ' :: '}' :: rest) := ends_cons (by decide) _
      have written : writeEntries [(name, value)] ++ rest =
          Key.writeName name ++ ' ' :: '=' :: ' ' :: value.write ++ ' ' :: '}' :: rest := by
        simp [writeEntries_singleton]
      have comma : scanComma? '}' (' ' :: '}' :: rest) = some (false, rest) := by
        rw [scanComma?, skipLines_blank (by decide), skipLines_visible (by decide)]
        simp only [if_true]
      rw [written, scanItems?_reads pair (by decide) ends, comma]
      exact congrArg some (congrArg (·, rest) (Array.ext' (by simp [Entries.pairsOf])))
    | cons next entries =>
      have written : writeEntries ((name, value) :: next :: entries) ++ rest =
          Key.writeName name ++ ' ' :: '=' :: ' ' :: value.write ++
            ',' :: ' ' :: (writeEntries (next :: entries) ++ rest) := by
        simp [writeEntries_cons_cons]
      have inner_reads := ih (by simp) (fun other h => bare other (List.mem_cons_of_mem _ h))
        (fun other h => reads other (List.mem_cons_of_mem _ h)) (found.push ([name], value))
      rw [written, scanItems?_reads pair (by decide) (ends_cons (by decide) _),
        scanComma?_comma (by decide)]
      simp only
      rw [inner_reads]
      simp [Entries.pairsOf]

theorem scan_array {depth : Nat} {items : List Value} {text rest : Chars}
    (read : scanItems? ']' (scanner depth) #[] text = some (items.toArray, rest)) :
    (scanner (depth + 1)).scan ('[' :: text) = some (.array items, rest) := by
  show scanNesting? (scanner depth) ('[' :: text) = _
  rw [scanNesting?, read]

theorem scan_table {depth : Nat} {entries : List (String × Value)} {text rest : Chars}
    (distinct : (entries.map (·.1)).Nodup)
    (read : scanItems? '}' (scanner depth).pair #[] text =
      some ((Entries.pairsOf entries).toArray, rest)) :
    (scanner (depth + 1)).scan ('{' :: text) = some (.table entries, rest) := by
  show scanNesting? (scanner depth) ('{' :: text) = _
  rw [scanNesting?, read]
  simp only [inlineTable?_pairsOf distinct, Option.map_some]

theorem reads_array {depth : Nat} {items : List Value}
    (reads : ∀ item ∈ items, (scanner depth).Reads item.write item) :
    (scanner (depth + 1)).Reads (array items).write (.array items) := by
  refine ⟨?_, fun {rest} ends => ?_⟩
  · obtain ⟨more, start⟩ := write_array items
    exact ⟨'[', more, start, by decide, by decide⟩
  · match items with
    | [] =>
      rw [write]
      exact scan_array (scanItems?_close (by decide) _ _)
    | [item] =>
      have single : scanItems? ']' (scanner depth) #[] (item.write ++ ']' :: rest) =
          some ([item].toArray, rest) := by
        rw [scanItems?_reads (reads item List.mem_cons_self) (by decide)
          (ends_cons (by decide) _), scanComma?_close (by decide)]
        rfl
      rw [write, List.cons_append, List.cons_append, List.append_assoc, List.singleton_append]
      exact scan_array single
    | first :: second :: items =>
      rw [write_items]
      exact scan_array (scanItems?_writeItems reads #[] rest)

theorem reads_table {depth : Nat} {entries : List (String × Value)}
    (bare : ∀ entry ∈ entries, Key.IsBare entry.1) (distinct : (entries.map (·.1)).Nodup)
    (reads : ∀ entry ∈ entries, (scanner depth).Reads entry.2.write entry.2) :
    (scanner (depth + 1)).Reads (table entries).write (.table entries) := by
  refine ⟨?_, fun {rest} ends => ?_⟩
  · obtain ⟨more, start⟩ := write_table entries
    exact ⟨'{', more, start, by decide, by decide⟩
  · match entries with
    | [] =>
      rw [write]
      exact scan_table distinct (scanItems?_close (by decide) _ _)
    | entry :: entries =>
      rw [write_entries]
      exact scan_table distinct (scanItems?_writeEntries (by simp) bare reads #[] rest)

/-- A writable value is read back from what is written for it. -/
theorem reads_write {depth : Nat} {value : Value} (h : Writable depth value) :
    (scanner depth).Reads value.write value := by
  induction h with
  | text depth content =>
    rw [write]
    exact reads_text depth content
  | @integer depth value readable =>
    rw [write]
    have chars : (Decimal.write value).all Word.isWordChar = true :=
      List.all_eq_true.2 fun c h => Word.isWordChar_of_mem_write h
    exact reads_word (Decimal.write_ne_nil value) chars (Word.hyphen_not_mem_drop_write value)
      (Word.value?_write readable) depth
  | boolean depth value =>
    rw [write]
    cases value
    · exact reads_word (by decide) (by decide) (by decide) rfl depth
    · exact reads_word (by decide) (by decide) (by decide) rfl depth
  | array _ ih => exact reads_array ih
  | table bare distinct _ ih => exact reads_table bare distinct ih

end Value

end AccessStream.Toml
