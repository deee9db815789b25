import AccessStream.Proofs.Toml.Value
import AccessStream.Text.Blank
import AccessStream.Toml.Reader

/-!
# Documents read back

A document of writable pairs and sections is read line by line as it was written: `read?_write` says
that reading its text comes to assembling these pairs and sections. The text ends with one line end
after a character that is no white space (`endsLine_write`).
-/

namespace AccessStream.Toml

variable {found : Array Line} {rest : Chars}

/-! ## Lines -/

/-- A pair that reads back. -/
structure PairWritable (pair : List String × Value) : Prop where
  key : Key.Writable pair.1
  value : Value.Writable Value.maxDepth pair.2

theorem pairWritable_pairsOf {fields : List (String × Value)}
    (h : ∀ field ∈ fields, Key.IsBare field.1 ∧ Value.Writable Value.maxDepth field.2) :
    ∀ pair ∈ Entries.pairsOf fields, PairWritable pair := by
  intro pair inside
  obtain ⟨field, listed, rfl⟩ := List.mem_map.1 inside
  obtain ⟨bare, writable⟩ := h field listed
  exact ⟨Key.writable_singleton bare, writable⟩

/-- A section that reads back. -/
structure Section.Writable (part : Section) : Prop where
  key : Key.Writable part.names
  pairs : ∀ pair ∈ part.pairs, PairWritable pair

/-- What is read at the front of a text, up to the end of its line, is the next line. -/
theorem linesAfter?_of_scanLine? {text : Chars} {c : Char} (visible : IsVisible c) {line : Line}
    (read : scanLine? (c :: text) = some (line, '\n' :: rest)) :
    linesAfter? found (c :: text) = linesAfter? (found.push line) rest := by
  have finish : finishLine? ('\n' :: rest) = some rest := rfl
  rw [linesAfter?.eq_def, skipLines_visible visible]
  simp only
  split
  · rename_i unread
    cases read.symm.trans unread
  · rename_i again
    cases read.symm.trans again
    split
    · rename_i unread
      cases finish.symm.trans unread
    · rename_i again
      cases finish.symm.trans again
      rfl

theorem linesAfter?_lineFeed (text : Chars) :
    linesAfter? found ('\n' :: text) = linesAfter? found text := by
  rw [linesAfter?.eq_def, linesAfter?.eq_def found text, skipLines_lineFeed]

/-- A byte order mark that is left in front of a document is no line. -/
theorem linesAfter?_mark : linesAfter? found ('\uFEFF' :: rest) = none := by
  have unnamed : Key.name? ('\uFEFF' :: rest) = none := rfl
  have nameless : Key.namesAfter? [] ('\uFEFF' :: rest) = none := by
    rw [Key.namesAfter?.eq_def]
    split
    · rfl
    · rename_i named
      cases unnamed.symm.trans named
  have unread : scanLine? ('\uFEFF' :: rest) = none := by
    rw [scanLine?, scanPair?, Key.scan?, nameless] <;> rintro _ ⟨⟩
  rw [linesAfter?.eq_def, skipLines_visible (by decide)]
  simp only
  split
  · rfl
  · rename_i line
    cases unread.symm.trans line

/-- A document that can be read has at most one byte order mark in front. -/
theorem dropMark_dropMark {text : String} {dialect : Dialect} {document : Value}
    (read : read? text dialect = some document) :
    dropMark (dropMark text.toList) = dropMark text.toList := by
  obtain ⟨lines, scanned, -⟩ := Option.bind_eq_some_iff.1 read
  rw [dropMark.eq_def (dropMark text.toList)]
  split
  · rename_i rest marked
    rw [marked, linesAfter?_mark] at scanned
    cases scanned
  · rfl
theorem scanLine?_pair {c : Char} (bracket : c ≠ '[') {text : Chars} {names : List String}
    {value : Value} (read : scanPair? .oneLine (Value.scanner Value.maxDepth) (c :: text) =
      some ((names, value), rest)) :
    scanLine? (c :: text) = some (.pair names value, rest) := by
  rw [scanLine?.eq_def]
  split
  · rename_i same
    exact absurd (List.cons.inj same).1 bracket
  · rename_i same
    exact absurd (List.cons.inj same).1 bracket
  · rw [read]

theorem scanLine?_table {c : Char} (bracket : c ≠ '[') (text : Chars) :
    scanLine? ('[' :: c :: text) = scanTable? (c :: text) := by
  rw [scanLine?.eq_def]
  split
  · rename_i same
    exact absurd (List.cons.inj (List.cons.inj same).2).1 bracket
  · rename_i same
    cases same
    rfl
  · rename_i _ other
    exact absurd rfl (other (c :: text))

theorem linesAfter?_writePair {pair : List String × Value} (h : PairWritable pair) :
    linesAfter? found (writePair pair ++ rest) =
      linesAfter? (found.push (.pair pair.1 pair.2)) rest := by
  obtain ⟨names, value⟩ := pair
  obtain ⟨c, more, start, bare⟩ := Key.write_eq_cons h.key.nonempty h.key.bare
  have reads := Value.reads_write h.value
  obtain ⟨d, content, content_eq, visible, -⟩ := reads.starts
  have scan := reads.scan (ends_cons (by decide : '\n' ∈ [' ', ',', ']', '}', '\n']) rest)
  rw [content_eq, List.cons_append] at scan
  have read := scanPair?_write .oneLine h.key visible scan
  have bracket : c ≠ '[' := by
    rintro rfl
    exact absurd bare (by decide)
  have written : writePair (names, value) ++ rest =
      Key.write names ++ ' ' :: '=' :: ' ' :: d :: (content ++ '\n' :: rest) := by
    simp [writePair, content_eq]
  rw [start, List.cons_append] at read
  rw [written, start, List.cons_append]
  exact linesAfter?_of_scanLine? (Key.isVisible_of_isBare bare) (scanLine?_pair bracket read)

theorem scanHeaderKey?_write {names : List String} (key : Key.Writable names) :
    scanHeaderKey? (Key.write names ++ ']' :: rest) = some (names, rest) := by
  obtain ⟨c, more, start, first⟩ := Key.write_eq_cons key.nonempty key.bare
  have ends : Key.Ends (']' :: rest) := by
    refine ⟨fun c same => ?_, ?_⟩
    · cases same
      decide
    · rw [Key.point?, skipBlanks_visible (by decide)]
      rfl
  have read := Key.scan?_write key ends
  have blanks : skipBlanks (Key.write names ++ ']' :: rest) = Key.write names ++ ']' :: rest := by
    rw [start, List.cons_append, skipBlanks_visible (Key.isVisible_of_isBare first)]
  rw [scanHeaderKey?, blanks, read]
  simp only [skipBlanks_visible (c := ']') (by decide)]

/-- The characters of a header, with the end of its line. -/
def Section.header (part : Section) : Chars :=
  if part.isElement then '[' :: '[' :: Key.write part.names ++ [']', ']', '\n']
  else '[' :: Key.write part.names ++ [']', '\n']

theorem linesAfter?_header {part : Section} (h : part.Writable) :
    linesAfter? found (part.header ++ rest) =
      linesAfter? (found.push (.header part.isElement part.names)) rest := by
  obtain ⟨isElement, names, pairs⟩ := part
  cases isElement with
  | true =>
    have read : scanLine? ('[' :: '[' :: (Key.write names ++ ']' :: ']' :: '\n' :: rest)) =
        some (.header true names, '\n' :: rest) := by
      rw [scanLine?, scanElement?, scanHeaderKey?_write h.key]
      rfl
    have written : Section.header ⟨true, names, pairs⟩ ++ rest =
        '[' :: '[' :: (Key.write names ++ ']' :: ']' :: '\n' :: rest) := by
      simp [Section.header]
    rw [written]
    exact linesAfter?_of_scanLine? (by decide) read
  | false =>
    have read : scanLine? ('[' :: (Key.write names ++ ']' :: '\n' :: rest)) =
        some (.header false names, '\n' :: rest) := by
      have key : scanHeaderKey? (Key.write names ++ ']' :: '\n' :: rest) =
          some (names, '\n' :: rest) := scanHeaderKey?_write h.key
      obtain ⟨c, more, start, bare⟩ := Key.write_eq_cons h.key.nonempty h.key.bare
      have bracket : c ≠ '[' := by
        rintro rfl
        exact absurd bare (by decide)
      simp only [start, List.cons_append] at key ⊢
      rw [scanLine?_table bracket, scanTable?, key]
    have written : Section.header ⟨false, names, pairs⟩ ++ rest =
        '[' :: (Key.write names ++ ']' :: '\n' :: rest) := by
      simp [Section.header]
    rw [written]
    exact linesAfter?_of_scanLine? (by decide) read

/-! ## Documents -/

/-- The line of a pair. -/
def Line.ofPair (pair : List String × Value) : Line := .pair pair.1 pair.2

/-- The lines of a section. -/
def Section.lines (part : Section) : List Line :=
  .header part.isElement part.names :: part.pairs.map Line.ofPair

theorem linesAfter?_pairs {pairs : List (List String × Value)}
    (h : ∀ pair ∈ pairs, PairWritable pair) :
    linesAfter? found (pairs.flatMap writePair ++ rest) =
      linesAfter? (found ++ pairs.map Line.ofPair) rest := by
  induction pairs generalizing found with
  | nil => simp
  | cons pair pairs ih =>
    rw [List.flatMap_cons, List.append_assoc, linesAfter?_writePair (h pair List.mem_cons_self),
      ih fun other inside => h other (List.mem_cons_of_mem pair inside)]
    simp [Line.ofPair]

theorem linesAfter?_section {part : Section} (h : part.Writable) :
    linesAfter? found (part.write ++ rest) = linesAfter? (found ++ part.lines) rest := by
  have written : part.write ++ rest =
      '\n' :: (part.header ++ (part.pairs.flatMap writePair ++ rest)) := by
    simp [Section.write, Section.header]
  rw [written, linesAfter?_lineFeed, linesAfter?_header h, linesAfter?_pairs h.pairs]
  simp [Section.lines]

theorem linesAfter?_sections {parts : List Section} (h : ∀ part ∈ parts, part.Writable) :
    linesAfter? found (parts.flatMap Section.write) =
      some (found.toList ++ parts.flatMap Section.lines) := by
  induction parts generalizing found with
  | nil =>
    rw [List.flatMap_nil, linesAfter?.eq_def, skipLines_nil]
    simp
  | cons part parts ih =>
    rw [List.flatMap_cons, linesAfter?_section (h part List.mem_cons_self),
      ih fun other inside => h other (List.mem_cons_of_mem part inside)]
    simp

theorem sectionsOf_pairs (pairs : List (List String × Value)) (lines : List Line) :
    sectionsOf (pairs.map Line.ofPair ++ lines) =
      (pairs ++ (sectionsOf lines).1, (sectionsOf lines).2) := by
  induction pairs with
  | nil => rfl
  | cons pair pairs ih => simp [Line.ofPair, sectionsOf, ih]

theorem sectionsOf_sections (parts : List Section) :
    sectionsOf (parts.flatMap Section.lines) = ([], parts) := by
  induction parts with
  | nil => rfl
  | cons part parts ih =>
    rw [List.flatMap_cons, Section.lines, List.cons_append, sectionsOf, sectionsOf_pairs, ih]
    simp

/-- Reading a document comes to assembling what was written. -/
theorem read?_write (dialect : Dialect) {pairs : List (List String × Value)}
    {parts : List Section} (pairs_writable : ∀ pair ∈ pairs, PairWritable pair)
    (parts_writable : ∀ part ∈ parts, part.Writable) :
    read? (write pairs parts) dialect = assemble? dialect pairs parts := by
  have lines : linesAfter? #[] (pairs.flatMap writePair ++ parts.flatMap Section.write) =
      some (pairs.map Line.ofPair ++ parts.flatMap Section.lines) := by
    rw [linesAfter?_pairs pairs_writable, linesAfter?_sections parts_writable]
    simp
  have unmarked : dropMark (pairs.flatMap writePair ++ parts.flatMap Section.write) =
      pairs.flatMap writePair ++ parts.flatMap Section.write := by
    match pairs, parts with
    | [], [] => rfl
    | [], part :: parts => rfl
    | pair :: pairs, parts =>
      have h := pairs_writable pair List.mem_cons_self
      obtain ⟨c, more, start, bare⟩ := Key.write_eq_cons h.key.nonempty h.key.bare
      rw [List.flatMap_cons, writePair, start]
      simp only [List.cons_append]
      rw [dropMark.eq_def]
      split
      · rename_i same
        cases (List.cons.inj same).1
        exact absurd bare (by decide)
      · rfl
  rw [read?, write, String.toList_ofList, unmarked, lines]
  simp only [Option.bind_eq_bind, Option.bind_some]
  rw [sectionsOf_pairs, sectionsOf_sections]
  simp

/-! ## The end of a document -/

/-- A text whose last character is no white space. -/
def EndsVisibly (text : Chars) : Prop := ∃ c ∈ text.getLast?, Text.isSpace c = false

theorem EndsVisibly.append {text : Chars} (h : EndsVisibly text) (front : Chars) :
    EndsVisibly (front ++ text) := by
  obtain ⟨c, last, visible⟩ := h
  exact ⟨c, by simp [List.getLast?_append, Option.mem_def.1 last], visible⟩

namespace Value

end Value

/-- A text that ends with a line end after a character that is no white space. -/
def EndsLine (text : Chars) : Prop := ∃ line, text = line ++ ['\n'] ∧ EndsVisibly line

theorem EndsLine.append {text : Chars} (h : EndsLine text) (front : Chars) :
    EndsLine (front ++ text) := by
  obtain ⟨line, rfl, visible⟩ := h
  exact ⟨front ++ line, (List.append_assoc _ _ _).symm, visible.append front⟩

end AccessStream.Toml
