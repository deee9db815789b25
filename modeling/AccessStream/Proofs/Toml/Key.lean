import AccessStream.Proofs.Toml.Quoted
import AccessStream.Toml.Scanner

/-!
# Keys read back

Blanks and lines before a visible character are skipped, and nothing after it. A key of bare names
is read back from what is written for it, whatever follows, unless that goes on with the last name
or with a point (`Key.scan?_write`); so is a pair of such a key and a value (`scanPair?_write`).
-/

namespace AccessStream.Toml

/-! ## Skipping -/

/-- A character that is no blank and ends no line, nor starts a comment. -/
def IsVisible (c : Char) : Prop := c ∉ [' ', '\t', '#', '\n', '\r']

instance (c : Char) : Decidable (IsVisible c) := inferInstanceAs (Decidable (c ∉ _))

theorem IsVisible.isBlank {c : Char} (h : IsVisible c) : isBlank c = false := by
  simp only [IsVisible, List.mem_cons, not_or] at h
  simp [Toml.isBlank, h]

theorem skipBlanks_blank {c : Char} (h : isBlank c = true) (text : Chars) :
    skipBlanks (c :: text) = skipBlanks text := List.dropWhile_cons_of_pos h

theorem skipBlanks_visible {c : Char} (h : IsVisible c) (text : Chars) :
    skipBlanks (c :: text) = c :: text :=
  List.dropWhile_cons_of_neg (by simp [h.isBlank])

theorem skipToLineEnd_visible {c : Char} (h : IsVisible c) (text : Chars) :
    skipToLineEnd (c :: text) = c :: text := by
  rw [skipToLineEnd, skipBlanks_visible h, skipComment.eq_def]
  split
  · rename_i same
    cases (List.cons.inj same).1
    exact absurd h (by decide)
  · rfl

theorem skipLines_visible {c : Char} (h : IsVisible c) (text : Chars) :
    skipLines (c :: text) = c :: text := by
  have other : c ≠ '\n' ∧ c ≠ '\r' := by
    simp only [IsVisible, List.mem_cons, not_or] at h
    exact ⟨h.2.2.2.1, h.2.2.2.2.1⟩
  have no_end : lineEnd? (c :: text) = none :=
    lineEnd?_eq_none (by simpa using other.1) (by simpa using other.2)
  rw [skipLines.eq_def, skipToLineEnd_visible h]
  split
  · rename_i found
    cases no_end.symm.trans found
  · rfl

theorem skipLines_nil : skipLines [] = [] := by
  rw [skipLines.eq_def]
  rfl

theorem skipLines_blank {c : Char} (h : isBlank c = true) (text : Chars) :
    skipLines (c :: text) = skipLines text := by
  rw [skipLines.eq_def, skipLines.eq_def text, skipToLineEnd, skipToLineEnd, skipBlanks_blank h]

theorem skipLines_lineFeed (text : Chars) : skipLines ('\n' :: text) = skipLines text := by
  have start : lineEnd? (skipToLineEnd ('\n' :: text)) = some text := rfl
  rw [skipLines.eq_def]
  split
  · rename_i found
    cases start.symm.trans found
    rfl
  · rename_i found
    cases start.symm.trans found

theorem Spread.skip_visible (spread : Spread) {c : Char} (h : IsVisible c) (text : Chars) :
    spread.skip (c :: text) = c :: text := by
  cases spread with
  | oneLine => exact skipBlanks_visible h text
  | anyLine => exact skipLines_visible h text

theorem Spread.skip_blank (spread : Spread) {c : Char} (h : isBlank c = true) (text : Chars) :
    spread.skip (c :: text) = spread.skip text := by
  cases spread with
  | oneLine => exact skipBlanks_blank h text
  | anyLine => exact skipLines_blank h text

/-! ## Keys -/

namespace Key

/-- A name that can be written without quotes. -/
def IsBare (name : String) : Prop := name.toList ≠ [] ∧ name.toList.all isBare = true

instance (name : String) : Decidable (IsBare name) := inferInstanceAs (Decidable (_ ∧ _))

theorem IsBare.isBare {name : String} (h : IsBare name) : ∀ c ∈ name.toList, isBare c = true :=
  List.all_eq_true.1 h.2

theorem isVisible_of_isBare {c : Char} (h : isBare c = true) : IsVisible c :=
  not_mem_of_class h (by decide)

/-- What may follow a key: something that neither goes on with its last name nor adds one. -/
structure Ends (rest : Chars) : Prop where
  /-- The last name ends. -/
  name : ∀ c ∈ rest.head?, isBare c = false
  /-- There is no further name. -/
  point : point? rest = none

/-- The names of a key that reads back. -/
structure Writable (names : List String) : Prop where
  nonempty : names ≠ []
  bare : ∀ name ∈ names, IsBare name
  few : names.length ≤ maxLength

theorem writable_singleton {name : String} (h : IsBare name) : Writable [name] :=
  ⟨List.cons_ne_nil _ _, by simpa using h, by simp [maxLength]⟩

theorem writeName_of_isBare {name : String} (h : IsBare name) : writeName name = name.toList := by
  have nonempty : name.isEmpty = false := by
    rw [← Bool.not_eq_true, String.isEmpty_iff]
    rintro rfl
    exact h.1 rfl
  rw [writeName, if_pos]
  rw [nonempty, h.2]
  rfl

theorem name?_append {name : String} (h : IsBare name) {rest : Chars}
    (next : ∀ c ∈ rest.head?, isBare c = false) :
    name? (name.toList ++ rest) = some (name, rest) := by
  have unquoted : Quoted.scanLine? (name.toList ++ rest) = none := by
    obtain ⟨c, more, first⟩ := List.exists_cons_of_ne_nil h.1
    have bare : isBare c = true := h.isBare c (first ▸ List.mem_cons_self)
    rw [first, List.cons_append]
    exact Quoted.scanLine?_eq_none (not_mem_of_class bare (by decide)) _
  have bare : (name.toList ++ rest).takeWhile isBare = name.toList := takeWhile_front h.isBare next
  have after : (name.toList ++ rest).dropWhile isBare = rest := dropWhile_front h.isBare next
  have nonempty : name.toList.isEmpty = false := by
    rw [← Bool.not_eq_true, List.isEmpty_iff]
    exact h.1
  rw [name?, unquoted]
  simp only [bare, after, nonempty]
  simp

theorem write_cons_cons (name next : String) (names : List String) :
    write (name :: next :: names) = writeName name ++ '.' :: write (next :: names) := by
  simp [write, List.intercalate]

theorem write_singleton (name : String) : write [name] = writeName name := by
  simp [write, List.intercalate]

/-- What is written for bare names begins with a character of the first one. -/
theorem write_eq_cons {names : List String} (nonempty : names ≠ [])
    (bare : ∀ name ∈ names, IsBare name) :
    ∃ c more, write names = c :: more ∧ isBare c = true := by
  obtain ⟨name, names, rfl⟩ := List.exists_cons_of_ne_nil nonempty
  have h := bare name List.mem_cons_self
  obtain ⟨c, more, first⟩ := List.exists_cons_of_ne_nil h.1
  have inside : isBare c = true := h.isBare c (first ▸ List.mem_cons_self)
  cases names with
  | nil => exact ⟨c, more, by rw [write_singleton, writeName_of_isBare h, first], inside⟩
  | cons next names =>
    refine ⟨c, more ++ '.' :: write (next :: names), ?_, inside⟩
    rw [write_cons_cons, writeName_of_isBare h, first, List.cons_append]

theorem point?_point {c : Char} (h : IsVisible c) (text : Chars) :
    point? ('.' :: c :: text) = some (c :: text) := by
  rw [point?, skipBlanks_visible (by decide)]
  simp only [skipBlanks_visible h]

theorem namesAfter?_write {names : List String} (nonempty : names ≠ [])
    (bare : ∀ name ∈ names, IsBare name) {rest : Chars} (ends : Ends rest) (found : List String) :
    namesAfter? found (write names ++ rest) = some (found.reverse ++ names, rest) := by
  induction names generalizing found with
  | nil => exact absurd rfl nonempty
  | cons name names ih =>
    have first := bare name List.mem_cons_self
    cases names with
    | nil =>
      have read := name?_append first ends.name
      rw [write_singleton, writeName_of_isBare first, namesAfter?.eq_def, read]
      simp only
      split
      · rename_i further
        cases ends.point.symm.trans further
      · rw [List.reverse_cons]
    | cons next names =>
      have others : ∀ other ∈ next :: names, IsBare other :=
        fun other h => bare other (List.mem_cons_of_mem name h)
      obtain ⟨c, more, start, visible⟩ := write_eq_cons (by simp) others
      have inner := ih (by simp) others (name :: found)
      have read : name? (name.toList ++ '.' :: (write (next :: names) ++ rest)) =
          some (name, '.' :: (write (next :: names) ++ rest)) :=
        name?_append first (by simp; decide)
      have point : point? ('.' :: (write (next :: names) ++ rest)) =
          some (write (next :: names) ++ rest) := by
        rw [start]
        exact point?_point (isVisible_of_isBare visible) _
      rw [write_cons_cons, writeName_of_isBare first, List.append_assoc, List.cons_append,
        namesAfter?.eq_def, read]
      simp only
      split
      · rename_i further
        cases point.symm.trans further
        rw [inner]
        simp
      · rename_i last
        cases point.symm.trans last

/-- The names of a key are read back if they are bare, and what follows the key is left. -/
theorem scan?_write {names : List String} (h : Writable names) {rest : Chars} (ends : Ends rest) :
    scan? (write names ++ rest) = some (names, rest) := by
  rw [scan?, namesAfter?_write h.nonempty h.bare ends]
  simp [h.few]

end Key

/-! ## Pairs -/

theorem Key.ends_equals (text : Chars) : Key.Ends (' ' :: '=' :: text) :=
  ⟨by simp; decide, rfl⟩

theorem scanEquals?_equals (spread : Spread) {c : Char} (h : IsVisible c) (text : Chars) :
    scanEquals? spread (' ' :: '=' :: ' ' :: c :: text) = some (c :: text) := by
  rw [scanEquals?, spread.skip_blank (by decide), spread.skip_visible (by decide)]
  simp only [spread.skip_blank (c := ' ') (by decide), spread.skip_visible h]

/-- A pair is read back if its key can be written and its value is read back. -/
theorem scanPair?_write {α : Type} (spread : Spread) {scanner : Scanner α} {names : List String}
    (key : Key.Writable names) {c : Char} (visible : IsVisible c) {text rest : Chars} {value : α}
    (read : scanner.scan (c :: text) = some (value, rest)) :
    scanPair? spread scanner (Key.write names ++ ' ' :: '=' :: ' ' :: c :: text) =
      some ((names, value), rest) := by
  rw [scanPair?, Key.scan?_write key (Key.ends_equals _)]
  simp only [scanEquals?_equals spread visible, read]

end AccessStream.Toml
