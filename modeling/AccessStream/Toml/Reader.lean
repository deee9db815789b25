import AccessStream.Toml.Scanner

/-!
# Reading TOML documents

A document is a sequence of lines: headers in brackets, and keys with their values, which belong to
the header above them. A byte order mark at the front counts for nothing.
-/

namespace AccessStream.Toml

/-- A line of a document that is not blank. -/
inductive Line where
  /-- The header of a table, or in double brackets of a table that is added to an array. -/
  | header (isElement : Bool) (names : List String)
  /-- A key and its value. -/
  | pair (names : List String) (value : Value)

/-- The key of a header and the closing bracket after it. -/
def scanHeaderKey? (text : Chars) : Option (List String × Chars) :=
  match Key.scan? (skipBlanks text) with
  | none => none
  | some (names, rest) =>
    match skipBlanks rest with
    | ']' :: rest => some (names, rest)
    | _ => none

theorem length_of_scanHeaderKey? {text rest : Chars} {names : List String}
    (h : scanHeaderKey? text = some (names, rest)) : rest.length < text.length := by
  have blanks := length_skipBlanks_le text
  unfold scanHeaderKey? at h
  split at h
  · cases h
  rename_i after key
  split at h
  · rename_i closing
    have := Key.length_of_scan? key
    have shorter := length_skipBlanks_le after
    rw [closing, List.length_cons] at shorter
    cases h
    omega
  · cases h

/-- The header in double brackets of which the opening ones have been read. -/
def scanElement? (text : Chars) : Option (Line × Chars) :=
  match scanHeaderKey? text with
  | some (names, ']' :: rest) => some (.header true names, rest)
  | _ => none

/-- The header in single brackets of which the opening one has been read. -/
def scanTable? (text : Chars) : Option (Line × Chars) :=
  match scanHeaderKey? text with
  | some (names, rest) => some (.header false names, rest)
  | none => none

/-- The line at the front of a text. -/
def scanLine? : Chars → Option (Line × Chars)
  | '[' :: '[' :: rest => scanElement? rest
  | '[' :: rest => scanTable? rest
  | text =>
    match scanPair? .oneLine (Value.scanner Value.maxDepth) text with
    | some ((names, value), rest) => some (.pair names value, rest)
    | none => none

theorem length_of_scanLine? {text rest : Chars} {line : Line}
    (h : scanLine? text = some (line, rest)) : rest.length < text.length := by
  unfold scanLine? at h
  split at h
  · unfold scanElement? at h
    split at h
    · rename_i found
      have := length_of_scanHeaderKey? found
      cases h
      simp only [List.length_cons] at *
      omega
    · cases h
  · unfold scanTable? at h
    split at h
    · rename_i found
      have := length_of_scanHeaderKey? found
      cases h
      simp only [List.length_cons] at *
      omega
    · cases h
  · split at h
    · rename_i found
      cases h
      exact length_of_scanPair? found
    · cases h

/-- The lines of a text after those found so far. -/
def linesAfter? (found : Array Line) (text : Chars) : Option (List Line) :=
  match _lines : skipLines text with
  | [] => some found.toList
  | c :: rest =>
    match _line : scanLine? (c :: rest) with
    | none => none
    | some (line, afterLine) =>
      match _finish : finishLine? afterLine with
      | none => none
      | some rest => linesAfter? (found.push line) rest
termination_by text.length
decreasing_by
  have shorter := length_skipLines_le text
  rw [_lines] at shorter
  have := length_of_scanLine? _line
  have := length_of_finishLine? _finish
  omega

/-- The pairs of some lines before the first header, and the sections that start with headers. -/
def sectionsOf : List Line → List (List String × Value) × List Section
  | [] => ([], [])
  | .pair names value :: lines =>
    let (pairs, sections) := sectionsOf lines
    ((names, value) :: pairs, sections)
  | .header isElement names :: lines =>
    let (pairs, sections) := sectionsOf lines
    ([], ⟨isElement, names, pairs⟩ :: sections)

/-- A text without the byte order mark in front. -/
def dropMark : Chars → Chars
  | '\uFEFF' :: rest => rest
  | text => text

/-- The table that a TOML document says. -/
def read? (text : String) (dialect : Dialect := .strict) : Option Value := do
  let lines ← linesAfter? #[] (dropMark text.toList)
  let (pairs, sections) := sectionsOf lines
  assemble? dialect pairs sections

end AccessStream.Toml
