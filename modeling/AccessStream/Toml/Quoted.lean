import AccessStream.Text.Hex
import AccessStream.Toml.Blank

/-!
# TOML strings

A string stands between quotes, on one line, or between triple quotes, on any number of lines.
Between double quotes a backslash starts an escape; between single quotes every character stands for
itself. After triple quotes a line end at once is dropped, and up to two quotes may stand right
before the closing ones. Between triple double quotes a backslash at the end of a line drops
everything up to the next character that is neither blank nor line end.
-/

namespace AccessStream.Toml.Quoted

/-- The character that a single character after a backslash stands for. -/
def shortEscape? (c : Char) : Option Char :=
  if c = 'b' then some '\x08'
  else if c = 't' then some '\t'
  else if c = 'n' then some '\n'
  else if c = 'f' then some '\x0C'
  else if c = 'r' then some '\r'
  else if c = 'e' then some '\x1B'
  else if c = '"' then some '"'
  else if c = '\\' then some '\\'
  else none

/-- The character that the escape after a backslash stands for. -/
def escape? : Chars → Option (Char × Chars)
  | [] => none
  | c :: rest =>
    if c = 'x' then Text.hexChar? 2 rest
    else if c = 'u' then Text.hexChar? 4 rest
    else if c = 'U' then Text.hexChar? 8 rest
    else (shortEscape? c).map (·, rest)

theorem length_of_escape? {text : Chars} {c : Char} {rest : Chars}
    (h : escape? text = some (c, rest)) : rest.length < text.length := by
  unfold escape? at h
  split at h
  · cases h
  rename_i first after
  repeat' split at h
  · exact Nat.lt_succ_of_le (Text.length_of_hexChar? h)
  · exact Nat.lt_succ_of_le (Text.length_of_hexChar? h)
  · exact Nat.lt_succ_of_le (Text.length_of_hexChar? h)
  · cases short : shortEscape? first with
    | none => simp [short] at h
    | some =>
      simp only [short, Option.map_some, Option.some.injEq, Prod.mk.injEq] at h
      simp [← h.2]

/-- The text after the line end that follows an opening triple quote at once. -/
def skipLineEnd (text : Chars) : Chars := (lineEnd? text).getD text

theorem length_skipLineEnd_le (text : Chars) : (skipLineEnd text).length ≤ text.length := by
  unfold skipLineEnd
  cases h : lineEnd? text with
  | none => simp
  | some rest => exact Nat.le_of_lt (length_of_lineEnd? h)

/-- The text after blanks and line ends. -/
def skipBlankLines (text : Chars) : Chars :=
  match _next : lineEnd? (skipBlanks text) with
  | some rest => skipBlankLines rest
  | none => skipBlanks text
termination_by text.length
decreasing_by
  have := length_of_lineEnd? _next
  have := length_skipBlanks_le text
  omega

theorem length_skipBlankLines_le (text : Chars) : (skipBlankLines text).length ≤ text.length := by
  fun_induction skipBlankLines text with
  | case1 text rest next ih =>
    have := length_of_lineEnd? next
    have := length_skipBlanks_le text
    omega
  | case2 text _ => exact length_skipBlanks_le text

/-- The text after a backslash that ends its line and all that it drops. -/
def continued? (text : Chars) : Option Chars := (lineEnd? (skipBlanks text)).map skipBlankLines

theorem length_of_continued? {text rest : Chars} (h : continued? text = some rest) :
    rest.length < text.length := by
  unfold continued? at h
  cases found : lineEnd? (skipBlanks text) with
  | none => simp [found] at h
  | some after =>
    simp only [found, Option.map_some, Option.some.injEq] at h
    have := length_of_lineEnd? found
    have := length_skipBlanks_le text
    have := length_skipBlankLines_le after
    rw [← h]
    omega

/-- The rest of a string between double quotes; `found` are its characters so far, the last one
first. -/
def basic? (found : Chars) (text : Chars) : Option (String × Chars) :=
  match text with
  | [] => none
  | c :: rest =>
    if c = '"' then some (String.ofList found.reverse, rest)
    else if c = '\\' then
      match _escape : escape? rest with
      | some (c, rest) => basic? (c :: found) rest
      | none => none
    else if isPlain c then basic? (c :: found) rest
    else none
termination_by text.length
decreasing_by
  · exact Nat.lt_succ_of_lt (length_of_escape? _escape)
  · simp

/-- The rest of a string between single quotes. -/
def literal? (found : Chars) : Chars → Option (String × Chars)
  | [] => none
  | c :: rest =>
    if c = '\'' then some (String.ofList found.reverse, rest)
    else if isPlain c then literal? (c :: found) rest
    else none

/-- The end of a string between triple quotes, at the first three of its closing quotes: up to two
more quotes belong to the string. -/
def closing? (quote : Char) (found text : Chars) : Option (String × Chars) :=
  if [quote, quote, quote].isPrefixOf text then
    let rest := text.drop 3
    let more := min 2 (rest.takeWhile (· = quote)).length
    some (String.ofList (List.replicate more quote ++ found).reverse, rest.drop more)
  else none

theorem length_of_closing? {quote : Char} {found text rest : Chars} {content : String}
    (h : closing? quote found text = some (content, rest)) : rest.length < text.length := by
  unfold closing? at h
  split at h
  · rename_i quotes
    have long := (List.isPrefixOf_iff_prefix.1 quotes).length_le
    simp only [Option.some.injEq, Prod.mk.injEq] at h
    rw [← h.2]
    simp only [List.length_cons, List.length_nil, List.length_drop] at long ⊢
    omega
  · cases h

/-- The rest of a string between triple double quotes. -/
def multilineBasic? (found : Chars) (text : Chars) : Option (String × Chars) :=
  match closing? '"' found text with
  | some whole => some whole
  | none =>
    match text with
    | [] => none
    | c :: rest =>
      if c = '\\' then
        match _continued : continued? rest with
        | some rest => multilineBasic? found rest
        | none =>
          match _escape : escape? rest with
          | some (c, rest) => multilineBasic? (c :: found) rest
          | none => none
      else if c = '\r' then
        match rest with
        | '\n' :: rest => multilineBasic? ('\n' :: '\r' :: found) rest
        | _ => none
      else if isPlain c || c = '\n' then multilineBasic? (c :: found) rest
      else none
termination_by text.length
decreasing_by
  · exact Nat.lt_succ_of_lt (length_of_continued? _continued)
  · exact Nat.lt_succ_of_lt (length_of_escape? _escape)
  · simp only [List.length_cons]; omega
  · simp

/-- The rest of a string between triple single quotes. -/
def multilineLiteral? (found : Chars) (text : Chars) : Option (String × Chars) :=
  match closing? '\'' found text with
  | some whole => some whole
  | none =>
    match text with
    | [] => none
    | c :: rest =>
      if c = '\r' then
        match rest with
        | '\n' :: rest => multilineLiteral? ('\n' :: '\r' :: found) rest
        | _ => none
      else if isPlain c || c = '\n' then multilineLiteral? (c :: found) rest
      else none
termination_by text.length
decreasing_by
  · simp only [List.length_cons]; omega
  · simp

/-- The string on one line at the front of a text. -/
def scanLine? : Chars → Option (String × Chars)
  | '"' :: rest => basic? [] rest
  | '\'' :: rest => literal? [] rest
  | _ => none

/-- The string at the front of a text. -/
def scan? : Chars → Option (String × Chars)
  | '"' :: '"' :: '"' :: rest => multilineBasic? [] (skipLineEnd rest)
  | '\'' :: '\'' :: '\'' :: rest => multilineLiteral? [] (skipLineEnd rest)
  | text => scanLine? text

theorem length_of_basic? {found text rest : Chars} {content : String}
    (h : basic? found text = some (content, rest)) : rest.length < text.length := by
  fun_induction basic? found text with
  | case1 => cases h
  | case2 => cases h; simp
  | case3 _ _ _ _ found _ ih =>
    have := length_of_escape? found
    have := ih h
    simp only [List.length_cons]
    omega
  | case4 => cases h
  | case5 _ _ _ _ _ _ ih => exact Nat.lt_succ_of_lt (ih h)
  | case6 => cases h

theorem length_of_literal? {found text rest : Chars} {content : String}
    (h : literal? found text = some (content, rest)) : rest.length < text.length := by
  fun_induction literal? found text with
  | case1 => cases h
  | case2 => cases h; simp
  | case3 _ _ _ _ _ ih => exact Nat.lt_succ_of_lt (ih h)
  | case4 => cases h

theorem length_of_multilineBasic? {found text rest : Chars} {content : String}
    (h : multilineBasic? found text = some (content, rest)) : rest.length < text.length := by
  fun_induction multilineBasic? found text with
  | case1 _ _ _ closed => cases h; exact length_of_closing? closed
  | case2 => cases h
  | case3 _ _ _ continued _ ih =>
    have := length_of_continued? continued
    have := ih h
    simp only [List.length_cons]
    omega
  | case4 _ _ _ _ _ escaped _ ih =>
    have := length_of_escape? escaped
    have := ih h
    simp only [List.length_cons]
    omega
  | case5 => cases h
  | case6 _ _ _ _ ih =>
    have := ih h
    simp only [List.length_cons]
    omega
  | case7 => cases h
  | case8 _ _ _ _ _ _ _ ih => exact Nat.lt_succ_of_lt (ih h)
  | case9 => cases h

theorem length_of_multilineLiteral? {found text rest : Chars} {content : String}
    (h : multilineLiteral? found text = some (content, rest)) : rest.length < text.length := by
  fun_induction multilineLiteral? found text with
  | case1 _ _ _ closed => cases h; exact length_of_closing? closed
  | case2 => cases h
  | case3 _ _ _ ih =>
    have := ih h
    simp only [List.length_cons]
    omega
  | case4 => cases h
  | case5 _ _ _ _ _ _ ih => exact Nat.lt_succ_of_lt (ih h)
  | case6 => cases h

theorem length_of_scanLine? {text rest : Chars} {content : String}
    (h : scanLine? text = some (content, rest)) : rest.length < text.length := by
  unfold scanLine? at h
  split at h
  · exact Nat.lt_succ_of_lt (length_of_basic? h)
  · exact Nat.lt_succ_of_lt (length_of_literal? h)
  · cases h

theorem length_of_scan? {text rest : Chars} {content : String}
    (h : scan? text = some (content, rest)) : rest.length < text.length := by
  unfold scan? at h
  split at h
  · rename_i after
    have := length_of_multilineBasic? h
    have := length_skipLineEnd_le after
    simp only [List.length_cons]
    omega
  · rename_i after
    have := length_of_multilineLiteral? h
    have := length_skipLineEnd_le after
    simp only [List.length_cons]
    omega
  · exact length_of_scanLine? h

end AccessStream.Toml.Quoted
