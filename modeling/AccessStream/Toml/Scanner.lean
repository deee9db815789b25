import AccessStream.Toml.Key
import AccessStream.Toml.Tree
import AccessStream.Toml.Word

/-!
# Reading TOML values

A value is a string, a word, an array between brackets, or a table between braces. The items of an
array and the pairs of a table are divided by commas, of which one may stand after the last. Between
brackets and between braces, line ends and comments count as blanks; elsewhere a key and its value
stand on one line up to the value's first character. Arrays and tables may be nested up to a limit.
-/

namespace AccessStream.Toml

/-- A way to read something at the front of a text. -/
structure Scanner (α : Type) where
  /-- What stands at the front of a text, and what follows it. -/
  scan : Chars → Option (α × Chars)
  /-- Something is read. -/
  shortens : ∀ {text : Chars} {value : α} {rest : Chars},
    scan text = some (value, rest) → rest.length < text.length

variable {α : Type}

/-- What follows an item: a comma, after which a further item may stand, or the closing character.
-/
def scanComma? (close : Char) (text : Chars) : Option (Bool × Chars) :=
  match skipLines text with
  | [] => none
  | c :: rest =>
    if c = close then some (false, rest) else if c = ',' then some (true, rest) else none

theorem length_of_scanComma? {close : Char} {text rest : Chars} {more : Bool}
    (h : scanComma? close text = some (more, rest)) : rest.length < text.length := by
  have shorter := length_skipLines_le text
  unfold scanComma? at h
  split at h
  · cases h
  rename_i lines
  rw [lines, List.length_cons] at shorter
  repeat' split at h
  all_goals cases h
  all_goals omega

/-- The items up to a closing character, after those found so far. -/
def scanItems? (close : Char) (item : Scanner α) (found : Array α) (text : Chars) :
    Option (Array α × Chars) :=
  match _lines : skipLines text with
  | [] => none
  | c :: rest =>
    if c = close then some (found, rest)
    else
      match _item : item.scan (c :: rest) with
      | none => none
      | some (value, afterItem) =>
        match _next : scanComma? close afterItem with
        | none => none
        | some (false, rest) => some (found.push value, rest)
        | some (true, rest) => scanItems? close item (found.push value) rest
termination_by text.length
decreasing_by
  have shorter := length_skipLines_le text
  rw [_lines] at shorter
  have := item.shortens _item
  have := length_of_scanComma? _next
  omega

theorem length_of_scanItems? {close : Char} {item : Scanner α} {found items : Array α}
    {text rest : Chars} (h : scanItems? close item found text = some (items, rest)) :
    rest.length < text.length := by
  fun_induction scanItems? close item found text with
  | case1 => cases h
  | case2 _ text _ lines =>
    have shorter := length_skipLines_le text
    rw [lines, List.length_cons] at shorter
    cases h
    omega
  | case3 => cases h
  | case4 => cases h
  | case5 _ text _ _ lines _ _ _ value _ next =>
    have shorter := length_skipLines_le text
    rw [lines] at shorter
    have := item.shortens value
    have := length_of_scanComma? next
    cases h
    omega
  | case6 _ text _ _ lines _ _ _ value _ next ih =>
    have shorter := length_skipLines_le text
    rw [lines] at shorter
    have := item.shortens value
    have := length_of_scanComma? next
    have := ih h
    omega

/-- Where the parts of a pair may stand. -/
inductive Spread where
  /-- On one line, as in a section. -/
  | oneLine
  /-- On any lines, as between braces. -/
  | anyLine
  deriving DecidableEq, Repr

/-- The text after all that may stand between the parts of a pair. -/
def Spread.skip : Spread → Chars → Chars
  | oneLine => skipBlanks
  | anyLine => skipLines

theorem Spread.length_skip_le (spread : Spread) (text : Chars) :
    (spread.skip text).length ≤ text.length := by
  cases spread with
  | oneLine => exact length_skipBlanks_le text
  | anyLine => exact length_skipLines_le text

/-- The text after an equals sign and what may stand around it. -/
def scanEquals? (spread : Spread) (text : Chars) : Option Chars :=
  match spread.skip text with
  | '=' :: rest => some (spread.skip rest)
  | _ => none

theorem length_of_scanEquals? {spread : Spread} {text rest : Chars}
    (h : scanEquals? spread text = some rest) : rest.length < text.length := by
  have shorter := spread.length_skip_le text
  unfold scanEquals? at h
  split at h
  · rename_i after blanks
    have := spread.length_skip_le after
    rw [blanks, List.length_cons] at shorter
    cases h
    omega
  · cases h

/-- The key and value at the front of a text. -/
def scanPair? (spread : Spread) (value : Scanner α) (text : Chars) :
    Option ((List String × α) × Chars) :=
  match Key.scan? text with
  | none => none
  | some (names, rest) =>
    match scanEquals? spread rest with
    | none => none
    | some rest =>
      match value.scan rest with
      | none => none
      | some (value, rest) => some ((names, value), rest)

theorem length_of_scanPair? {spread : Spread} {value : Scanner α} {text rest : Chars}
    {pair : List String × α} (h : scanPair? spread value text = some (pair, rest)) :
    rest.length < text.length := by
  unfold scanPair? at h
  split at h
  · cases h
  rename_i key
  split at h
  · cases h
  rename_i equals
  split at h
  · cases h
  rename_i content
  cases h
  have := Key.length_of_scan? key
  have := length_of_scanEquals? equals
  have := value.shortens content
  omega

namespace Scanner

/-- Reads a key and a value, spread over any lines. -/
def pair (value : Scanner α) : Scanner (List String × α) :=
  ⟨scanPair? .anyLine value, length_of_scanPair?⟩

end Scanner

namespace Value

/-- The greatest number of arrays and tables that may be nested inside each other. -/
def maxDepth : Nat := 80

/-- The string or word at the front of a text. -/
def scanScalar? (text : Chars) : Option (Value × Chars) :=
  match Quoted.scan? text with
  | some (content, rest) => some (.text content, rest)
  | none => Word.scan? text

theorem length_of_scanScalar? {text rest : Chars} {value : Value}
    (h : scanScalar? text = some (value, rest)) : rest.length < text.length := by
  unfold scanScalar? at h
  split at h
  · rename_i found
    cases h
    exact Quoted.length_of_scan? found
  · exact Word.length_of_scan? h

/-- Reads a string or a word. -/
def scalar : Scanner Value := ⟨scanScalar?, length_of_scanScalar?⟩

/-- The array or table at the front of a text whose items or values are read by another scanner; or
the string or word that stands there. -/
def scanNesting? (inner : Scanner Value) : Chars → Option (Value × Chars)
  | '[' :: rest =>
    match scanItems? ']' inner #[] rest with
    | some (items, rest) => some (.array items.toList, rest)
    | none => none
  | '{' :: rest =>
    match scanItems? '}' inner.pair #[] rest with
    | some (pairs, rest) => (inlineTable? pairs.toList).map (·, rest)
    | none => none
  | other => scanScalar? other

theorem length_of_scanNesting? {inner : Scanner Value} {text rest : Chars} {value : Value}
    (h : scanNesting? inner text = some (value, rest)) : rest.length < text.length := by
  unfold scanNesting? at h
  split at h
  · split at h
    · rename_i found
      cases h
      exact Nat.lt_succ_of_lt (length_of_scanItems? found)
    · cases h
  · split at h
    · rename_i pairs after found
      cases table : inlineTable? pairs.toList with
      | none => simp [table] at h
      | some =>
        simp only [table, Option.map_some, Option.some.injEq, Prod.mk.injEq] at h
        rw [← h.2]
        exact Nat.lt_succ_of_lt (length_of_scanItems? found)
    · cases h
  · exact length_of_scanScalar? h

/-- Reads a value in which at most the given number of arrays and tables are nested. -/
def scanner : Nat → Scanner Value
  | 0 => scalar
  | depth + 1 => ⟨scanNesting? (scanner depth), length_of_scanNesting?⟩

end Value

end AccessStream.Toml
