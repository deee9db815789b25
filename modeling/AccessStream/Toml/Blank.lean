/-!
# What stands between the parts of a TOML text

Blanks are spaces and tabs; a line ends with a line feed, which a carriage return may precede; a
comment runs from a number sign to the end of its line and holds no control character but tabs.
`skipBlanks` stays on its line, and `skipLines` goes on to the next part of the text on whatever
line.
-/

namespace AccessStream.Toml

/-- What is left of a text. -/
abbrev Chars := List Char

/-- A space or a tab. -/
def isBlank (c : Char) : Bool := c = ' ' || c = '\t'

/-- A character that may stand in comments and in strings on one line: all but the control
characters, and the tab. -/
def isPlain (c : Char) : Bool := c = '\t' || (' ' ≤ c && c ≠ '\x7F')

/-- The text after the blanks at its start. -/
def skipBlanks (text : Chars) : Chars := text.dropWhile isBlank

theorem length_skipBlanks_le (text : Chars) : (skipBlanks text).length ≤ text.length :=
  (List.dropWhile_sublist _).length_le

/-- The text after the line end at its start. -/
def lineEnd? : Chars → Option Chars
  | '\n' :: rest => some rest
  | '\r' :: '\n' :: rest => some rest
  | _ => none

theorem length_of_lineEnd? {text rest : Chars} (h : lineEnd? text = some rest) :
    rest.length < text.length := by
  unfold lineEnd? at h
  split at h
  · cases h; simp
  · cases h; simp only [List.length_cons]; omega
  · cases h

/-- The text after a comment at its start, up to the end of the line. -/
def skipComment : Chars → Chars
  | '#' :: rest => rest.dropWhile isPlain
  | text => text

theorem length_skipComment_le (text : Chars) : (skipComment text).length ≤ text.length := by
  unfold skipComment
  split
  · exact Nat.le_succ_of_le (List.dropWhile_sublist _).length_le
  · exact Nat.le_refl _

/-- The text after blanks and a comment. -/
def skipToLineEnd (text : Chars) : Chars := skipComment (skipBlanks text)

theorem length_skipToLineEnd_le (text : Chars) : (skipToLineEnd text).length ≤ text.length :=
  Nat.le_trans (length_skipComment_le _) (length_skipBlanks_le _)

/-- The text after blanks, comments and line ends. -/
def skipLines (text : Chars) : Chars :=
  match _next : lineEnd? (skipToLineEnd text) with
  | some rest => skipLines rest
  | none => skipToLineEnd text
termination_by text.length
decreasing_by
  have := length_of_lineEnd? _next
  have := length_skipToLineEnd_le text
  omega

theorem length_skipLines_le (text : Chars) : (skipLines text).length ≤ text.length := by
  fun_induction skipLines text with
  | case1 text rest next ih =>
    have := length_of_lineEnd? next
    have := length_skipToLineEnd_le text
    omega
  | case2 text _ => exact length_skipToLineEnd_le text

/-- The text after blanks, a comment and the line end that must follow; the end of the text counts
as one. -/
def finishLine? (text : Chars) : Option Chars :=
  match skipToLineEnd text with
  | [] => some []
  | rest => lineEnd? rest

theorem length_of_finishLine? {text rest : Chars} (h : finishLine? text = some rest) :
    rest.length ≤ text.length := by
  have shorter := length_skipToLineEnd_le text
  unfold finishLine? at h
  split at h
  · cases h; simp
  · have := length_of_lineEnd? h
    omega

end AccessStream.Toml
