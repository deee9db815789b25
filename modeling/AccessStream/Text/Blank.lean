/-!
# White space

A text is blank when it holds nothing but characters with the Unicode property `White_Space`. The
property is given by its ranges, of twenty-five characters in all; it is wider than the space, tab
and line ends of ASCII, and narrower than what some editors show as empty (a zero-width space is not
in it, nor is a byte order mark).
-/

namespace AccessStream.Text

/-- The ranges of characters with the property `White_Space`, ends included. -/
def spaceRanges : List (Char × Char) :=
  [('\t', '\r'), (' ', ' '), ('\u0085', '\u0085'), ('\u00A0', '\u00A0'), ('\u1680', '\u1680'),
    ('\u2000', '\u200A'), ('\u2028', '\u2029'), ('\u202F', '\u202F'), ('\u205F', '\u205F'),
    ('\u3000', '\u3000')]

/-- Whether a character has the property `White_Space`. -/
def isSpace (c : Char) : Bool := spaceRanges.any fun (low, high) => low ≤ c && c ≤ high

/-- Whether a text holds nothing but white space; the empty text does. -/
def isBlank (text : String) : Bool := text.toList.all isSpace

/-- A text without the white space at its end. -/
def trimEnd (text : String) : String :=
  String.ofList (text.toList.reverse.dropWhile isSpace).reverse

/-- A text without the white space at its start. -/
def trimStart (text : String) : String := String.ofList (text.toList.dropWhile isSpace)

example : (spaceRanges.map fun (low, high) => high.toNat - low.toNat + 1).sum = 25 := by decide

example : isBlank "\u2003\u3000\t" ∧ ¬ isBlank "\u200B" ∧ ¬ isBlank "\uFEFF" := by decide

end AccessStream.Text
