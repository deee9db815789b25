/-!
# Parts of a text by bytes

A place in a text may be given as the number of bytes before it in UTF-8. A part between two such
places exists only if neither is inside a character.
-/

namespace AccessStream.Text

/-- The number of bytes of some characters. -/
def byteSize (text : List Char) : Nat := text.foldr (fun c size => c.utf8Size + size) 0

/-- The characters after a number of bytes. -/
def dropBytes? (count : Nat) (text : List Char) : Option (List Char) :=
  if count = 0 then some text
  else match text with
    | [] => none
    | c :: rest => if c.utf8Size ≤ count then dropBytes? (count - c.utf8Size) rest else none

/-- The characters that make up the first bytes, as many as given. -/
def takeBytes? (count : Nat) (text : List Char) : Option (List Char) :=
  if count = 0 then some []
  else match text with
    | [] => none
    | c :: rest =>
      if c.utf8Size ≤ count then (takeBytes? (count - c.utf8Size) rest).map (c :: ·) else none

/-- The characters between two places. -/
def cut? (start stop : Nat) (text : List Char) : Option (List Char) :=
  (dropBytes? start text).bind (takeBytes? (stop - start))

/-- Inside a character nothing can be cut. -/
example : cut? 1 3 ['é', 'a'] = none ∧ cut? 2 3 ['é', 'a'] = some ['a'] := by decide +kernel

end AccessStream.Text
