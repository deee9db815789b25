import AccessStream.Toml.Quoted

/-!
# TOML keys

A key names a place by the path of names that lead to it, joined by points. A name stands bare, if
it is made of letters, digits, underscores and hyphens, or between quotes on one line.
-/

namespace AccessStream.Toml.Key

/-- A character of a bare name. -/
def isBare (c : Char) : Bool := c.isAlphanum || c = '_' || c = '-'

/-- The greatest number of names in a key. -/
def maxLength : Nat := 80

/-- The name at the front of a text. -/
def name? (text : Chars) : Option (String × Chars) :=
  match Quoted.scanLine? text with
  | some found => some found
  | none =>
    let bare := text.takeWhile isBare
    if bare.isEmpty then none else some (String.ofList bare, text.dropWhile isBare)

theorem length_of_name? {text rest : Chars} {name : String} (h : name? text = some (name, rest)) :
    rest.length < text.length := by
  unfold name? at h
  split at h
  · rename_i found quoted
    cases h
    exact Quoted.length_of_scanLine? quoted
  · simp only at h
    split at h
    · cases h
    · rename_i nonempty
      have whole := congrArg List.length
        (List.takeWhile_append_dropWhile (p := isBare) (l := text))
      simp only [Option.some.injEq, Prod.mk.injEq] at h
      have := List.length_pos_iff.2 (mt List.isEmpty_iff.2 nonempty)
      rw [List.length_append] at whole
      rw [← h.2]
      omega

/-- The rest of a text after a point and the blanks around it, if it has one. -/
def point? (text : Chars) : Option Chars :=
  match skipBlanks text with
  | '.' :: rest => some (skipBlanks rest)
  | _ => none

theorem length_of_point? {text rest : Chars} (h : point? text = some rest) :
    rest.length < text.length := by
  have shorter := length_skipBlanks_le text
  unfold point? at h
  split at h
  · rename_i after blanks
    have := length_skipBlanks_le after
    rw [blanks, List.length_cons] at shorter
    cases h
    omega
  · cases h

/-- The names of a key after those found so far, the last one first, and what follows the key. -/
def namesAfter? (found : List String) (text : Chars) : Option (List String × Chars) :=
  match _name : name? text with
  | none => none
  | some (name, rest) =>
    match _point : point? rest with
    | some rest => namesAfter? (name :: found) rest
    | none => some ((name :: found).reverse, rest)
termination_by text.length
decreasing_by
  have := length_of_name? _name
  have := length_of_point? _point
  omega

theorem length_of_namesAfter? {found names : List String} {text rest : Chars}
    (h : namesAfter? found text = some (names, rest)) : rest.length < text.length := by
  fun_induction namesAfter? found text with
  | case1 => cases h
  | case2 _ _ _ _ name _ point ih =>
    have := length_of_name? name
    have := length_of_point? point
    have := ih h
    omega
  | case3 _ _ _ _ name _ =>
    have := length_of_name? name
    cases h
    exact this

/-- The key at the front of a text. -/
def scan? (text : Chars) : Option (List String × Chars) :=
  match namesAfter? [] text with
  | some (names, rest) => if names.length ≤ maxLength then some (names, rest) else none
  | none => none

theorem length_of_scan? {text rest : Chars} {names : List String}
    (h : scan? text = some (names, rest)) : rest.length < text.length := by
  unfold scan? at h
  split at h
  · rename_i found
    split at h
    · cases h
      exact length_of_namesAfter? found
    · cases h
  · cases h

end AccessStream.Toml.Key
