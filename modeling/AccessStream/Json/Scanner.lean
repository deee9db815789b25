import AccessStream.Json.Number

/-!
# Scanners

A scanner reads a value at the front of a text and leaves what follows it. What it reads is never
empty, which is what bounds the loops over the items of an array and the members of an object.
-/

namespace AccessStream.Json

/-- A way to read a value at the front of a text. -/
structure Scanner (α : Type) where
  /-- The value at the front of a text, and what follows it. -/
  scan : Bytes → Except Fault (α × Bytes)
  /-- Something is read. -/
  shortens : ∀ {input : Bytes} {value : α} {rest : Bytes},
    scan input = .ok (value, rest) → rest.length < input.length

/-- The text after a sequence of bytes that it must start with. -/
def expectAll : Bytes → Bytes → Except Fault Bytes
  | [], input => .ok input
  | byte :: bytes, input =>
    match expect byte input with
    | .error fault => .error fault
    | .ok rest => expectAll bytes rest

theorem length_of_expectAll {bytes input rest : Bytes} (h : expectAll bytes input = .ok rest) :
    rest.length ≤ input.length := by
  fun_induction expectAll bytes input with
  | case1 => cases h; exact Nat.le_refl _
  | case2 => cases h
  | case3 _ _ _ _ found ih => exact Nat.le_trans (ih h) (Nat.le_of_lt (length_of_expect found))

/-- The bytes of the word `null` after its first letter. -/
def nullTail : Bytes := [0x75, 0x6C, 0x6C]

/-- The bytes of the word `true` after its first letter. -/
def trueTail : Bytes := [0x72, 0x75, 0x65]

/-- The bytes of the word `false` after its first letter. -/
def falseTail : Bytes := [0x61, 0x6C, 0x73, 0x65]

/-- The fault of a value that has another type than the one asked for. A number, a string or a word
is read to its end first. -/
def mismatchAt (input : Bytes) : Fault :=
  let complete {α : Type} : Except Fault α → Fault
    | .error fault => fault
    | .ok _ => .mismatch
  match input with
  | [] => .truncated
  | byte :: rest =>
    if byte = 0x7B || byte = 0x5B then .mismatch
    else if byte = 0x22 then complete (Quoted.scan rest)
    else if byte = 0x2D || Number.isDigit byte then complete (Number.scan input)
    else if byte = 0x6E then complete (expectAll nullTail rest)
    else if byte = 0x74 then complete (expectAll trueTail rest)
    else if byte = 0x66 then complete (expectAll falseTail rest)
    else .malformed

/-- The string at the front of a text. -/
def scanString (input : Bytes) : Except Fault (String × Bytes) :=
  match input with
  | [] => .error .truncated
  | byte :: rest => if byte = 0x22 then Quoted.scan rest else .error (mismatchAt input)

theorem length_of_scanString {input : Bytes} {text : String} {rest : Bytes}
    (h : scanString input = .ok (text, rest)) : rest.length < input.length := by
  unfold scanString at h
  repeat' split at h
  · simp at h
  · have := Quoted.length_of_scan h
    simp only [List.length_cons]
    omega
  · simp at h

namespace Scanner

/-- Reads a string. -/
def string : Scanner String := ⟨scanString, length_of_scanString⟩

/-- Reads a value and changes what it means. -/
def map {α β : Type} (f : α → β) (scanner : Scanner α) : Scanner β where
  scan input := (scanner.scan input).map fun (value, rest) => (f value, rest)
  shortens {input _ rest} h := by
    cases found : scanner.scan input with
    | error => simp [found, Except.map] at h
    | ok pair =>
      obtain ⟨value, after⟩ := pair
      simp only [found, Except.map, Except.ok.injEq, Prod.mk.injEq] at h
      rw [← h.2]
      exact scanner.shortens found

/-- Reads the word `null`, or else what another scanner reads. -/
def orNull {α : Type} (scanner : Scanner α) : Scanner (Option α) where
  scan input :=
    match input with
    | [] => .error .truncated
    | byte :: rest =>
      if byte = 0x6E then (expectAll nullTail rest).map (none, ·)
      else (scanner.map some).scan input
  shortens {input _ rest} h := by
    match input with
    | [] => cases h
    | byte :: tail =>
      simp only at h
      split at h
      · cases found : expectAll nullTail tail with
        | error => simp [found, Except.map] at h
        | ok after =>
          have := length_of_expectAll found
          simp only [found, Except.map, Except.ok.injEq, Prod.mk.injEq] at h
          rw [← h.2, List.length_cons]
          omega
      · exact (scanner.map some).shortens h

/-- What a text consists of, blanks around it aside. -/
def readWhole {α : Type} (scanner : Scanner α) (input : Bytes) : Except Fault α :=
  match scanner.scan (skipBlanks input) with
  | .error fault => .error fault
  | .ok (value, rest) => if (skipBlanks rest).isEmpty then .ok value else .error .malformed

end Scanner

end AccessStream.Json
