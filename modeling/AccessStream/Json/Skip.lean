import AccessStream.Json.Items
import AccessStream.Json.Members

/-!
# Skipping JSON values

A value that nobody asks for is skipped: its grammar is checked, but not what a reader would make of
it, so that the halves of surrogate pairs need not match, numbers may have any size, and arrays and
objects may be nested to any depth. What is open around the place that has been reached is kept as a
list.
-/

namespace AccessStream.Json

namespace Skip

/-- The text after an escape whose backslash has been read. -/
def escape (input : Bytes) : Except Fault Bytes :=
  match input with
  | [] => .error .truncated
  | byte :: rest =>
    if byte = 0x75 then (Quoted.scanUnit rest).map (·.2)
    else if (Quoted.shortEscape? byte).isSome then .ok rest
    else .error .malformed

theorem length_of_escape {input rest : Bytes} (h : escape input = .ok rest) :
    rest.length < input.length := by
  unfold escape at h
  repeat' split at h
  · cases h
  · rename_i byte tail _
    cases found : Quoted.scanUnit tail with
    | error => simp [found, Except.map] at h
    | ok pair =>
      obtain ⟨unit, after⟩ := pair
      simp only [found, Except.map, Except.ok.injEq] at h
      have := Quoted.length_of_scanUnit found
      rw [← h, List.length_cons]
      omega
  · cases h; simp
  · cases h

/-- The text after a string whose opening quote has been read. -/
def string (input : Bytes) : Except Fault Bytes :=
  match input with
  | [] => .error .truncated
  | byte :: rest =>
    if byte = 0x22 then .ok rest
    else if byte = 0x5C then
      match _escape : escape rest with
      | .error fault => .error fault
      | .ok rest => string rest
    else if byte < 0x20 then .error .malformed
    else string rest
termination_by input.length
decreasing_by
  · exact Nat.lt_trans (length_of_escape _escape) (by simp)
  · simp

theorem length_of_string {input rest : Bytes} (h : string input = .ok rest) :
    rest.length < input.length := by
  fun_induction string input with
  | case1 => cases h
  | case2 => cases h; simp
  | case3 => cases h
  | case4 _ _ found _ ih =>
    have := length_of_escape found
    have := ih h
    simp only [List.length_cons]
    omega
  | case5 => cases h
  | case6 _ _ _ _ _ ih =>
    have := ih h
    simp only [List.length_cons]
    omega

/-- The text after the digits, fraction and exponent of a number. -/
def unsigned (input : Bytes) : Except Fault Bytes :=
  match Number.scanInteger input with
  | .error fault => .error fault
  | .ok (_, rest) =>
    match Number.scanFraction rest with
    | .error fault => .error fault
    | .ok (_, rest) =>
      match Number.scanExponent rest with
      | .error fault => .error fault
      | .ok (_, rest) => .ok rest

theorem length_of_unsigned {input rest : Bytes} (h : unsigned input = .ok rest) :
    rest.length < input.length := by
  unfold unsigned at h
  split at h
  · cases h
  rename_i integer
  split at h
  · cases h
  rename_i fraction
  split at h
  · cases h
  rename_i exponent
  cases h
  have := Number.length_of_scanInteger integer
  have := Number.length_of_scanFraction fraction
  have := Number.length_of_scanExponent exponent
  omega

/-- The text after a value that is neither array nor object and starts with the given byte. -/
def scalar (byte : UInt8) (rest : Bytes) : Except Fault Bytes :=
  if byte = 0x22 then string rest
  else if byte = 0x2D then unsigned rest
  else if Number.isDigit byte then unsigned (byte :: rest)
  else if byte = 0x6E then expectAll nullTail rest
  else if byte = 0x74 then expectAll trueTail rest
  else if byte = 0x66 then expectAll falseTail rest
  else .error .malformed

theorem length_of_scalar {byte : UInt8} {rest after : Bytes} (h : scalar byte rest = .ok after) :
    after.length ≤ rest.length := by
  unfold scalar at h
  repeat' split at h
  · exact Nat.le_of_lt (length_of_string h)
  · exact Nat.le_of_lt (length_of_unsigned h)
  · exact Nat.le_of_lt_succ (length_of_unsigned h)
  · exact length_of_expectAll h
  · exact length_of_expectAll h
  · exact length_of_expectAll h
  · cases h

/-- The text after a key whose opening quote has been read, and after its colon. -/
def key (input : Bytes) : Except Fault Bytes :=
  match string input with
  | .error fault => .error fault
  | .ok rest => expect 0x3A (skipBlanks rest)

theorem length_of_key {input rest : Bytes} (h : key input = .ok rest) :
    rest.length < input.length := by
  unfold key at h
  split at h
  · cases h
  rename_i after found
  have := length_of_string found
  have := length_of_expect h
  have := length_skipBlanks_le after
  omega

/-- What is open around a place in a text. -/
inductive Enclosure where
  /-- An array. -/
  | array
  /-- An object. -/
  | object
  deriving DecidableEq, Repr

/-- Where the reader stands after the first byte of a value: past a value, or before the first value
of an array or object that is open now. -/
inductive Entered where
  /-- Past a value. -/
  | past (rest : Bytes)
  /-- Before a value. -/
  | inside (enclosure : Enclosure) (rest : Bytes)

/-- The text that is left. -/
def Entered.rest : Entered → Bytes
  | past rest => rest
  | inside _ rest => rest

/-- Reads a value if it is neither array nor object, or empty; else goes into it. -/
def enter (input : Bytes) : Except Fault Entered :=
  match skipBlanks input with
  | [] => .error .truncated
  | byte :: rest =>
    if byte = 0x5B then
      match skipBlanks rest with
      | [] => .error .truncated
      | first :: after =>
        if first = 0x5D then .ok (.past after) else .ok (.inside .array (first :: after))
    else if byte = 0x7B then
      match skipBlanks rest with
      | [] => .error .truncated
      | first :: after =>
        if first = 0x7D then .ok (.past after)
        else if first = 0x22 then (key after).map (.inside .object)
        else .error .malformed
    else (scalar byte rest).map .past

theorem length_of_enter {input : Bytes} {entered : Entered} (h : enter input = .ok entered) :
    entered.rest.length < input.length := by
  have shorter := length_skipBlanks_le input
  unfold enter at h
  split at h
  · cases h
  rename_i byte rest blanks
  rw [blanks, List.length_cons] at shorter
  split at h
  · have inner := length_skipBlanks_le rest
    split at h
    · cases h
    rename_i first after further
    rw [further, List.length_cons] at inner
    split at h
    · cases h; simp only [Entered.rest]; omega
    · cases h; simp only [Entered.rest, List.length_cons]; omega
  split at h
  · have inner := length_skipBlanks_le rest
    split at h
    · cases h
    rename_i first after further
    rw [further, List.length_cons] at inner
    repeat' split at h
    · cases h; simp only [Entered.rest]; omega
    · cases found : key after with
      | error => simp [found, Except.map] at h
      | ok beyond =>
        have := length_of_key found
        simp only [found, Except.map, Except.ok.injEq] at h
        rw [← h]
        simp only [Entered.rest]
        omega
    · cases h
  · cases found : scalar byte rest with
    | error => simp [found, Except.map] at h
    | ok beyond =>
      have := length_of_scalar found
      simp only [found, Except.map, Except.ok.injEq] at h
      rw [← h]
      simp only [Entered.rest]
      omega

/-- What follows a value inside an array or object: whether there is a next value. -/
def leave (enclosure : Enclosure) (input : Bytes) : Except Fault (Bool × Bytes) :=
  match enclosure with
  | .array => scanComma input
  | .object =>
    match scanSeparator input with
    | .error fault => .error fault
    | .ok (false, rest) => .ok (false, rest)
    | .ok (true, rest) => (key rest).map (true, ·)

theorem length_of_leave {enclosure : Enclosure} {input rest : Bytes} {more : Bool}
    (h : leave enclosure input = .ok (more, rest)) : rest.length < input.length := by
  unfold leave at h
  split at h
  · exact length_of_scanComma h
  split at h
  · cases h
  · rename_i found
    cases h
    exact length_of_scanSeparator found
  · rename_i after separator
    have := length_of_scanSeparator separator
    cases found : key after with
    | error => simp [found, Except.map] at h
    | ok beyond =>
      have := length_of_key found
      simp only [found, Except.map, Except.ok.injEq, Prod.mk.injEq] at h
      rw [← h.2]
      omega

mutual

/-- The text after a value and after all that is open around it. -/
def value (enclosures : List Enclosure) (input : Bytes) : Except Fault Bytes :=
  match _enter : enter input with
  | .error fault => .error fault
  | .ok (.past rest) => close enclosures rest
  | .ok (.inside enclosure rest) => value (enclosure :: enclosures) rest
termination_by input.length
decreasing_by
  · exact length_of_enter _enter
  · exact length_of_enter _enter

/-- The text after all that is open around a place past a value. -/
def close (enclosures : List Enclosure) (input : Bytes) : Except Fault Bytes :=
  match enclosures with
  | [] => .ok input
  | enclosure :: outer =>
    match _leave : leave enclosure input with
    | .error fault => .error fault
    | .ok (false, rest) => close outer rest
    | .ok (true, rest) => value (enclosure :: outer) rest
termination_by input.length
decreasing_by
  · exact length_of_leave _leave
  · exact length_of_leave _leave

end

theorem length_of_value_and_close (size : Nat) :
    (∀ (enclosures : List Enclosure) (input rest : Bytes), input.length ≤ size →
      value enclosures input = .ok rest → rest.length < input.length) ∧
    ∀ (enclosures : List Enclosure) (input rest : Bytes), input.length ≤ size →
      close enclosures input = .ok rest → rest.length ≤ input.length := by
  induction size using Nat.strongRecOn with
  | _ size ih =>
    constructor
    · intro enclosures input rest bound h
      rw [value] at h
      split at h
      · cases h
      · rename_i after entered
        have shorter := length_of_enter entered
        simp only [Entered.rest] at shorter
        have := (ih after.length (by omega)).2 enclosures after rest (Nat.le_refl _) h
        omega
      · rename_i enclosure after entered
        have shorter := length_of_enter entered
        simp only [Entered.rest] at shorter
        have :=
          (ih after.length (by omega)).1 (enclosure :: enclosures) after rest (Nat.le_refl _) h
        omega
    · intro enclosures input rest bound h
      rw [close.eq_def] at h
      split at h
      · cases h; exact Nat.le_refl _
      rename_i enclosure outer
      split at h
      · cases h
      · rename_i after left
        have shorter := length_of_leave left
        have := (ih after.length (by omega)).2 outer after rest (Nat.le_refl _) h
        omega
      · rename_i after left
        have shorter := length_of_leave left
        have := (ih after.length (by omega)).1 (enclosure :: outer) after rest (Nat.le_refl _) h
        omega

end Skip

/-- Skips a value. -/
def Scanner.ignored : Scanner Unit where
  scan input := (Skip.value [] input).map ((), ·)
  shortens {input _ rest} h := by
    cases found : Skip.value [] input with
    | error => simp [found, Except.map] at h
    | ok after =>
      simp only [found, Except.map, Except.ok.injEq, Prod.mk.injEq] at h
      rw [← h.2]
      exact (Skip.length_of_value_and_close input.length).1 [] input after (Nat.le_refl _) found

end AccessStream.Json
