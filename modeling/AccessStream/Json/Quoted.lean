import AccessStream.Json.Fault
import AccessStream.Text.Utf8

/-!
# JSON strings

Reading works on bytes, because a record need not be UTF-8: `scan` takes the bytes after an opening
quote and undoes the escapes up to the closing quote, and only then must what it found be UTF-8. An
escape that stands for half of a surrogate pair is accepted only together with its other half.
Writing works on characters: `write` escapes the quote, the backslash and the control characters
below a space, and leaves every other character as it is.
-/

namespace AccessStream.Json

/-- The blank bytes of JSON: space, tab, line feed and carriage return. -/
def isBlank (byte : UInt8) : Bool :=
  byte = 0x20 || byte = 0x09 || byte = 0x0A || byte = 0x0D

/-- A text without the blanks at its start. -/
def skipBlanks (input : Bytes) : Bytes := input.dropWhile isBlank

theorem length_skipBlanks_le (input : Bytes) : (skipBlanks input).length ≤ input.length :=
  (List.dropWhile_sublist _).length_le

/-- The text after a byte that it must start with. -/
def expect (byte : UInt8) : Bytes → Except Fault Bytes
  | [] => .error .truncated
  | b :: rest => if b = byte then .ok rest else .error .malformed

theorem length_of_expect {byte : UInt8} {input rest : Bytes} (h : expect byte input = .ok rest) :
    rest.length < input.length := by
  unfold expect at h
  repeat' split at h
  all_goals simp at h
  subst h
  simp

namespace Quoted

/-- The value of a hexadecimal digit. -/
def hexDigit? (byte : UInt8) : Option Nat :=
  if 0x30 ≤ byte && byte ≤ 0x39 then some (byte.toNat - 0x30)
  else if 0x41 ≤ byte && byte ≤ 0x46 then some (byte.toNat - 0x41 + 10)
  else if 0x61 ≤ byte && byte ≤ 0x66 then some (byte.toNat - 0x61 + 10)
  else none

/-- The number that four hexadecimal digits write, and what follows them. -/
def scanUnit : Bytes → Except Fault (Nat × Bytes)
  | a :: b :: c :: d :: rest =>
    match hexDigit? a, hexDigit? b, hexDigit? c, hexDigit? d with
    | some a, some b, some c, some d => .ok (((a * 16 + b) * 16 + c) * 16 + d, rest)
    | _, _, _, _ => .error .malformed
  | _ => .error .truncated

/-- The first half of a surrogate pair. -/
def isLeading (unit : Nat) : Bool := 0xD800 ≤ unit && unit ≤ 0xDBFF

/-- The second half of a surrogate pair. -/
def isTrailing (unit : Nat) : Bool := 0xDC00 ≤ unit && unit ≤ 0xDFFF

/-- The character that a surrogate pair stands for. -/
def ofPair (leading trailing : Nat) : Char :=
  Char.ofNat (0x10000 + (leading - 0xD800) * 0x400 + (trailing - 0xDC00))

/-- What must follow the first half of a surrogate pair: an escape for the second half. -/
def scanTrailing (leading : Nat) (input : Bytes) : Except Fault (Char × Bytes) :=
  match expect 0x5C input with
  | .error fault => .error fault
  | .ok rest =>
    match expect 0x75 rest with
    | .error fault => .error fault
    | .ok rest =>
      match scanUnit rest with
      | .error fault => .error fault
      | .ok (unit, rest) =>
        if isTrailing unit then .ok (ofPair leading unit, rest) else .error .malformed

/-- The character that the digits after a backslash and a `u` stand for. -/
def scanUnicode (input : Bytes) : Except Fault (Char × Bytes) :=
  match scanUnit input with
  | .error fault => .error fault
  | .ok (unit, rest) =>
    if isTrailing unit then .error .malformed
    else if isLeading unit then scanTrailing unit rest
    else .ok (Char.ofNat unit, rest)

/-- The character that a single byte after a backslash stands for. -/
def shortEscape? (byte : UInt8) : Option Char :=
  if byte = 0x22 then some '"'
  else if byte = 0x5C then some '\\'
  else if byte = 0x2F then some '/'
  else if byte = 0x62 then some '\x08'
  else if byte = 0x66 then some '\x0C'
  else if byte = 0x6E then some '\n'
  else if byte = 0x72 then some '\r'
  else if byte = 0x74 then some '\t'
  else none

/-- The character that the escape after a backslash stands for. -/
def scanEscape : Bytes → Except Fault (Char × Bytes)
  | [] => .error .truncated
  | b :: rest =>
    if b = 0x75 then scanUnicode rest
    else match shortEscape? b with
      | some c => .ok (c, rest)
      | none => .error .malformed

theorem length_of_scanUnit {input : Bytes} {unit : Nat} {rest : Bytes}
    (h : scanUnit input = .ok (unit, rest)) : rest.length < input.length := by
  unfold scanUnit at h
  repeat' split at h
  all_goals simp at h
  obtain ⟨_, rfl⟩ := h
  simp only [List.length_cons]
  omega

theorem length_of_scanTrailing {leading : Nat} {input : Bytes} {c : Char} {rest : Bytes}
    (h : scanTrailing leading input = .ok (c, rest)) : rest.length < input.length := by
  unfold scanTrailing at h
  repeat' split at h
  all_goals simp at h
  rename_i backslash _ _ letter _ _ _ digits _
  obtain ⟨_, rfl⟩ := h
  have := length_of_expect backslash
  have := length_of_expect letter
  have := length_of_scanUnit digits
  omega

theorem length_of_scanUnicode {input : Bytes} {c : Char} {rest : Bytes}
    (h : scanUnicode input = .ok (c, rest)) : rest.length < input.length := by
  unfold scanUnicode at h
  repeat' split at h
  · cases h
  · cases h
  · rename_i found _ _
    exact Nat.lt_trans (length_of_scanTrailing h) (length_of_scanUnit found)
  · rename_i found _ _
    cases h
    exact length_of_scanUnit found

theorem length_of_scanEscape {input : Bytes} {c : Char} {rest : Bytes}
    (h : scanEscape input = .ok (c, rest)) : rest.length < input.length := by
  unfold scanEscape at h
  repeat' split at h
  · cases h
  · exact Nat.lt_trans (length_of_scanUnicode h) (by simp)
  · cases h; simp
  · cases h

/-- The content of a string up to its closing quote, with the escapes undone, and what follows the
quote. `found` is the content met so far. -/
def scanContent (found : Array UInt8) (input : Bytes) : Except Fault (Array UInt8 × Bytes) :=
  match input with
  | [] => .error .truncated
  | b :: rest =>
    if b = 0x22 then .ok (found, rest)
    else if b = 0x5C then
      match _h : scanEscape rest with
      | .error fault => .error fault
      | .ok (c, rest) => scanContent (found ++ String.utf8EncodeChar c) rest
    else if b < 0x20 then .error .malformed
    else scanContent (found.push b) rest
termination_by input.length
decreasing_by
  · exact Nat.lt_trans (length_of_scanEscape _h) (by simp)
  · simp

/-- The text of a string whose opening quote has been read, and what follows its closing quote. -/
def scan (input : Bytes) : Except Fault (String × Bytes) :=
  match scanContent #[] input with
  | .error fault => .error fault
  | .ok (content, rest) =>
    match Utf8.decode? content.toList with
    | some text => .ok (text, rest)
    | none => .error .malformed

theorem length_of_scanContent {found : Array UInt8} {input : Bytes} {content : Array UInt8}
    {rest : Bytes} (h : scanContent found input = .ok (content, rest)) :
    rest.length < input.length := by
  fun_induction scanContent found input with
  | case1 => cases h
  | case2 => cases h; simp
  | case3 => cases h
  | case4 _ _ _ _ escape _ ih =>
    have := length_of_scanEscape escape
    have := ih h
    simp only [List.length_cons]
    omega
  | case5 => cases h
  | case6 _ _ _ _ _ _ ih =>
    have := ih h
    simp only [List.length_cons]
    omega

theorem length_of_scan {input : Bytes} {text : String} {rest : Bytes}
    (h : scan input = .ok (text, rest)) : rest.length < input.length := by
  unfold scan at h
  split at h
  · cases h
  · rename_i found
    split at h
    · cases h
      exact length_of_scanContent found
    · cases h

/-- The digit of a number below sixteen; letters are small. -/
def hexChar (n : Nat) : Char := (Nat.digitChar n)

/-- The characters that are written by a backslash and one more character, each with that one. -/
def shortEscapes : List (Char × Char) :=
  [('"', '"'), ('\\', '\\'), ('\x08', 'b'), ('\x0C', 'f'), ('\n', 'n'), ('\r', 'r'), ('\t', 't')]

/-- The characters that write one character inside a string. -/
def writeChar (c : Char) : List Char :=
  match shortEscapes.lookup c with
  | some mark => ['\\', mark]
  | none =>
    if c < ' ' then ['\\', 'u', '0', '0', hexChar (c.toNat / 16), hexChar (c.toNat % 16)]
    else [c]

/-- A text between quotes. -/
def write (text : String) : List Char := '"' :: (text.toList.flatMap writeChar ++ ['"'])

end Quoted

end AccessStream.Json
