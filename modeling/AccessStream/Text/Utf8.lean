/-!
# Bytes and text

Records arrive as bytes; keys, values and names are texts. `encode` is the UTF-8 form of a text and
`decode?` reads it back: it answers exactly on the byte sequences that `encode` produces
(`decode?_eq_some_iff`). `decodeLossy` reads any bytes, putting U+FFFD in the place of each part
that is not well formed.
-/

namespace AccessStream

/-- A sequence of bytes, such as a record or the contents of a file. -/
abbrev Bytes := List UInt8

namespace Utf8

/-- The UTF-8 form of a text. -/
def encode (text : String) : Bytes := text.toByteArray.data.toList

/-- The text whose UTF-8 form is the given bytes, if they are well formed. -/
def decode? (bytes : Bytes) : Option String := String.fromUTF8? ⟨bytes.toArray⟩

@[simp] theorem decode?_encode (text : String) : decode? (encode text) = some text := by
  simp only [decode?, encode, String.fromUTF8?, Array.toArray_toList]
  exact dif_pos text.isValidUTF8

/-- Reading answers exactly on the UTF-8 forms of texts. -/
theorem decode?_eq_some_iff {bytes : Bytes} {text : String} :
    decode? bytes = some text ↔ bytes = encode text := by
  constructor
  · intro h
    simp only [decode?, String.fromUTF8?] at h
    split at h
    · cases h
      simp [encode, String.fromUTF8]
    · cases h
  · rintro rfl
    exact decode?_encode text

/-- The UTF-8 form of a text is that of its characters, one after the other. -/
theorem encode_eq_flatMap (text : String) :
    encode text = text.toList.flatMap String.utf8EncodeChar := by
  rw [encode, ← String.utf8Encode_toList]
  simp [List.utf8Encode]

/-- How many bytes at the front of a sequence belong together, and whether they are a character. -/
structure Piece where
  /-- The number of bytes, at least one. -/
  size : Nat
  /-- Whether the bytes are the UTF-8 form of a character. -/
  wellFormed : Bool
  size_pos : 0 < size := by decide

/-- A continuation byte: `10xxxxxx`. -/
def isContinuation (byte : UInt8) : Bool := 0x80 ≤ byte && byte ≤ 0xBF

/-- The number of bytes that a first byte announces and the range of the byte after it, which is
what rules out overlong forms, surrogates and numbers past U+10FFFF. -/
def announced? (first : UInt8) : Option (Nat × UInt8 × UInt8) :=
  if 0xC2 ≤ first && first ≤ 0xDF then some (2, 0x80, 0xBF)
  else if first = 0xE0 then some (3, 0xA0, 0xBF)
  else if first = 0xED then some (3, 0x80, 0x9F)
  else if 0xE1 ≤ first && first ≤ 0xEF then some (3, 0x80, 0xBF)
  else if first = 0xF0 then some (4, 0x90, 0xBF)
  else if 0xF1 ≤ first && first ≤ 0xF3 then some (4, 0x80, 0xBF)
  else if first = 0xF4 then some (4, 0x80, 0x8F)
  else none

/-- The piece at the front of `first :: rest`: a whole character, or the longest start of one. -/
def firstPiece (first : UInt8) (rest : Bytes) : Piece :=
  if first < 0x80 then ⟨1, true, by decide⟩
  else match announced? first with
    | none => ⟨1, false, by decide⟩
    | some (size, low, high) =>
      match rest with
      | second :: more =>
        if low ≤ second && second ≤ high then
          let found := 2 + ((more.take (size - 2)).takeWhile isContinuation).length
          ⟨found, found == size, by simp only [found]; omega⟩
        else ⟨1, false, by decide⟩
      | [] => ⟨1, false, by decide⟩

/-- The well-formed characters of a byte sequence, with U+FFFD for each piece that is none. -/
def decodeLossyChars (bytes : Bytes) : List Char :=
  match bytes with
  | [] => []
  | first :: rest =>
    let piece := firstPiece first rest
    let taken := (first :: rest).take piece.size
    let chars := if piece.wellFormed then ((decode? taken).getD "\uFFFD").toList else ['\uFFFD']
    chars ++ decodeLossyChars ((first :: rest).drop piece.size)
termination_by bytes.length
decreasing_by
  have := (firstPiece first rest).size_pos
  simp only [List.length_drop, List.length_cons]
  omega

/-- The text of any bytes: each part that is not well formed reads as U+FFFD. -/
def decodeLossy (bytes : Bytes) : String :=
  (decode? bytes).getD (String.ofList (decodeLossyChars bytes))

theorem decodeLossy_encode (text : String) : decodeLossy (encode text) = text := by
  simp [decodeLossy]

end Utf8

end AccessStream
