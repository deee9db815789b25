import AccessStream.Text.Utf8

/-!
# Frames

The input is cut into records at its line feeds. A record arrives in pieces, and no more of it is
kept than the limit allows: a `Draft` collects the pieces of one record, and once they are longer
than the limit it keeps only whether all of them were blank. The `Frame` of a record is what is left
of it at its end.
-/

namespace AccessStream

/-- The byte that ends a record. -/
def lineFeed : UInt8 := 0x0A

/-- What is known of a record that was read to its end. -/
inductive Frame where
  /-- The record fits the limit. -/
  | complete (record : Bytes)
  /-- The record is longer than the limit; all that is known is whether it holds only blanks. -/
  | oversized (blank : Bool)
  deriving DecidableEq, Repr

/-- A blank byte: a space, tab, line feed, form feed or carriage return. -/
def Frame.isBlankByte (byte : UInt8) : Bool :=
  byte = 0x20 || byte = 0x09 || byte = 0x0A || byte = 0x0C || byte = 0x0D

/-- What is known of a record while its pieces arrive. -/
structure Draft where
  /-- The bytes so far, unless the record is oversized. -/
  kept : Array UInt8 := #[]
  /-- Whether there was a piece. -/
  started : Bool := false
  /-- Whether the pieces are longer than the limit. -/
  oversized : Bool := false
  /-- Whether all bytes so far were blank. -/
  blank : Bool := true
  deriving DecidableEq, Repr

namespace Draft

/-- The draft of a record of which nothing has arrived. -/
def empty : Draft := {}

/-- A draft after one more piece of its record. -/
def absorb (limit : Nat) (draft : Draft) (piece : Bytes) : Draft :=
  let oversized := draft.oversized || limit < draft.kept.size + piece.length
  { kept := if oversized then #[] else draft.kept ++ piece
    started := true
    oversized
    blank := draft.blank && piece.all Frame.isBlankByte }

/-- The frame of a record whose last piece has arrived. -/
def frame (draft : Draft) : Frame :=
  if draft.oversized then .oversized draft.blank else .complete draft.kept.toList

end Draft

/-- A piece of the input up to its first line feed, and what follows that if there is one. -/
def splitLine (piece : Bytes) : Bytes × Option Bytes :=
  match piece.dropWhile (· != lineFeed) with
  | [] => (piece, none)
  | _ :: after => (piece.takeWhile (· != lineFeed), some after)

theorem splitLine_some {piece line after : Bytes} (h : splitLine piece = (line, some after)) :
    piece = line ++ lineFeed :: after := by
  have whole := List.takeWhile_append_dropWhile (p := (· != lineFeed)) (l := piece)
  have first := List.head?_dropWhile_not (· != lineFeed) piece
  unfold splitLine at h
  split at h
  · simp at h
  · rename_i head tail rest
    obtain ⟨rfl, rfl⟩ : _ ∧ tail = after := by simpa using h
    rw [rest] at whole first
    have head_eq : head = lineFeed := by simpa using first
    rw [head_eq] at whole
    exact whole.symm

theorem splitLine_none {piece line : Bytes} (h : splitLine piece = (line, none)) :
    piece = line := by
  unfold splitLine at h
  split at h
  · simpa using h
  · simp at h

end AccessStream
