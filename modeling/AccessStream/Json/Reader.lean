import AccessStream.Json.Items
import AccessStream.Json.Members
import AccessStream.Json.Value

/-!
# Reading JSON documents

A document is read as a tree. Arrays and objects may be nested up to a limit, so that no text can
make the reader nest without bound.
-/

namespace AccessStream.Json

namespace Value

/-- The greatest number of arrays and objects that may be nested. -/
def maxDepth : Nat := 127

/-- A word that stands for a value, after its first letter. -/
def scanWord (tail : Bytes) (value : Value) (input : Bytes) : Except Fault (Value × Bytes) :=
  match expectAll tail input with
  | .error fault => .error fault
  | .ok rest => .ok (value, rest)

theorem length_of_scanWord {tail : Bytes} {value found : Value} {input rest : Bytes}
    (h : scanWord tail value input = .ok (found, rest)) : rest.length ≤ input.length := by
  unfold scanWord at h
  split at h
  · cases h
  · rename_i word
    have := length_of_expectAll word
    simp only [Except.ok.injEq, Prod.mk.injEq] at h
    rw [← h.2]
    exact this

/-- A value that is neither array nor object and starts with the given byte. -/
def scanScalar (byte : UInt8) (rest : Bytes) : Except Fault (Value × Bytes) :=
  if byte = 0x22 then (Quoted.scan rest).map fun (text, rest) => (.string text, rest)
  else if byte = 0x2D || Number.isDigit byte then
    (Number.scan (byte :: rest)).map fun (found, rest) => (.number found, rest)
  else if byte = 0x6E then scanWord nullTail .null rest
  else if byte = 0x74 then scanWord trueTail (.bool true) rest
  else if byte = 0x66 then scanWord falseTail (.bool false) rest
  else .error .malformed

theorem length_of_map {α β : Type} {found : Except Fault (α × Bytes)} {f : α → β} {value : β}
    {rest : Bytes} (h : (found.map fun (a, rest) => (f a, rest)) = .ok (value, rest)) :
    ∃ a, found = .ok (a, rest) := by
  cases found with
  | error => cases h
  | ok pair =>
    simp only [Except.map, Except.ok.injEq, Prod.mk.injEq] at h
    exact ⟨pair.1, by rw [← h.2]⟩

theorem length_of_scanScalar {byte : UInt8} {rest after : Bytes} {value : Value}
    (h : scanScalar byte rest = .ok (value, after)) : after.length < (byte :: rest).length := by
  unfold scanScalar at h
  simp only [List.length_cons]
  repeat' split at h
  · obtain ⟨text, found⟩ := length_of_map h
    have := Quoted.length_of_scan found
    omega
  · obtain ⟨number, found⟩ := length_of_map h
    exact Number.length_of_scan found
  · exact Nat.lt_succ_of_le (length_of_scanWord h)
  · exact Nat.lt_succ_of_le (length_of_scanWord h)
  · exact Nat.lt_succ_of_le (length_of_scanWord h)
  · cases h

/-- Reads a value that is neither array nor object. -/
def scalar : Scanner Value where
  scan
    | [] => .error .truncated
    | byte :: rest => scanScalar byte rest
  shortens {input _ _} h := by
    match input with
    | [] => cases h
    | _ :: _ => exact length_of_scanScalar h

/-- Reads a value whose items or members, if it has any, are read by another scanner. -/
def nesting (inner : Scanner Value) : Scanner Value where
  scan
    | [] => .error .truncated
    | byte :: rest =>
      if byte = 0x5B then (scanArray inner rest).map fun (items, rest) => (.array items, rest)
      else if byte = 0x7B then
        (scanObject (fun _ => inner) rest).map fun (members, rest) => (.object members, rest)
      else scanScalar byte rest
  shortens {input _ _} h := by
    match input with
    | [] => cases h
    | _ :: _ =>
      simp only at h
      split at h
      · obtain ⟨items, found⟩ := length_of_map h
        exact Nat.lt_succ_of_lt (length_of_scanArray found)
      split at h
      · obtain ⟨members, found⟩ := length_of_map h
        exact Nat.lt_succ_of_lt (length_of_scanObject found)
      · exact length_of_scanScalar h

/-- Reads a value in which at most the given number of arrays and objects are nested. -/
def scanner : Nat → Scanner Value
  | 0 => scalar
  | depth + 1 => nesting (scanner depth)

/-- The document that a text consists of, blanks around it aside. -/
def read (text : String) : Except Fault Value := (scanner maxDepth).readWhole (Utf8.encode text)

end Value

end AccessStream.Json
