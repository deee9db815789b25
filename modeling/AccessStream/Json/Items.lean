import AccessStream.Json.Scanner

/-!
# JSON arrays

An array is read item by item.
-/

namespace AccessStream.Json

variable {α : Type}

/-- What follows an item: a comma, or the closing bracket. Tells whether there is a next item. -/
def scanComma (input : Bytes) : Except Fault (Bool × Bytes) :=
  match skipBlanks input with
  | [] => .error .truncated
  | byte :: rest =>
    if byte = 0x5D then .ok (false, rest)
    else if byte = 0x2C then .ok (true, skipBlanks rest)
    else .error .malformed

theorem length_of_scanComma {input : Bytes} {more : Bool} {rest : Bytes}
    (h : scanComma input = .ok (more, rest)) : rest.length < input.length := by
  have shorter := length_skipBlanks_le input
  unfold scanComma at h
  split at h
  · simp at h
  rename_i after blanks
  rw [blanks, List.length_cons] at shorter
  repeat' split at h
  · simp only [Except.ok.injEq, Prod.mk.injEq] at h
    rw [← h.2]
    omega
  · have := length_skipBlanks_le after
    simp only [Except.ok.injEq, Prod.mk.injEq] at h
    rw [← h.2]
    omega
  · simp at h

/-- The items of an array from the one at the front of a text, and what follows the closing bracket.
`found` are the items before it. -/
def scanItems (item : Scanner α) (found : Array α) (input : Bytes) :
    Except Fault (Array α × Bytes) :=
  match _item : item.scan input with
  | .error fault => .error fault
  | .ok (value, afterItem) =>
    match _next : scanComma afterItem with
    | .error fault => .error fault
    | .ok (false, rest) => .ok (found.push value, rest)
    | .ok (true, rest) => scanItems item (found.push value) rest
termination_by input.length
decreasing_by
  have := item.shortens _item
  have := length_of_scanComma _next
  omega

theorem length_of_scanItems {item : Scanner α} {found items : Array α} {input rest : Bytes}
    (h : scanItems item found input = .ok (items, rest)) : rest.length < input.length := by
  fun_induction scanItems item found input with
  | case1 => cases h
  | case2 => cases h
  | case3 _ _ _ _ value _ next =>
    have := item.shortens value
    have := length_of_scanComma next
    cases h
    omega
  | case4 _ _ _ _ value _ next ih =>
    have := item.shortens value
    have := length_of_scanComma next
    have := ih h
    omega

/-- The items of an array whose opening bracket has been read, and what follows the closing one. -/
def scanArray (item : Scanner α) (input : Bytes) : Except Fault (List α × Bytes) :=
  match skipBlanks input with
  | [] => .error .truncated
  | byte :: rest =>
    if byte = 0x5D then .ok ([], rest)
    else match scanItems item #[] (byte :: rest) with
      | .error fault => .error fault
      | .ok (items, rest) => .ok (items.toList, rest)

theorem length_of_scanArray {item : Scanner α} {input : Bytes} {items : List α} {rest : Bytes}
    (h : scanArray item input = .ok (items, rest)) : rest.length < input.length := by
  have shorter := length_skipBlanks_le input
  unfold scanArray at h
  split at h
  · simp at h
  rename_i after blanks
  rw [blanks, List.length_cons] at shorter
  repeat' split at h
  · simp only [Except.ok.injEq, Prod.mk.injEq] at h
    rw [← h.2]
    omega
  · cases h
  · rename_i found
    have := length_of_scanItems found
    simp only [List.length_cons] at this
    simp only [Except.ok.injEq, Prod.mk.injEq] at h
    rw [← h.2]
    omega

/-- Reads an array. -/
def Scanner.arrayOf (item : Scanner α) : Scanner (List α) where
  scan input :=
    match input with
    | [] => .error .truncated
    | byte :: rest => if byte = 0x5B then scanArray item rest else .error (mismatchAt input)
  shortens {input _ _} h := by
    match input with
    | [] => simp at h
    | _ :: _ =>
      simp only at h
      split at h
      · exact Nat.lt_succ_of_lt (length_of_scanArray h)
      · simp at h

end AccessStream.Json
