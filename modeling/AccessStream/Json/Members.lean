import AccessStream.Json.Scanner

/-!
# JSON objects

An object is read member by member. How a value is read may depend on its key. The members come in
the order in which they are written, repeated keys included.
-/

namespace AccessStream.Json

variable {α : Type}

/-- The member whose key's opening quote has been read. -/
def scanMember (value : String → Scanner α) (input : Bytes) :
    Except Fault ((String × α) × Bytes) :=
  match Quoted.scan input with
  | .error fault => .error fault
  | .ok (key, rest) =>
    match expect 0x3A (skipBlanks rest) with
    | .error fault => .error fault
    | .ok rest =>
      match (value key).scan (skipBlanks rest) with
      | .error fault => .error fault
      | .ok (value, rest) => .ok ((key, value), rest)

theorem length_of_scanMember {value : String → Scanner α} {input : Bytes} {member : String × α}
    {rest : Bytes} (h : scanMember value input = .ok (member, rest)) :
    rest.length < input.length := by
  unfold scanMember at h
  split at h
  · simp at h
  rename_i key afterKey atKey
  split at h
  · simp at h
  rename_i afterColon colon
  split at h
  · simp at h
  rename_i content
  simp only [Except.ok.injEq, Prod.mk.injEq] at h
  have := Quoted.length_of_scan atKey
  have := length_of_expect colon
  have := (value key).shortens content
  have := length_skipBlanks_le afterKey
  have := length_skipBlanks_le afterColon
  rw [← h.2]
  omega

/-- What follows a member: a comma and the opening quote of the next key, or the closing brace.
Tells whether there is a next member. -/
def scanSeparator (input : Bytes) : Except Fault (Bool × Bytes) :=
  match skipBlanks input with
  | [] => .error .truncated
  | byte :: rest =>
    if byte = 0x7D then .ok (false, rest)
    else if byte = 0x2C then (expect 0x22 (skipBlanks rest)).map fun rest => (true, rest)
    else .error .malformed

theorem length_of_scanSeparator {input : Bytes} {more : Bool} {rest : Bytes}
    (h : scanSeparator input = .ok (more, rest)) : rest.length < input.length := by
  have shorter := length_skipBlanks_le input
  unfold scanSeparator at h
  split at h
  · simp at h
  rename_i afterSeparator blanks
  rw [blanks, List.length_cons] at shorter
  split at h
  · simp only [Except.ok.injEq, Prod.mk.injEq] at h
    rw [← h.2]
    omega
  split at h
  · cases quote : expect 0x22 (skipBlanks afterSeparator) with
    | error => simp [quote, Except.map] at h
    | ok afterQuote =>
      simp only [quote, Except.map, Except.ok.injEq, Prod.mk.injEq] at h
      have := length_of_expect quote
      have := length_skipBlanks_le afterSeparator
      rw [← h.2]
      omega
  · simp at h

/-- The members of an object from the one whose key's opening quote has been read, and what follows
the closing brace. `found` are the members before it. -/
def scanMembers (value : String → Scanner α) (found : Array (String × α)) (input : Bytes) :
    Except Fault (Array (String × α) × Bytes) :=
  match _member : scanMember value input with
  | .error fault => .error fault
  | .ok (member, afterMember) =>
    match _next : scanSeparator afterMember with
    | .error fault => .error fault
    | .ok (false, rest) => .ok (found.push member, rest)
    | .ok (true, rest) => scanMembers value (found.push member) rest
termination_by input.length
decreasing_by
  have := length_of_scanMember _member
  have := length_of_scanSeparator _next
  omega

theorem length_of_scanMembers {value : String → Scanner α} {found members : Array (String × α)}
    {input rest : Bytes} (h : scanMembers value found input = .ok (members, rest)) :
    rest.length < input.length := by
  fun_induction scanMembers value found input with
  | case1 => cases h
  | case2 => cases h
  | case3 _ _ _ _ member _ next =>
    have := length_of_scanMember member
    have := length_of_scanSeparator next
    cases h
    omega
  | case4 _ _ _ _ member _ next ih =>
    have := length_of_scanMember member
    have := length_of_scanSeparator next
    have := ih h
    omega

/-- The members of an object whose opening brace has been read, and what follows the closing one. -/
def scanObject (value : String → Scanner α) (input : Bytes) :
    Except Fault (List (String × α) × Bytes) :=
  match skipBlanks input with
  | [] => .error .truncated
  | byte :: rest =>
    if byte = 0x7D then .ok ([], rest)
    else if byte = 0x22 then
      match scanMembers value #[] rest with
      | .error fault => .error fault
      | .ok (members, rest) => .ok (members.toList, rest)
    else .error .malformed

theorem length_of_scanObject {value : String → Scanner α} {input : Bytes}
    {members : List (String × α)} {rest : Bytes}
    (h : scanObject value input = .ok (members, rest)) :
    rest.length < input.length := by
  have shorter := length_skipBlanks_le input
  unfold scanObject at h
  split at h
  · simp at h
  rename_i after blanks
  rw [blanks, List.length_cons] at shorter
  repeat' split at h
  · simp only [Except.ok.injEq, Prod.mk.injEq] at h
    rw [← h.2]
    omega
  · cases h
  · rename_i found
    have := length_of_scanMembers found
    simp only [Except.ok.injEq, Prod.mk.injEq] at h
    rw [← h.2]
    omega
  · cases h

/-- Reads an object. -/
def Scanner.objectOf (value : String → Scanner α) : Scanner (List (String × α)) where
  scan input :=
    match input with
    | [] => .error .truncated
    | byte :: rest => if byte = 0x7B then scanObject value rest else .error (mismatchAt input)
  shortens {input _ _} h := by
    match input with
    | [] => simp at h
    | _ :: _ =>
      simp only at h
      split at h
      · exact Nat.lt_succ_of_lt (length_of_scanObject h)
      · simp at h

/-- The members of the object of strings that a text consists of, blanks around it aside. -/
def readObject (input : Bytes) : Except Fault (List (String × String)) :=
  (Scanner.objectOf fun _ => .string).readWhole input

end AccessStream.Json
