import AccessStream.Settings.Raw

/-!
# Places in settings

A key leads to a place by steps: a name, then names after points and indices in brackets. An index
below zero counts from the end of a list. What is in the way gives way: a step to a name makes a
table of what is no table, and a step to an index makes a list of what is no list, which grows until
it has the index, at its end or, for an index below zero, at its front.
-/

namespace AccessStream.Settings

/-- One step to a place inside a value. -/
inductive Step where
  /-- To the entry of a name. -/
  | name (name : String)
  /-- To the item at an index, from the end if it is below zero. -/
  | index (index : Int)
  deriving DecidableEq, Repr

namespace Step

/-- A character of a name in a key with several steps. -/
def isKeyChar (c : Char) : Bool := c.isAlphanum || c = '_' || c = '-'

/-- A blank beside an index. -/
def isBlank (c : Char) : Bool := c = ' ' || c = '\t'

/-- A text without the blanks around it. -/
def trim (text : List Char) : List Char :=
  ((text.dropWhile isBlank).reverse.dropWhile isBlank).reverse

/-- The index of at most 64 bits that a text between brackets says. -/
def index? (text : List Char) : Option Int :=
  let index := match trim text with
    | '-' :: digits => (Decimal.natural? digits).map fun size => -(size : Int)
    | digits => (Decimal.natural? digits).map Int.ofNat
  index.filter fun index => -Nat.pow 2 63 ≤ index && index < Nat.pow 2 63

/-- The steps that a key says after its first name: names after points, and indices in brackets. -/
def read? (key : List Char) : Option (List Step) :=
  match key with
  | [] => some []
  | '.' :: rest =>
    let name := rest.takeWhile isKeyChar
    if name.isEmpty then none
    else (read? (rest.dropWhile isKeyChar)).map (.name (String.ofList name) :: ·)
  | '[' :: rest =>
    match _close : rest.dropWhile (· ≠ ']') with
    | [] => none
    | _ :: after =>
      match index? (rest.takeWhile (· ≠ ']')), read? after with
      | some place, some steps => some (.index place :: steps)
      | _, _ => none
  | _ => none
termination_by key.length
decreasing_by
  · exact Nat.lt_succ_of_le (List.dropWhile_sublist _).length_le
  · have shorter := (List.dropWhile_sublist (l := rest) (· ≠ ']')).length_le
    rw [_close] at shorter
    simp only [List.length_cons] at *
    omega

end Step

namespace Raw

/-- Some items, to which as many empty ones are added as an index calls for, and where the index
leads to among them. -/
def reach (items : List Raw) : Int → List Raw × Nat
  | .ofNat index => (items ++ List.replicate (index + 1 - items.length) .null, index)
  | .negSucc index =>
    (List.replicate (index + 1 - items.length) .null ++ items, items.length - (index + 1))

/-- A value with a change to what one step leads to. -/
def changeAt (target : Raw) (change : Raw → Raw) : Step → Raw
  | .name name =>
    .table (replace target.entries name (change ((target.entries.lookup name).getD .null)))
  | .index index =>
    let (items, place) := reach target.items index
    .list (items.modify place change)

/-- A value with another laid over the place that some steps lead to. -/
def layAt (target value : Raw) : List Step → Raw
  | [] => target.lay value
  | step :: steps => target.changeAt (fun inner => inner.layAt value steps) step

/-- A value with another laid over the place that a key says. A key that is not made of steps is a
name. -/
def layKey (target : Raw) (key : String) (value : Raw) : Raw :=
  let first := key.toList.takeWhile Step.isKeyChar
  match first, Step.read? (key.toList.dropWhile Step.isKeyChar) with
  | _ :: _, some steps => target.layAt value (.name (String.ofList first) :: steps)
  | _, _ => target.layAt value [.name key]

/-- A value with a layer of keys and values laid over it. -/
def layLayer (target : Raw) (layer : Fields Raw) : Raw :=
  layer.foldl (fun target entry => target.layKey entry.1 entry.2) target

end Raw

end AccessStream.Settings
