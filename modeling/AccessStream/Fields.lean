/-!
# Fields

The fields of a record by name, in the order in which they were written.
-/

namespace AccessStream

/-- The fields of a record. -/
abbrev Fields (α : Type) := List (String × α)

/-- What a field says, or a default if there is no such field. -/
def Fields.readOr {α β : Type} (fields : Fields α) (name : String) (default : β)
    (read : α → Option β) : Option β :=
  match fields.lookup name with
  | some value => read value
  | none => some default

/-- What a field says, which must be there. -/
def Fields.read? {α β : Type} (fields : Fields α) (name : String) (read : α → Option β) :
    Option β :=
  (fields.lookup name).bind read

end AccessStream
