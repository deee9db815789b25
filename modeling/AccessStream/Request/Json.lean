import AccessStream.Json.Skip
import AccessStream.Request

/-!
# Requests in JSON

A request is read from an object whose fields are named like those of `Request`: each is a string or
`null`, a field that is missing counts as `null`, no field is repeated, and what other fields hold
is skipped. It is also read from an array of all five values in the order of the schema.
-/

namespace AccessStream.Request

/-- Reads the value of an attribute. -/
def valueScanner : Json.Scanner (Option String) := Json.Scanner.string.orNull

/-- Reads the value of the field with the given name: the attribute and its value, or nothing if the
field is none of a request. -/
def fieldScanner (name : String) : Json.Scanner (Option (Attribute × Option String)) :=
  match Attribute.ofFieldName? name with
  | some a => valueScanner.map fun value => some (a, value)
  | none => Json.Scanner.ignored.map fun _ => none

/-- The request with the given values; every other attribute is absent. -/
def ofValues (values : List (Attribute × Option String)) : Request :=
  values.foldl (fun request entry => request.put entry.1 entry.2) empty

/-- The request that a JSON text says. -/
def ofJsonText? (text : String) : Option Request :=
  match (Json.Scanner.objectOf fieldScanner).readWhole (Utf8.encode text) with
  | .ok members =>
    let values := members.filterMap (·.2)
    if (values.map (·.1)).Nodup then some (ofValues values) else none
  | .error _ =>
    match (Json.Scanner.arrayOf valueScanner).readWhole (Utf8.encode text) with
    | .ok values =>
      if values.length = Attribute.all.length then some (ofValues (Attribute.all.zip values))
      else none
    | .error _ => none

end AccessStream.Request
