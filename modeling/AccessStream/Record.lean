import AccessStream.AttributeSet
import AccessStream.Decision
import AccessStream.Json.Members
import AccessStream.Json.Value
import AccessStream.Text.Blank

/-!
# Records

One record of the input is one line of bytes. A record of white space only asks nothing. Any other
record should be a JSON object whose values are strings, which gives an attribute set; of several
values under one key the last one counts. A record that is none of these is refused.
-/

namespace AccessStream

/-- Why a record gives no attribute set. -/
inductive RecordError where
  /-- The record is no JSON object of strings. -/
  | json (fault : Json.Fault) (record : Bytes)
  /-- The record is longer than the limit. -/
  | oversized (limit : Nat)
  deriving DecidableEq, Repr

namespace RecordError

/-- The short name of an error in diagnostics. -/
def kind : RecordError → String
  | json .malformed _ => "syntax"
  | json .mismatch _ => "type"
  | json .truncated _ => "eof"
  | oversized _ => "oversized"

/-- The description of an error. What is wrong with a record as a JSON text is told in the words of
the JSON reader, which are a function of the record. -/
def message (details : Bytes → String) : RecordError → String
  | json _ record => "invalid request record: " ++ details record
  | oversized limit => s!"request record exceeds {limit} bytes"

/-- The decision on a record that gives no attribute set, which is the same for every error. -/
def decision (_ : RecordError) : Decision := .unauthorized

end RecordError

namespace Record

/-- Whether a record is UTF-8 and holds nothing but white space. -/
def isBlank (record : Bytes) : Bool :=
  match Utf8.decode? record with
  | some text => Text.isBlank text
  | none => false

/-- The attribute set that a record holds; a blank record holds none. -/
def decode (record : Bytes) : Except RecordError (Option AttributeSet) :=
  if isBlank record then .ok none
  else match Json.readObject record with
    | .error fault => .error (.json fault record)
    | .ok members => .ok (some (AttributeSet.ofList members))

end Record

namespace AttributeSet

/-- An attribute set as a JSON object, its keys in ascending order. -/
def toJson (set : AttributeSet) : Json.Value :=
  .object (set.entries.map fun entry => (entry.1, .string entry.2))

/-- The text of an attribute set as a record. -/
def toRecord (set : AttributeSet) : String := set.toJson.toCompact

/-- The attribute set that a JSON document holds. -/
def ofJson? (document : Bytes) : Option AttributeSet :=
  (Json.readObject document).toOption.map ofList

/-- The attribute set that a JSON text holds. -/
def ofJsonText? (text : String) : Option AttributeSet := ofJson? (Utf8.encode text)

end AttributeSet

end AccessStream
