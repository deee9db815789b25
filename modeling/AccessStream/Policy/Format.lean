import AccessStream.Policy.Json
import AccessStream.Policy.Toml
import AccessStream.Policy.Validation

/-!
# Formats of policies

A policy is kept as TOML or JSON text. `Policy.parse` reads a text and accepts only policies without
a flaw, and `Policy.format` writes a policy in a form that reads back.
-/

namespace AccessStream

/-- A format of policy texts. -/
inductive PolicyFormat where
  /-- TOML. -/
  | toml
  /-- JSON. -/
  | json
  deriving DecidableEq, Repr

namespace PolicyFormat

/-- The name of a format, which is also the extension of its files. -/
def name : PolicyFormat → String
  | toml => "toml"
  | json => "json"

/-- The format with the given name. -/
def ofName? (name : String) : Option PolicyFormat := [toml, json].find? (·.name == name)

end PolicyFormat

/-- Why a policy text or file gives no policy. -/
inductive PolicyError where
  /-- The file cannot be read as text. -/
  | unreadable
  /-- The name of the file tells no known format. -/
  | unsupported (path : String)
  /-- The text is no policy document. -/
  | malformed (format : PolicyFormat)
  /-- The policy is not well formed. -/
  | flawed (flaw : Policy.Flaw)
  deriving DecidableEq, Repr

/-- The description of a file whose name tells no known format. -/
def PolicyError.unsupportedMessage (path : String) : String :=
  s!"unsupported policy file extension for {path} (expected .toml or .json)"

namespace Policy

/-- The policy that a text says, well formed or not. -/
def ofText? : PolicyFormat → String → Option Policy
  | .toml, text => ofTomlText? text
  | .json, text => ofJsonText? text

/-- The well-formed policy that a text says. -/
def parse (format : PolicyFormat) (text : String) : Except PolicyError Policy :=
  match ofText? format text with
  | none => .error (.malformed format)
  | some policy =>
    match policy.flaw? with
    | some flaw => .error (.flawed flaw)
    | none => .ok policy

/-- The text of a policy. -/
def format : PolicyFormat → Policy → String
  | .toml, policy => policy.toTomlText
  | .json, policy => policy.toJsonText

end Policy

end AccessStream
