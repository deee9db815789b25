import AccessStream.Decimal.Number
import AccessStream.Log.Level
import AccessStream.Log.Pattern
import AccessStream.Text.Blank
import AccessStream.Text.Cut

/-!
# Directives of a log filter

A directive is a level for all targets, a target, or a target with its level. Brackets after the
target name a span, in which an entry must stand, and braces inside of them a field, which an entry
must have, with or without a value. Since no entry here stands in a span and no values are compared,
a directive with the name of a span or with a value never counts.

Blanks around a directive are passed over, but its parts are cut out of the word as it was written,
at the places that they have without the blanks. Blanks in front therefore move every part, and a
part that would start or end inside a character cannot be cut out.
-/

namespace AccessStream.Log

/-- What a filter does with some entries. -/
structure Directive where
  /-- What the names of the targets start with; without it all targets are meant. -/
  target : Option String := none
  /-- The field that the entries must have; without it any are meant. -/
  field : Option String := none
  /-- The rank of the last level that is logged; zero logs nothing. -/
  rank : Nat
  deriving DecidableEq, Repr

namespace Directive

/-- Why a word is no directive. -/
inductive Fault where
  /-- It is not well formed. -/
  | malformed
  /-- A part of it would start or end inside a character. -/
  | splitCharacter
  deriving DecidableEq, Repr

/-- Whether a directive may start with a character. -/
def isStart (c : Char) : Bool := c = '-' || c = ':' || c = '_' || Text.isAlphanumeric c

/-- The part of a word between two places. -/
def part (word : List Char) (start stop : Nat) : Except Fault (List Char) :=
  match Text.cut? start stop word with
  | some text => .ok text
  | none => .error .splitCharacter

/-- The rank of the level that the rest of a word from a place on names. Nothing stands for all
details. -/
def rankFrom (word : List Char) (start : Nat) : Except Fault Nat := do
  let text ← part word start (Text.byteSize word)
  if text.isEmpty then return Level.trace.rank
  match Level.rank? (String.ofList text) with
  | some rank => return rank
  | none => throw .malformed

/-- The rank that follows the closing bracket before a place: all details if nothing is left, or
that of a level after an equals sign. -/
def rankAfter (word : List Char) (place : Nat) : List Char → Except Fault Nat
  | [] => .ok Level.trace.rank
  | mark :: _ => if mark = '=' then rankFrom word (place + 1) else .error .malformed

/-- Whether a text can be the value of a field: a number or a pattern. -/
def isValue (text : List Char) : Bool :=
  (Binary64.ofText? text).isSome || Pattern.isWellFormed text

/-- The name of the field that braces hold, if no value is asked for. What follows a second equals
sign is passed over. -/
def fieldOf (text : List Char) : Except Fault (Option String) :=
  if text.isEmpty then .error .malformed
  else
    let name := text.takeWhile (· ≠ '=')
    match text.drop name.length with
    | [] => .ok (some (String.ofList name))
    | _ :: rest => if isValue (rest.takeWhile (· ≠ '=')) then .ok none else .error .malformed

/-- The directive of which the part up to an opening brace has been read; nothing if it never
counts. -/
def ofField (word : List Char) (target : Option String) (isSpanless : Bool) (start : Nat)
    (text : List Char) : Except Fault (Option Directive) := do
  let inner := text.takeWhile (· ≠ '}')
  let stop := start + Text.byteSize inner
  match text.drop inner.length with
  | [] => throw .malformed
  | _ :: rest =>
    let field ← fieldOf (← part word start stop)
    match rest with
    | [] => throw .malformed
    | mark :: rest =>
      if mark ≠ ']' then throw .malformed
      let rank ← rankAfter word (stop + 2) rest
      return if isSpanless then field.map fun name => { target, field := some name, rank } else none

/-- The directive of which the part up to an opening bracket has been read; nothing if it never
counts. -/
def ofSpan (word : List Char) (target : Option String) (start : Nat) (text : List Char) :
    Except Fault (Option Directive) := do
  let name := text.takeWhile fun c => c ≠ ']' && c ≠ '{'
  let stop := start + Text.byteSize name
  match text.drop name.length with
  | [] => throw .malformed
  | mark :: rest =>
    let span ← part word start stop
    if mark = ']' then
      let _ ← rankAfter word (stop + 1) rest
      return none
    ofField word target span.isEmpty (stop + 1) rest

/-- The directive that a word says; nothing if it never counts. -/
def ofWord (word : String) : Except Fault (Option Directive) := do
  let whole := word.toList
  let text := (Text.trimEnd (Text.trimStart word)).toList
  match text with
  | [] => throw .malformed
  | '[' :: rest => ofSpan whole none 1 rest
  | first :: _ =>
    if !isStart first then throw .malformed
    let name := text.takeWhile fun c => c ≠ '=' && c ≠ '['
    let size := Text.byteSize name
    match text.drop name.length with
    | [] =>
      return some (match Level.rank? word with
        | some rank => { rank }
        | none => { target := some word, rank := Level.trace.rank })
    | mark :: rest =>
      let target := some (String.ofList (← part whole 0 size))
      if mark = '=' then
        let rank ← rankFrom whole (size + 1)
        return some { target, rank }
      ofSpan whole target (size + 1) rest

/-- Whether a directive is meant for the entries of a target that have some fields. -/
def covers (directive : Directive) (target : String) (fields : List String) : Bool :=
  (directive.target.all fun name => name.toList.isPrefixOf target.toList) &&
    directive.field.all (· ∈ fields)

/-- How closely a directive says which targets it is meant for. -/
def weight (directive : Directive) : Nat :=
  match directive.target with
  | some target => target.utf8ByteSize + 1
  | none => 0

/-- Whether the field of a directive counts less than that of another, or as much: none counts less
than any, and of two the one that comes first in the order of characters. -/
def fieldLe (directive other : Directive) : Bool :=
  match directive.field, other.field with
  | none, _ => true
  | some _, none => false
  | some name, some otherName => name ≤ otherName

/-- Whether a directive says less closely than another what it is meant for, or as closely. -/
def le (directive other : Directive) : Bool :=
  directive.weight < other.weight || (directive.weight = other.weight && directive.fieldLe other)

end Directive

end AccessStream.Log
