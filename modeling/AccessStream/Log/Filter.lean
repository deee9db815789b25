import AccessStream.Log.Directive

/-!
# Log filters

A filter says up to which level the entries of a target are logged. It is written as a list of
directives divided by commas. Of the directives that are meant for an entry the closest counts: the
one with the longest name of a target, then one with a field. A filter without directives lets
errors through.
-/

namespace AccessStream.Log

/-- A filter: those of its directives that count, in the order in which they were written. -/
structure Filter where
  /-- The directives. -/
  directives : List Directive
  deriving DecidableEq, Repr

namespace Filter

/-- Some words divided by commas, without the empty ones. -/
def words (text : List Char) : List (List Char) :=
  (text.foldr (fun c words =>
    match words with
    | [] => if c = ',' then [] else [[c]]
    | word :: rest => if c = ',' then [] :: word :: rest else (c :: word) :: rest) [[]]).filter
      (!·.isEmpty)

/-- The filter that a text says, or what is wrong with its first faulty word. -/
def read (text : String) : Except Directive.Fault Filter := do
  let found ← (words text.toList).mapM fun word => Directive.ofWord (String.ofList word)
  return ⟨if found.isEmpty then [{ rank := Level.error.rank }] else found.filterMap id⟩

/-- The directive that counts for the entries of a target that have some fields: of those meant for
them the closest, and of several the last. -/
def find? (filter : Filter) (target : String) (fields : List String) : Option Directive :=
  filter.directives.foldl
    (fun best directive =>
      if !directive.covers target fields then best
      else match best with
        | none => some directive
        | some other => if other.le directive then some directive else best)
    none

/-- Whether an entry of a level and a target with some fields is logged. -/
def allows (filter : Filter) (level : Level) (target : String) (fields : List String) : Bool :=
  match filter.find? target fields with
  | some directive => level.rank ≤ directive.rank
  | none => false

end Filter

end AccessStream.Log
