/-!
# Paths

A path is a text whose parts are divided by slashes; it is absolute if it starts with one. Empty
parts count for nothing, and neither do parts that are a single point, unless the path starts with
it. Paths are joined and taken apart as texts: nothing is looked up, and steps back are not
resolved.
-/

namespace AccessStream.Path

/-- Whether a path starts at the root. -/
def isAbsolute (path : String) : Bool := path.toList.head? == some '/'

/-- A path as the start of a longer one: it ends with a slash, unless it is empty. -/
def asBase (path : List Char) : List Char :=
  match path.getLast? with
  | none => path
  | some last => if last = '/' then path else path ++ ['/']

/-- A path as seen from a base; an absolute path does not depend on the base. -/
def join (base path : String) : String :=
  if isAbsolute path then path else String.ofList (asBase base.toList ++ path.toList)

/-- The parts of a path, empty ones included. -/
def segments : List Char → List (List Char)
  | [] => [[]]
  | c :: rest =>
    if c = '/' then [] :: segments rest
    else match segments rest with
      | [] => [[c]]
      | segment :: further => (c :: segment) :: further

/-- The path with the given parts. -/
def ofSegments (segments : List (List Char)) : List Char := ['/'].intercalate segments

/-- A part that counts for nothing. -/
def isIdle (segment : List Char) : Bool := segment = [] || segment = ['.']

/-- Some parts without those at the end that count for nothing. -/
def dropIdle (segments : List (List Char)) : List (List Char) :=
  (segments.reverse.dropWhile isIdle).reverse

/-- The first part of a path, which always counts, and the parts after it that count up to the last
one that does. -/
def split (path : String) : List Char × List (List Char) :=
  match segments path.toList with
  | [] => ([], [])
  | first :: rest => (first, dropIdle rest)

/-- The name of the file that a path leads to, if it leads to a name. -/
def fileName? (path : String) : Option (List Char) :=
  let (first, rest) := split path
  let last := rest.getLast?.getD first
  if isIdle last || last = ['.', '.'] then none else some last

/-- The path without its last part, if it has one. -/
def parent? (path : String) : Option String :=
  let (first, rest) := split path
  match rest with
  | [] => if first.isEmpty then none else some ""
  | _ =>
    let front := dropIdle rest.dropLast
    let isRoot := first.isEmpty && front.isEmpty
    some (String.ofList (if isRoot then ['/'] else ofSegments (first :: front)))

/-- The text after the last point of a file name, if there is a point after its first character. -/
def extension? (path : String) : Option String := do
  let name ← fileName? path
  let afterPoint := name.reverse.takeWhile (· ≠ '.')
  if afterPoint.length + 1 < name.length then some (String.ofList afterPoint.reverse) else none

example : parent? "a/./b/." = some "a" ∧ parent? "/b" = some "/" ∧ parent? "b" = some "" := by
  decide +kernel
example : extension? "a/p.tar.json/" = some "json" ∧ extension? ".json" = none ∧
    extension? "..toml" = some "toml" := by decide +kernel

end AccessStream.Path
