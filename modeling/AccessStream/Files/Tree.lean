import AccessStream.Files.Path
import AccessStream.Text.Utf8

/-!
# Files

What the program asks of the files around it is what stands under a path: a file with its content, a
directory, or nothing. A `FileTree` answers from files that it holds.
-/

namespace AccessStream

/-- What stands under a path. -/
inductive Found where
  /-- A file. -/
  | file (content : Bytes)
  /-- A directory. -/
  | directory
  /-- Nothing that can be opened. -/
  | nothing
  deriving DecidableEq, Repr

/-- The text of a file, if it is one and its content is UTF-8. -/
def Found.text? : Found → Option String
  | file content => Utf8.decode? content
  | _ => none

/-- The files of a system, and the directory that relative paths start from. Every file and
directory stands under the names that lead to it from the root, the last one first. -/
structure FileTree where
  /-- The files and directories other than the root. -/
  entries : List (List String × Found) := []
  /-- The working directory. -/
  workingDirectory : List String := []

namespace FileTree

/-- What stands under some names. -/
def entry (tree : FileTree) (names : List String) : Found :=
  if names.isEmpty then .directory else (tree.entries.lookup names).getD .nothing

/-- What stands at the end of some steps from a directory. -/
def walk (tree : FileTree) (names : List String) : List (List Char) → Found
  | [] => tree.entry names
  | step :: steps =>
    if tree.entry names = .directory then
      if Path.isIdle step then walk tree names steps
      else if step = ['.', '.'] then walk tree names.tail steps
      else walk tree (String.ofList step :: names) steps
    else .nothing

/-- What stands under a path. -/
def find (tree : FileTree) (path : String) : Found :=
  if path.isEmpty then .nothing
  else
    tree.walk (if Path.isAbsolute path then [] else tree.workingDirectory)
      (Path.segments path.toList)

/-- A tree with directories under some names and all that they start with. -/
def withDirectory (tree : FileTree) : List String → FileTree
  | [] => tree
  | name :: outer =>
    let tree := tree.withDirectory outer
    if tree.entry (name :: outer) = .nothing then
      { tree with entries := (name :: outer, .directory) :: tree.entries }
    else tree

/-- A tree with a file under some names, in directories that lead to it. -/
def withFile (tree : FileTree) (names : List String) (content : Bytes) : FileTree :=
  let tree := tree.withDirectory names.tail
  { tree with entries := (names, .file content) :: tree.entries }

end FileTree

end AccessStream
