import AccessStream.Toml.Value

/-!
# Building tables

The lines of a TOML text say one after the other what its tables hold, and a table may be spoken of
in several places. What may still be added to a table depends on how it came about: by a header of
its own, as a step on the way to another table, or by a key with points; and a value that was
written out as one is closed. Two dialects differ in what a key with points may do with a table that
was a step on the way to another.
-/

namespace AccessStream.Toml

/-- How a table came about. -/
inductive Origin where
  /-- By a header of its own. -/
  | header
  /-- As a step on the way to a table with a header. -/
  | passing
  /-- By a key with points. -/
  | dotted
  deriving DecidableEq, Repr

/-- What a key with points may do with a table that came about as a step on the way to another. -/
inductive Dialect where
  /-- It may lead through the table, but not add a value to it. -/
  | strict
  /-- It may do both; either makes the table one of a key with points, which no header may name. -/
  | extensible
  deriving DecidableEq, Repr

/-- How a table counts as having come about once a key with points has led into it, to its end or
only through it; none if the key may not. -/
def Dialect.enter? (dialect : Dialect) (isEnd : Bool) : Origin → Option Origin
  | .header => none
  | .dotted => some .dotted
  | .passing =>
    match dialect with
    | .strict => if isEnd then none else some .passing
    | .extensible => some .dotted

/-- A part of a document under construction. -/
inductive Node where
  /-- A value that was written out, to which nothing can be added. -/
  | closed (value : Value)
  /-- A table with its entries. -/
  | table (origin : Origin) (entries : List (String × Node))
  /-- An array of tables, each with a header of its own. -/
  | tables (elements : List (List (String × Node)))

/-- The entries of a table under construction. -/
abbrev Entries := List (String × Node)

namespace Entries

/-- The entries with the node under a key replaced, or added at the end. -/
def set (entries : Entries) (key : String) (node : Node) : Entries :=
  match entries with
  | [] => [(key, node)]
  | (other, found) :: rest =>
    if other = key then (key, node) :: rest else (other, found) :: set rest key node

/-- The entries after a change to the last table of an array of tables. -/
def changeLast? (change : Entries → Option Entries) : List Entries → Option (List Entries)
  | [] => none
  | [last] => (change last).map ([·])
  | first :: second :: rest => (changeLast? change (second :: rest)).map (first :: ·)

/-- The entries with a value added under a key of one or more names. The dialect says which tables
the key may lead into. -/
def insert? (dialect : Dialect) (entries : Entries) (names : List String) (value : Value) :
    Option Entries :=
  match names with
  | [] => none
  | [name] =>
    match entries.lookup name with
    | none => some (entries.set name (.closed value))
    | some _ => none
  | name :: next :: names =>
    match entries.lookup name with
    | none =>
      (insert? dialect [] (next :: names) value).map fun inner =>
        entries.set name (.table .dotted inner)
    | some (.table origin inner) =>
      match dialect.enter? names.isEmpty origin with
      | none => none
      | some origin =>
        (insert? dialect inner (next :: names) value).map fun inner =>
          entries.set name (.table origin inner)
    | some (.tables elements) =>
      if names.isEmpty then none
      else
        (changeLast? (fun inner => insert? dialect inner (next :: names) value) elements).map
          fun elements => entries.set name (.tables elements)
    | some (.closed _) => none

/-- The entries with several values added. -/
def insertAll? (dialect : Dialect) (entries : Entries) (pairs : List (List String × Value)) :
    Option Entries :=
  pairs.foldlM (fun entries pair => insert? dialect entries pair.1 pair.2) entries

/-- The entries after a change to the table that the names but the last lead to; tables on the way
come about where there are none, and of an array of tables the last is meant. The change is told the
last name. -/
def change? (entries : Entries) (names : List String) (change : Entries → String → Option Entries) :
    Option Entries :=
  match names with
  | [] => none
  | [name] => change entries name
  | name :: next :: names =>
    match entries.lookup name with
    | none =>
      (change? [] (next :: names) change).map fun inner => entries.set name (.table .passing inner)
    | some (.table origin inner) =>
      (change? inner (next :: names) change).map fun inner => entries.set name (.table origin inner)
    | some (.tables elements) =>
      (changeLast? (fun inner => change? inner (next :: names) change) elements).map fun elements =>
        entries.set name (.tables elements)
    | some (.closed _) => none

/-- The entries with a table that has a header and holds some values. The table may only have come
about as a step on the way to others. -/
def addTable? (dialect : Dialect) (pairs : List (List String × Value)) (entries : Entries)
    (name : String) : Option Entries :=
  match entries.lookup name with
  | none => (insertAll? dialect [] pairs).map fun inner => entries.set name (.table .header inner)
  | some (.table .passing inner) =>
    (insertAll? dialect inner pairs).map fun inner => entries.set name (.table .header inner)
  | some _ => none

/-- The entries with one more table, which holds some values, in an array of tables. -/
def addElement? (dialect : Dialect) (pairs : List (List String × Value)) (entries : Entries)
    (name : String) : Option Entries :=
  match entries.lookup name with
  | none => (insertAll? dialect [] pairs).map fun inner => entries.set name (.tables [inner])
  | some (.tables elements) =>
    (insertAll? dialect [] pairs).map fun inner => entries.set name (.tables (elements ++ [inner]))
  | some _ => none

end Entries

/-- A header with the pairs of keys and values below it. -/
structure Section where
  /-- Whether the header adds a table to an array of tables. -/
  isElement : Bool
  /-- The names of the header. -/
  names : List String
  /-- The keys below the header with their values. -/
  pairs : List (List String × Value)

/-- The entries of a document with one more section. -/
def Entries.addSection? (dialect : Dialect) (entries : Entries) (part : Section) :
    Option Entries :=
  entries.change? part.names
    (if part.isElement then addElement? dialect part.pairs else addTable? dialect part.pairs)

namespace Node

mutual

/-- The value that a part of a document has come to. -/
def toValue : Node → Value
  | closed value => value
  | table _ entries => .table (entriesToValues entries)
  | tables elements => .array (elementsToValues elements)

/-- The entries that a table has come to. -/
def entriesToValues : List (String × Node) → List (String × Value)
  | [] => []
  | (key, node) :: entries => (key, toValue node) :: entriesToValues entries

/-- The tables that an array of tables has come to. -/
def elementsToValues : List (List (String × Node)) → List Value
  | [] => []
  | entries :: elements => .table (entriesToValues entries) :: elementsToValues elements

end

end Node

/-- The table that a document comes to: pairs before any header, and then sections. -/
def assemble? (dialect : Dialect) (pairs : List (List String × Value))
    (sections : List Section) : Option Value := do
  let entries ← Entries.insertAll? dialect [] pairs
  let entries ← sections.foldlM (Entries.addSection? dialect) entries
  return .table (Node.entriesToValues entries)

/-- The table of a value that is written out with keys and values between braces. There are no
headers between braces, so the dialect does not matter. -/
def inlineTable? (pairs : List (List String × Value)) : Option Value :=
  (Entries.insertAll? .strict [] pairs).map fun entries => .table (Node.entriesToValues entries)

end AccessStream.Toml
