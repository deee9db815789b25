import AccessStream.Proofs.Settings.Choice

/-!
# Documents as layers

A document can be taken as a layer whatever the types of its values, if every whole number in it has
64 bits and no other number is out of range (`IsPortable`, `Raw.ofToml?_of_isPortable`). It lays what it
has for the settings over those below, whatever else is in it (`Choice.exists_layer_of_saidAmong`,
`Choice.exists_layer_of_saidBy`).
-/

namespace AccessStream.Settings

/-- A value of a document that can be read whatever its type: its whole numbers have 64 bits, and no
other number is out of range. -/
inductive IsPortable : Toml.Value → Prop
  | text (content : String) : IsPortable (.text content)
  | integer {value : Int} (low : -Nat.pow 2 63 ≤ value) (high : value < Nat.pow 2 63) :
      IsPortable (.integer value)
  | float (value : Binary64) : IsPortable (.float value)
  | boolean (value : Bool) : IsPortable (.boolean value)
  | datetime (value : Toml.Datetime) : IsPortable (.datetime value)
  | array {items : List Toml.Value} (each : ∀ item ∈ items, IsPortable item) :
      IsPortable (.array items)
  | table {entries : List (String × Toml.Value)} (each : ∀ entry ∈ entries, IsPortable entry.2) :
      IsPortable (.table entries)

namespace Raw

/-- What a value of a document is read as, or no value. -/
def orNull (value : Toml.Value) : Raw := (ofToml? value).getD .null

theorem ofTomlItems?_eq_map {items : List Toml.Value}
    (h : ∀ item ∈ items, ofToml? item = some (orNull item)) :
    ofTomlItems? items = some (items.map orNull) := by
  induction items with
  | nil => rfl
  | cons item items ih =>
    obtain ⟨first, others⟩ := List.forall_mem_cons.1 h
    rw [ofTomlItems?, first, ih others]
    rfl

theorem ofTomlEntries?_eq_map {entries : List (String × Toml.Value)}
    (h : ∀ entry ∈ entries, ofToml? entry.2 = some (orNull entry.2)) :
    ofTomlEntries? entries = some (entries.map fun entry => (entry.1, orNull entry.2)) := by
  induction entries with
  | nil => rfl
  | cons entry entries ih =>
    obtain ⟨first, others⟩ := List.forall_mem_cons.1 h
    obtain ⟨name, value⟩ := entry
    rw [ofTomlEntries?, first, ih others]
    rfl

theorem ofToml?_table {entries : List (String × Toml.Value)}
    (h : ∀ entry ∈ entries, ofToml? entry.2 = some (orNull entry.2)) :
    ofToml? (.table entries) =
      some (.table (entries.map fun entry => (entry.1, orNull entry.2))) := by
  rw [ofToml?, ofTomlEntries?_eq_map h, Option.map_some]

theorem inRange_of_isPortable {value : Int} (h : IsPortable (.integer value)) :
    (decide (-(Nat.pow 2 63 : Int) ≤ value) && decide (value < Nat.pow 2 63)) = true := by
  rw [Bool.and_eq_true, decide_eq_true_eq, decide_eq_true_eq]
  cases h with
  | integer low high => exact ⟨low, high⟩

theorem ofToml?_of_isPortable {value : Toml.Value} (h : IsPortable value) :
    ofToml? value = some (orNull value) := by
  have read : ∀ {value raw}, ofToml? value = some raw → ofToml? value = some (orNull value) := by
    intro value raw found
    rw [orNull, found, Option.getD_some]
  induction h with
  | integer low high =>
    exact read (by rw [ofToml?, if_pos (inRange_of_isPortable (.integer low high))])
  | array _ ih => exact read (by rw [ofToml?, ofTomlItems?_eq_map ih, Option.map_some])
  | table _ ih => exact read (ofToml?_table ih)
  | _ => rfl

theorem orNull_integer {value : Int} (h : IsPortable (.integer value)) :
    orNull (.integer value) = .integer value := by
  rw [orNull, ofToml?, if_pos (inRange_of_isPortable h), Option.getD_some]

theorem orNull_table {entries : List (String × Toml.Value)} (h : IsPortable (.table entries)) :
    orNull (.table entries) = .table (entries.map fun entry => (entry.1, orNull entry.2)) := by
  cases h with
  | table each =>
    have read := ofToml?_table fun entry among => ofToml?_of_isPortable (each entry among)
    rw [orNull, read, Option.getD_some]

end Raw

namespace Choice

theorem isPortable_count {count : Nat} (small : count < Nat.pow 2 63) :
    IsPortable (.integer count) := by
  have low : -((Nat.pow 2 63 : Nat) : Int) ≤ 0 := Int.neg_nonpos_of_nonneg (Int.natCast_nonneg _)
  exact .integer (Int.le_trans low (Int.natCast_nonneg count)) (Int.ofNat_lt.2 small)

/-- A setting is set in a document exactly if it is in what the document is read as. -/
theorem toRaw?_eq_map_orNull {choice : Choice}
    (range : choice.IsLayable)
    (setting : Setting) : choice.toRaw? setting = (choice.toToml? setting).map Raw.orNull := by
  cases setting with
  | policyPath =>
    rw [toRaw?, toToml?, Option.map_map]
    rfl
  | flush =>
    rw [toRaw?, toToml?, Option.map_map]
    rfl
  | maxRecordBytes =>
    simp only [toRaw?, toToml?]
    cases set : choice.maxRecordBytes with
    | none => simp only [Option.map_none]
    | some count =>
      simp only [Option.map_some, Raw.orNull_integer (isPortable_count (range count set))]
  | logLevel =>
    rw [toRaw?, toToml?, Option.map_map]
    rfl

/-- A document says a choice among other things: it has a field for each setting that is set and for
no other setting, in tables for the sections. -/
structure SaidAmong (choice : Choice) (sections : List (String × Toml.Value)) : Prop where
  tables : ∀ entry ∈ sections, entry.1 ∈ sectionNames ∧ ∃ fields, entry.2 = .table fields
  fields : ∀ (setting : Setting) value,
    (∃ fields, (setting.place.1, Toml.Value.table fields) ∈ sections ∧
      (setting.place.2, value) ∈ fields) ↔ choice.toToml? setting = some value

section Documents

variable {choice : Choice} {sections : List (String × Toml.Value)}

theorem SaidAmong.laidAmong (said : choice.SaidAmong sections)
    (portable : ∀ entry ∈ sections, IsPortable entry.2)
    (range : choice.IsLayable) :
    choice.LaidAmong (sections.map fun entry => (entry.1, Raw.orNull entry.2)) := by
  refine ⟨fun entry among => ?_, fun setting raw => ?_⟩
  · obtain ⟨⟨name, part⟩, listed, rfl⟩ := List.mem_map.1 among
    obtain ⟨known, fields, rfl⟩ := said.tables _ listed
    exact ⟨known, _, Raw.orNull_table (portable _ listed)⟩
  · rw [toRaw?_eq_map_orNull range, Option.map_eq_some_iff]
    constructor
    · rintro ⟨inner, among, written⟩
      obtain ⟨⟨name, part⟩, listed, same⟩ := List.mem_map.1 among
      obtain ⟨-, fields, rfl⟩ := said.tables _ listed
      obtain ⟨rfl, inner_eq⟩ := Prod.ext_iff.1 same
      obtain rfl := Raw.table.inj ((Raw.orNull_table (portable _ listed)).symm.trans inner_eq)
      obtain ⟨⟨own, value⟩, among', same'⟩ := List.mem_map.1 written
      obtain ⟨own_eq : own = setting.place.2, raw_eq⟩ := Prod.ext_iff.1 same'
      have listed' : (setting.place.2, value) ∈ fields := own_eq ▸ among'
      exact ⟨value, (said.fields setting value).1 ⟨fields, listed, listed'⟩, raw_eq⟩
    · rintro ⟨value, set, rfl⟩
      obtain ⟨fields, among, listed⟩ := (said.fields setting value).2 set
      refine ⟨fields.map fun field => (field.1, Raw.orNull field.2),
        List.mem_map.2 ⟨_, among, ?_⟩, List.mem_map.2 ⟨_, listed, rfl⟩⟩
      rw [Raw.orNull_table (portable _ among)]

/-- A document that says a choice lays it over the settings below. -/
theorem exists_layer_of_saidAmong (said : choice.SaidAmong sections)
    (portable : IsPortable (.table sections))
    (range : choice.IsLayable) :
    ∃ layer, Raw.ofToml? (.table sections) = some (.table layer) ∧
      choice.Lays fun target => target.layLayer layer := by
  refine ⟨sections.map fun entry => (entry.1, Raw.orNull entry.2), ?_, ?_⟩
  · rw [Raw.ofToml?_of_isPortable portable, Raw.orNull_table portable]
  · cases portable with
    | table each => exact (said.laidAmong each range).lays

theorem SaidBy.saidAmong (said : choice.SaidBy sections) : choice.SaidAmong sections := by
  refine ⟨said.tables, fun setting value => (said.fields setting.place value).trans ⟨?_, ?_⟩⟩
  · rintro ⟨owner, place, set⟩
    obtain rfl := Setting.place_injective place
    exact set
  · exact fun set => ⟨setting, rfl, set⟩

theorem isPortable_of_toToml? {setting : Setting} {value : Toml.Value}
    (range : choice.IsLayable)
    (set : choice.toToml? setting = some value) : IsPortable value := by
  cases setting with
  | policyPath =>
    obtain ⟨path, -, rfl⟩ := Option.map_eq_some_iff.1 set
    exact .text path
  | flush =>
    obtain ⟨mode, -, rfl⟩ := Option.map_eq_some_iff.1 set
    exact .text mode.name
  | maxRecordBytes =>
    obtain ⟨count, given, rfl⟩ := Option.map_eq_some_iff.1 set
    exact isPortable_count (range count given)
  | logLevel =>
    obtain ⟨level, -, rfl⟩ := Option.map_eq_some_iff.1 set
    exact .text level

theorem SaidBy.isPortable (said : choice.SaidBy sections) (range : choice.IsLayable) :
    IsPortable (.table sections) := by
  refine .table fun entry among => ?_
  obtain ⟨name, part⟩ := entry
  obtain ⟨-, fields, rfl⟩ := said.tables _ among
  refine .table fun field listed => ?_
  obtain ⟨setting, -, set⟩ := (said.fields (name, field.1) field.2).1 ⟨fields, among, listed⟩
  exact isPortable_of_toToml? range set

theorem exists_layer_of_saidBy (said : choice.SaidBy sections) (range : choice.IsLayable) :
    ∃ layer, Raw.ofToml? (.table sections) = some (.table layer) ∧
      choice.Lays fun target => target.layLayer layer :=
  exists_layer_of_saidAmong said.saidAmong (said.isPortable range) range

end Documents

end Choice

end AccessStream.Settings
