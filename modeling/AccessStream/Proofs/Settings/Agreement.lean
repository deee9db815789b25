import AccessStream.Proofs.Files.Path
import AccessStream.Proofs.Settings.Precedence
import AccessStream.Proofs.Toml.Distinct

/-!
# One file read in two ways

The file of a project can be loaded alone, where each value must have its own type and a path is
meant from the directory of the file, or as the only one of all layers, where types are asked for
last and a path is meant from the directory of the project. If its settings have their types, and
both ways can read what else is in it, they come to the same settings or fail for the same flaw
(`agree_of_isTyped`). What one of them cannot read the other may take (`disagreements`).
-/

namespace AccessStream.Settings

open Toml (Value)

variable {sections : List (String × Value)} {choice : Choice} {setting : Setting} {value : Value}

/-! ## Documents of settings -/

/-- What a document has for a setting. -/
def saidFor? (sections : List (String × Value)) (setting : Setting) : Option Value :=
  (sections.lookup setting.place.1).bind (Value.get? setting.place.2)

/-- A value has the type of a setting. -/
def Setting.Admits (value : Value) : Setting → Prop
  | policyPath => ∃ path, value = .text path
  | flush => ∃ mode : FlushMode, value = .text mode.name
  | maxRecordBytes => ∃ count : Nat, value = .integer count
  | logLevel => ∃ level, value = .text level

/-- A document of settings has tables for sections, and in them a value of its type for any of the
settings. There may be other fields in these tables. -/
structure IsTyped (sections : List (String × Value)) : Prop where
  tables : ∀ entry ∈ sections, entry.1 ∈ sectionNames ∧ ∃ fields, entry.2 = .table fields
  admits : ∀ setting value, saidFor? sections setting = some value → setting.Admits value

/-- A document says settings that cannot work: no bytes for a record, or a blank level. -/
def IsFlawed (sections : List (String × Value)) : Prop :=
  saidFor? sections .maxRecordBytes = some (.integer 0) ∨
    ∃ level, saidFor? sections .logLevel = some (.text level) ∧ Text.isBlank level = true

/-- The fields of the section of a name. -/
def sectionFields (sections : List (String × Value)) (name : String) : Fields Value :=
  match sections.lookup name with
  | some (.table fields) => fields
  | _ => []

theorem saidFor?_eq_lookup (sections : List (String × Value)) (setting : Setting) :
    saidFor? sections setting =
      (sectionFields sections setting.place.1).lookup setting.place.2 := by
  rw [saidFor?, sectionFields]
  cases sections.lookup setting.place.1 with
  | none => rfl
  | some value => cases value <;> rfl

theorem exists_map_eq {α β : Type} {found : Option β} {form : α → β}
    (h : ∀ value, found = some value → ∃ chosen, value = form chosen) :
    ∃ chosen : Option α, chosen.map form = found := by
  cases found with
  | none => exact ⟨none, rfl⟩
  | some value =>
    obtain ⟨chosen, rfl⟩ := h value rfl
    exact ⟨some chosen, rfl⟩

/-- A document of settings says a choice. -/
theorem IsTyped.exists_choice (typed : IsTyped sections) :
    ∃ choice : Choice, ∀ setting, choice.toToml? setting = saidFor? sections setting := by
  obtain ⟨policyPath, path_said⟩ := exists_map_eq (typed.admits .policyPath)
  obtain ⟨flush, flush_said⟩ := exists_map_eq (typed.admits .flush)
  obtain ⟨maxRecordBytes, count_said⟩ := exists_map_eq (typed.admits .maxRecordBytes)
  obtain ⟨logLevel, level_said⟩ := exists_map_eq (typed.admits .logLevel)
  refine ⟨{ policyPath, flush, maxRecordBytes, logLevel }, fun setting => ?_⟩
  cases setting with
  | policyPath => exact path_said
  | flush => exact flush_said
  | maxRecordBytes => exact count_said
  | logLevel => exact level_said

/-- What a document has for a setting is in the section of the setting. -/
theorem exists_mem_of_saidFor? (found : saidFor? sections setting = some value) :
    ∃ fields, (setting.place.1, Value.table fields) ∈ sections ∧
      (setting.place.2, value) ∈ fields := by
  obtain ⟨part, there, inside⟩ := Option.bind_eq_some_iff.1 found
  cases part with
  | table fields => exact ⟨fields, Fields.mem_of_lookup there, Fields.mem_of_lookup inside⟩
  | _ => cases inside

/-- Where no key comes twice, a choice that a document says is all that it has for the settings. -/
theorem IsTyped.saidAmong (typed : IsTyped sections) (distinct : (Value.table sections).IsDistinct)
    (said : ∀ setting, choice.toToml? setting = saidFor? sections setting) :
    choice.SaidAmong sections := by
  refine ⟨typed.tables, fun setting value => ⟨?_, fun set => ?_⟩⟩
  · rintro ⟨fields, among, listed⟩
    cases distinct with
    | leaf _ noTable => exact absurd rfl (noTable sections)
    | table keys each =>
      cases each _ among with
      | leaf _ noTable => exact absurd rfl (noTable fields)
      | table inner_keys _ =>
        -- looking up finds the first entry of a key, which is the only one
        rw [said, saidFor?, (Fields.lookup_eq_some_iff keys).2 among, Option.bind_some,
          Value.get?, (Fields.lookup_eq_some_iff inner_keys).2 listed]
  · rw [said] at set
    exact exists_mem_of_saidFor? set

theorem isPortable_of_saidFor? (portable : IsPortable (.table sections))
    (found : saidFor? sections setting = some value) : IsPortable value := by
  obtain ⟨fields, among, listed⟩ := exists_mem_of_saidFor? found
  cases portable with
  | table each =>
    cases each _ among with
    | table inside => exact inside _ listed

/-- The number of bytes that a portable document says has 64 bits. -/
theorem lt_of_isPortable (portable : IsPortable (.table sections))
    (said : ∀ setting, choice.toToml? setting = saidFor? sections setting) {count : Nat}
    (set : choice.maxRecordBytes = some count) : count < Nat.pow 2 63 := by
  have found : saidFor? sections .maxRecordBytes = some (.integer count) := by
    rw [← said, Choice.toToml?, set, Option.map_some]
  cases isPortable_of_saidFor? portable found with
  | integer _ high => exact Int.ofNat_lt.1 high

/-- A document has a flaw if what it says and the defaults for the rest have one. -/
theorem isFlawed_iff (said : ∀ setting, choice.toToml? setting = saidFor? sections setting) :
    IsFlawed sections ↔
      choice.settings.maxRecordBytes = 0 ∨ Text.isBlank choice.settings.logLevel = true := by
  rw [IsFlawed, ← said, ← said]
  refine or_congr ?_ ?_
  · cases set : choice.maxRecordBytes <;> simp [Choice.toToml?, Choice.settings, set]
  · cases set : choice.logLevel with
    | none =>
      have standard : Text.isBlank "info" = false := by decide
      simp [Choice.toToml?, Choice.settings, set, standard]
    | some level => simp [Choice.toToml?, Choice.settings, set]

/-! ## The file alone -/

theorem areReadable_eq_all (items : List Value) :
    Value.areReadable items = items.all Value.isReadable := by
  induction items with
  | nil => rfl
  | cons item items ih => rw [Value.areReadable, ih, List.all_cons]

theorem entriesAreReadable_eq_all (entries : List (String × Value)) :
    Value.entriesAreReadable entries = entries.all fun entry => entry.2.isReadable := by
  induction entries with
  | nil => rfl
  | cons entry entries ih => rw [Value.entriesAreReadable, ih, List.all_cons]

theorem IsPortable.isReadable (portable : IsPortable value) : value.isReadable = true := by
  induction portable with
  | array _ ih =>
    rw [Value.isReadable, areReadable_eq_all]
    exact List.all_eq_true.2 ih
  | table _ ih =>
    rw [Value.isReadable, entriesAreReadable_eq_all]
    exact List.all_eq_true.2 ih
  | _ => rfl

theorem fields?_strict_of_isPortable {fields : List (String × Value)}
    (portable : IsPortable (.table fields)) (names : List String) :
    Reading.strict.fields? names (.table fields) = some fields := by
  cases portable with
  | table each =>
    refine if_pos (List.all_eq_true.2 fun entry among => ?_)
    rw [(each entry among).isReadable, Bool.or_true]

theorem divides_strict (typed : IsTyped sections) (portable : IsPortable (.table sections)) :
    Reading.strict.Divides (.table sections) (sectionFields sections) := by
  refine ⟨sections, fields?_strict_of_isPortable portable sectionNames, fun name _ => ?_⟩
  rw [sectionFields]
  cases found : sections.lookup name with
  | none => rfl
  | some part =>
    have among := Fields.mem_of_lookup found
    obtain ⟨-, fields, rfl⟩ := typed.tables _ among
    cases portable with
    | table each => exact fields?_strict_of_isPortable (each _ among)

/-- The settings of a document alone are those that it says, with the defaults for the rest. -/
theorem settings?_strict (typed : IsTyped sections) (portable : IsPortable (.table sections))
    (said : ∀ setting, choice.toToml? setting = saidFor? sections setting) :
    Reading.strict.settings? (.table sections) = some choice.settings := by
  have found : ∀ setting : Setting,
      (sectionFields sections setting.place.1).lookup setting.place.2 = choice.toToml? setting := by
    intro setting
    rw [said, saidFor?_eq_lookup]
  refine Choice.settings?_of_reads (divides_strict typed portable) found ?_ ?_ ?_ ?_
  · rw [Choice.toToml?, Option.map_map]
    rfl
  · rw [Choice.toToml?, Option.map_map]
    exact congrArg (Option.map · choice.flush) (funext FlushMode.ofName?_name)
  · cases set : choice.maxRecordBytes with
    | none => simp only [Choice.toToml?, set, Option.map_none]
    | some count =>
      -- alone, a number may have 64 bits without a sign
      have small := lt_of_isPortable portable said set
      have larger : Nat.pow 2 63 < Nat.pow 2 64 := Nat.pow_lt_pow_right (by decide) (by decide)
      have inRange :
          (decide (0 ≤ (count : Int)) && decide ((count : Int) < Nat.pow 2 64)) = true := by
        rw [Bool.and_eq_true, decide_eq_true_eq, decide_eq_true_eq]
        exact ⟨Int.natCast_nonneg count, Int.ofNat_lt.2 (Nat.lt_trans small larger)⟩
      have reads : Reading.strict.natural? (.integer count) = some count := by
        simp only [Reading.strict, if_pos inRange, Int.toNat_natCast]
      simp only [Choice.toToml?, set, Option.map_some, reads]
  · rw [Choice.toToml?, Option.map_map]
    rfl

/-- The file alone says its settings, with paths from its directory. -/
theorem loadFile_of_isTyped {find : String → Found} {path directory text : String}
    (file : find path = .file (Utf8.encode text)) (parent : Path.parent? path = some directory)
    (read : Toml.read? text = some (.table sections)) (typed : IsTyped sections)
    (portable : IsPortable (.table sections))
    (said : ∀ setting, choice.toToml? setting = saidFor? sections setting) :
    Id.run (loadFile find path) =
      if choice.settings.maxRecordBytes = 0 then .error (.flawed .zeroLimit)
      else if Text.isBlank choice.settings.logLevel then .error (.flawed .blankLevel)
      else .ok (choice.settings.resolve directory) := by
  have loaded : Id.run (loadFile find path) = ofFile path (find path) := rfl
  have document : ofTomlText? text = some choice.settings := by
    rw [ofTomlText?, read, Option.bind_some, settings?_strict typed portable said]
  rw [loaded, file, ofFile, Found.text?, Utf8.decode?_encode]
  simp only [document, parent]
  exact checked_resolve FileError.flawed choice.settings directory

/-! ## The file as a layer -/

/-- Nothing but the file of the project sets anything: there are no files of the other layers, and
no variable has the prefix. -/
structure OnlyProject (find : String → Found) (environment : Environment) (options : LayerOptions) :
    Prop where
  prefixed : options.variablePrefix = "ATTRGATE"
  user : options.includesUser = true → ∀ path,
    Layer.user.path? environment options = some path → find path = .nothing
  checkout : find (Path.join options.projectDirectory Layer.checkout.fileName) = .nothing
  unset : ∀ entry ∈ environment, ¬ "attrgate_".toList <+: (Text.lowercase entry.1).toList

section Loading

variable {find : String → Found} {environment : Environment} {options : LayerOptions}
  {text : String}

theorem OnlyProject.user_sets (only : OnlyProject find environment options) :
    Layer.user.Sets find environment options {} := by
  cases included : options.includesUser with
  | false => exact .excluded included
  | true =>
    cases place : Layer.user.path? environment options with
    | none => exact .placeless place
    | some path => exact .missing place (only.user included path place)

theorem OnlyProject.saidByVariables (only : OnlyProject find environment options) :
    Choice.SaidByVariables {} environment :=
  ⟨fun entry among start => absurd start (only.unset entry among),
    fun setting set => by cases setting <;> cases set⟩

/-- The layers come to the settings that the file of the project says, with paths from the directory
of the project. -/
theorem load_of_isTyped (only : OnlyProject find environment options)
    (file : find (Path.join options.projectDirectory Layer.project.fileName) =
      .file (Utf8.encode text))
    (read : Toml.read? text .extensible = some (.table sections)) (typed : IsTyped sections)
    (portable : IsPortable (.table sections))
    (said : ∀ setting, choice.toToml? setting = saidFor? sections setting) :
    Id.run (load find environment options) =
      if choice.settings.maxRecordBytes = 0 then .error (.flawed .zeroLimit)
      else if Text.isBlank choice.settings.logLevel then .error (.flawed .blankLevel)
      else .ok (choice.settings.resolve options.projectDirectory) := by
  obtain ⟨fields, raw, lays⟩ := Choice.exists_layer_of_saidAmong
    (typed.saidAmong (Toml.isDistinct_of_read? read) said) portable
    fun _ set => lt_of_isPortable portable said set
  have layered : layerOfFile? (Utf8.encode text) = some fields := by
    simp only [layerOfFile?, read?_dropMark read, Option.bind_eq_bind, Option.bind_some, raw]
  have project_gives : Layer.project.Gives find environment options choice :=
    Layer.gives_of_file (by rintro ⟨⟩) rfl file layered lays
  have checkout_sets : Layer.checkout.Sets find environment options {} :=
    .missing rfl only.checkout
  have merged : Choice.onto {} (Choice.onto {} (choice.onto {})) = choice := by
    simp only [Choice.onto, Option.none_or, Option.or_none]
  have loaded := load_of_gives_of_variables only.prefixed only.user_sets.gives project_gives
    checkout_sets.gives only.saidByVariables
  simp only [merged] at loaded
  exact loaded

end Loading

/-! ## Agreement -/

/-- Settings are the same, with paths that are the same as paths. -/
structure Same (first second : Settings) : Prop where
  policyPath : Option.Rel Path.Same first.policyPath second.policyPath
  flush : first.flush = second.flush
  maxRecordBytes : first.maxRecordBytes = second.maxRecordBytes
  logLevel : first.logLevel = second.logLevel

/-- What a file comes to alone and as a layer is the same: the same settings, or the same flaw of
settings that cannot work. -/
inductive Agree : Except FileError Settings → Except LayerError Settings → Prop
  | ok {alone layered : Settings} (same : alone.Same layered) : Agree (.ok alone) (.ok layered)
  | flawed (flaw : Flaw) : Agree (.error (.flawed flaw)) (.error (.flawed flaw))

theorem same_resolve (settings : Settings) {base base' : String}
    (h : ∀ path, Path.Same (Path.join base path) (Path.join base' path)) :
    (settings.resolve base).Same (settings.resolve base') := by
  refine ⟨?_, rfl, rfl, rfl⟩
  rw [resolve, resolve]
  cases settings.policyPath with
  | none => exact .none
  | some path => exact .some (h path)

/-- The file of a project that says settings in their types, and can be read in both ways, comes to
the same alone and as the only layer. Loading it fails exactly if what it says cannot work. -/
theorem agree_of_isTyped {find : String → Found} {environment : Environment}
    {options : LayerOptions} {text : String} (only : OnlyProject find environment options)
    (file : find (Path.join options.projectDirectory "attrgate.toml") = .file (Utf8.encode text))
    (read : Toml.read? text = some (.table sections))
    (read_too : (Toml.read? text .extensible).isSome) (typed : IsTyped sections)
    (portable : IsPortable (.table sections)) :
    let alone := Id.run (loadFile find (Path.join options.projectDirectory "attrgate.toml"))
    let layered := Id.run (load find environment options)
    Agree alone layered ∧ ((∃ error, alone = .error error) ↔ IsFlawed sections) := by
  intro alone layered
  obtain ⟨choice, said⟩ := typed.exists_choice
  obtain ⟨document, read'⟩ := Option.isSome_iff_exists.1 read_too
  -- both dialects read the same document, so one choice tells what both ways come to
  obtain rfl := Toml.read?_unique read read'
  obtain ⟨directory, parent, same⟩ := @Path.exists_parent_of_join
    options.projectDirectory "attrgate.toml" (by decide) (by decide)
  have alone_eq := loadFile_of_isTyped file parent read typed portable said
  have layered_eq := load_of_isTyped only file read' typed portable said
  rw [isFlawed_iff said]
  simp only [alone, layered, alone_eq, layered_eq]
  split_ifs with zero blank
  · exact ⟨.flawed .zeroLimit, fun _ => .inl zero, fun _ => ⟨_, rfl⟩⟩
  · exact ⟨.flawed .blankLevel, fun _ => .inr blank, fun _ => ⟨_, rfl⟩⟩
  · refine ⟨.ok (same_resolve choice.settings same), ?_, ?_⟩
    · rintro ⟨error, failed⟩
      cases failed
    · rintro (zero' | blank')
      · exact absurd zero' zero
      · exact absurd blank' blank

/-- A file that says some of the settings and more, in a directory with idle parts in its path. -/
theorem agree_of_partial_document :
    let tables : List (String × List (String × Value)) :=
      [("pipeline", [("max_record_bytes", .integer 512), ("spare", .integer (-1))]),
        ("policy", [("path", .text "rules.toml")])]
    let text := Toml.write []
      (tables.map fun entry => ⟨false, [entry.1], Toml.Entries.pairsOf entry.2⟩)
    let find : String → Found := fun path =>
      if path = "/work//./attrgate.toml" then .file (Utf8.encode text) else .nothing
    let alone := Id.run (loadFile find "/work//./attrgate.toml")
    let layered := Id.run (load find [] { projectDirectory := "/work//." })
    (Agree alone layered ∧ ((∃ error, alone = .error error) ↔
      IsFlawed (tables.map fun entry => (entry.1, .table entry.2)))) ∧
      alone = .ok { policyPath := some "/work/rules.toml", maxRecordBytes := 512 } ∧
      layered = .ok { policyPath := some "/work//./rules.toml", maxRecordBytes := 512 } := by
  intro tables text find alone layered
  have writable : ∀ entry ∈ tables, Toml.Key.IsBare entry.1 ∧
      ∀ field ∈ entry.2, Toml.Key.IsBare field.1 ∧ field.2.Writable Value.maxDepth := by
    simp only [tables, List.forall_mem_cons]
    exact ⟨⟨by decide, ⟨by decide, .integer _ (by decide)⟩, ⟨by decide, .integer _ (by decide)⟩,
      fun _ => nofun⟩, ⟨by decide, ⟨by decide, .text _ _⟩, fun _ => nofun⟩, fun _ => nofun⟩
  have read : ∀ dialect, Toml.read? text dialect =
      some (.table (tables.map fun entry => (entry.1, .table entry.2))) := by
    intro dialect
    refine (Toml.read?_write dialect (List.forall_mem_nil _) fun part among => ?_).trans ?_
    · obtain ⟨entry, listed, rfl⟩ := List.mem_map.1 among
      obtain ⟨name, fields⟩ := writable entry listed
      exact ⟨Toml.Key.writable_singleton name, Toml.pairWritable_pairsOf fields⟩
    · cases dialect <;> rfl
  have only : OnlyProject find [] { projectDirectory := "/work//." } := by
    refine ⟨rfl, fun _ path place => ?_, by decide +kernel, nofun⟩
    cases place
  have file : find (Path.join "/work//." "attrgate.toml") = .file (Utf8.encode text) := by
    decide +kernel
  have typed : IsTyped (tables.map fun entry => (entry.1, .table entry.2)) := by
    have names : ∀ entry ∈ tables, entry.1 ∈ sectionNames := by decide
    refine ⟨fun entry among => ?_, fun setting value found => ?_⟩
    · obtain ⟨⟨name, fields⟩, listed, rfl⟩ := List.mem_map.1 among
      exact ⟨names _ listed, fields, rfl⟩
    · cases setting with
      | policyPath => exact ⟨"rules.toml", (Option.some.inj found).symm⟩
      | flush => cases found
      | maxRecordBytes => exact ⟨512, (Option.some.inj found).symm⟩
      | logLevel => cases found
  have portable : IsPortable (.table (tables.map fun entry => (entry.1, .table entry.2))) := by
    have inside : ∀ entry ∈ tables, ∀ field ∈ entry.2, IsPortable field.2 := by
      simp only [tables, List.forall_mem_cons]
      exact ⟨⟨.integer (by decide) (by decide), .integer (by decide) (by decide), fun _ => nofun⟩,
        ⟨.text _, fun _ => nofun⟩, fun _ => nofun⟩
    refine .table fun entry among => ?_
    obtain ⟨part, listed, rfl⟩ := List.mem_map.1 among
    exact .table (inside part listed)
  have agree := agree_of_isTyped only file (read _) (Option.isSome_of_eq_some (read _)) typed
    portable
  exact ⟨agree, by decide +kernel, by decide +kernel⟩

/-- The two ways do not take the same documents: as a layer no whole number of more than 64 bits is
taken; alone no number is taken that is past all range; and each dialect lets something be added to a
table to which the other lets nothing be added. -/
theorem disagreements :
    let find : String → String → Found := fun text path =>
      if path = "/work/attrgate.toml" then .file (Utf8.encode text) else .nothing
    let alone := fun text => Id.run (loadFile (find text) "/work/attrgate.toml")
    let layered := fun text => Id.run (load (find text) [] { projectDirectory := "/work" })
    let large := "[pipeline]\nmax_record_bytes = 9223372036854775808\n"
    let dotted := "[logging.x.y]\n[logging]\nx.q.z = 1\n[logging.x]\nw = 1\n"
    (alone large = .ok { maxRecordBytes := Nat.pow 2 63 } ∧ layered large = .error .unbuildable) ∧
      (alone dotted = .ok {} ∧ layered dotted = .error .unbuildable) ∧
      alone "[pipeline]\nmax_record_bytes = 18446744073709551616\n" = .error .malformed ∧
      alone "[policy]\nx = 1e400\n" = .error .malformed ∧
      alone "[logging.x.y]\n[logging]\nx.q = 1\n" = .error .malformed ∧
      layered "[policy]\nx = 9223372036854775808\n" = .error .unbuildable := by
  refine ⟨⟨?_, ?_⟩, ⟨?_, ?_⟩, ?_, ?_, ?_, ?_⟩ <;> decide +kernel

end AccessStream.Settings
