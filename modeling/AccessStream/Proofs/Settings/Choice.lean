import AccessStream.Proofs.Settings.Place
import AccessStream.Settings.Environment

/-!
# What a layer sets

A `Choice` is what one layer sets of the four settings. A document says it by the fields of its
sections, in whatever order and form they are written (`SaidBy`), and the environment by its
variables (`SaidByVariables`). A layer of sections lays what it has for the settings over those
below, setting by setting (`LaidAmong.lays`), and the defaults are such a layer (`laidBy_toLayer`).
Settings in which a choice stands read as what it sets (`settings?_of_at?`).
-/

namespace AccessStream.Settings

/-- One of the settings. -/
inductive Setting where
  /-- The path of the policy file. -/
  | policyPath
  /-- When lines are flushed. -/
  | flush
  /-- The number of bytes that a record may have. -/
  | maxRecordBytes
  /-- The directives of the log filter. -/
  | logLevel
  deriving DecidableEq, Repr

namespace Setting

/-- The name of the section of a setting and its own. -/
def place : Setting → Place
  | policyPath => ("policy", "path")
  | flush => ("pipeline", "flush")
  | maxRecordBytes => ("pipeline", "max_record_bytes")
  | logLevel => ("logging", "level")

/-- The variable of the environment for a setting. -/
def variableName : Setting → String
  | policyPath => "ATTRGATE_POLICY__PATH"
  | flush => "ATTRGATE_PIPELINE__FLUSH"
  | maxRecordBytes => "ATTRGATE_PIPELINE__MAX_RECORD_BYTES"
  | logLevel => "ATTRGATE_LOGGING__LEVEL"

/-- All settings. -/
def all : List Setting := [policyPath, flush, maxRecordBytes, logLevel]

theorem isStep_place (setting : Setting) :
    Raw.IsStep setting.place.1 ∧ Raw.IsStep setting.place.2 := by
  cases setting <;> exact ⟨Raw.isStep_of_all (by decide), Raw.isStep_of_all (by decide)⟩

theorem place_injective {a b : Setting} (h : a.place = b.place) : a = b := by
  revert h
  cases a <;> cases b <;> decide

theorem variableName_injective {a b : Setting} (h : a.variableName = b.variableName) :
    a = b := by
  revert h
  cases a <;> cases b <;> decide

theorem keyOfVariable?_variableName (setting : Setting) :
    keyOfVariable? "ATTRGATE" setting.variableName = some (Raw.keyOf setting.place) := by
  cases setting <;> decide +kernel

end Setting

/-- What one layer, or several together, set. -/
structure Choice where
  /-- The path of the policy file. -/
  policyPath : Option String := none
  /-- When lines are flushed. -/
  flush : Option FlushMode := none
  /-- The number of bytes that a record may have. -/
  maxRecordBytes : Option Nat := none
  /-- The directives of the log filter. -/
  logLevel : Option String := none
  deriving DecidableEq, Repr

namespace Choice

/-- What a layer and lower ones set together: each setting as the layer sets it, or else as the
lower ones do. -/
def onto (higher lower : Choice) : Choice where
  policyPath := higher.policyPath.or lower.policyPath
  flush := higher.flush.or lower.flush
  maxRecordBytes := higher.maxRecordBytes.or lower.maxRecordBytes
  logLevel := higher.logLevel.or lower.logLevel

theorem onto_assoc (a b c : Choice) : (a.onto b).onto c = a.onto (b.onto c) := by
  simp only [onto, Option.or_assoc]

/-- The settings with a default for each one that is not set. -/
def settings (choice : Choice) : Settings :=
  let default : Settings := {}
  { policyPath := choice.policyPath
    flush := choice.flush.getD default.flush
    maxRecordBytes := choice.maxRecordBytes.getD default.maxRecordBytes
    logLevel := choice.logLevel.getD default.logLevel }

/-- The value in a document for a setting, if it is set. -/
def toToml? (choice : Choice) : Setting → Option Toml.Value
  | .policyPath => choice.policyPath.map .text
  | .flush => choice.flush.map fun mode => .text mode.name
  | .maxRecordBytes => choice.maxRecordBytes.map fun count : Nat => .integer count
  | .logLevel => choice.logLevel.map .text

/-- A document says a choice: it has a field for each setting that is set and no other, in tables
for the sections. -/
structure SaidBy (choice : Choice) (sections : List (String × Toml.Value)) : Prop where
  tables : ∀ entry ∈ sections, entry.1 ∈ sectionNames ∧ ∃ fields, entry.2 = .table fields
  fields : ∀ place value,
    (∃ fields, (place.1, Toml.Value.table fields) ∈ sections ∧ (place.2, value) ∈ fields) ↔
      ∃ setting : Setting, setting.place = place ∧ choice.toToml? setting = some value

/-- The number of bytes that a choice has, if any, can be laid over others from a file. -/
def IsLayable (choice : Choice) : Prop :=
  ∀ count, choice.maxRecordBytes = some count → count < Nat.pow 2 63

/-- A text that reads neither as a boolean nor as a number. -/
structure IsWord (text : String) : Prop where
  not_true : text.toLower ≠ "true"
  not_false : text.toLower ≠ "false"
  not_integer : Decimal.integer? text.toList = none
  not_number : Binary64.ofText? text.toList = none

/-- The text of a variable says what a choice has for a setting. A number may be written with a sign
and with zeros in front. -/
def SaidByText (choice : Choice) (text : String) : Setting → Prop
  | .policyPath => choice.policyPath = some text ∧ IsWord text
  | .flush => choice.flush.map FlushMode.name = some text
  | .maxRecordBytes => ∃ count : Nat, choice.maxRecordBytes = some count ∧
      Decimal.integer? text.toList = some (count : Int) ∧ count < Nat.pow 2 63
  | .logLevel => choice.logLevel = some text ∧ IsWord text

/-- The environment says a choice: it has a variable for each setting that is set, and no other
whose name starts with the prefix in letters of either case. -/
structure SaidByVariables (choice : Choice) (environment : Environment) : Prop where
  only : ∀ entry ∈ environment,
    "attrgate_".toList <+: (Text.lowercase entry.1).toList →
      ∃ setting : Setting, setting.variableName = entry.1 ∧ choice.SaidByText entry.2 setting
  each : ∀ setting, (choice.toToml? setting).isSome →
    ∃ text, (setting.variableName, text) ∈ environment

end Choice

/-! ## What laying a choice over something comes to -/

/-- A change to the settings below lays values over them, setting by setting. -/
structure LaysValues (values : Setting → Option Raw) (change : Raw → Raw) : Prop where
  divided : ∀ target, Raw.IsDivided sectionNames target → Raw.IsDivided sectionNames (change target)
  at? : ∀ (target : Raw) (setting : Setting),
    (change target).at? setting.place = (values setting).or (target.at? setting.place)

namespace Choice

/-- The value of a setting before its type is known, if it is set. -/
def toRaw? (choice : Choice) : Setting → Option Raw
  | .policyPath => choice.policyPath.map .text
  | .flush => choice.flush.map fun mode => .text mode.name
  | .maxRecordBytes => choice.maxRecordBytes.map fun count : Nat => .integer count
  | .logLevel => choice.logLevel.map .text

theorem toRaw?_onto (higher lower : Choice) (setting : Setting) :
    (higher.onto lower).toRaw? setting = (higher.toRaw? setting).or (lower.toRaw? setting) := by
  cases setting <;> simp only [toRaw?, onto, Option.map_or]

theorem isPlain_of_toRaw? {choice : Choice} {setting : Setting} {value : Raw}
    (h : choice.toRaw? setting = some value) : Raw.IsPlain value := by
  cases setting with
  | policyPath =>
    obtain ⟨content, -, rfl⟩ := Option.map_eq_some_iff.1 h
    exact Raw.isPlain_text content
  | flush =>
    obtain ⟨mode, -, rfl⟩ := Option.map_eq_some_iff.1 h
    exact Raw.isPlain_text mode.name
  | maxRecordBytes =>
    obtain ⟨count, -, rfl⟩ := Option.map_eq_some_iff.1 h
    exact Raw.isPlain_integer count
  | logLevel =>
    obtain ⟨content, -, rfl⟩ := Option.map_eq_some_iff.1 h
    exact Raw.isPlain_text content

/-- A change to the settings below lays a choice over them. -/
structure Lays (choice : Choice) (change : Raw → Raw) : Prop where
  divided : ∀ target, Raw.IsDivided sectionNames target → Raw.IsDivided sectionNames (change target)
  at? : ∀ (target : Raw) (setting : Setting),
    (change target).at? setting.place = (choice.toRaw? setting).or (target.at? setting.place)

theorem lays_of_laysValues {choice : Choice} {change : Raw → Raw}
    (h : LaysValues choice.toRaw? change) : choice.Lays change := ⟨h.divided, h.at?⟩

theorem lays_nothing : Lays {} id := by
  refine ⟨fun _ h => h, fun target setting => ?_⟩
  cases setting <;> rfl

theorem Lays.onto {higher lower : Choice} {first second : Raw → Raw} (above : higher.Lays second)
    (below : lower.Lays first) : (higher.onto lower).Lays fun target => second (first target) := by
  refine ⟨fun target h => above.divided _ (below.divided target h), fun target setting => ?_⟩
  rw [above.at?, below.at?, toRaw?_onto, Option.or_assoc]

/-- Settings read as what a choice sets, with the defaults for the rest, if the value at each place
reads as what the choice sets there. -/
theorem settings?_of_reads {α : Type} {reading : Reading α} {value : α} {part : String → Fields α}
    {values : Setting → Option α} {choice : Choice} (divides : reading.Divides value part)
    (found : ∀ setting, (part setting.place.1).lookup setting.place.2 = values setting)
    (path : (values .policyPath).map reading.path? =
      choice.policyPath.map fun path => some (some path))
    (flush : (values .flush).map (fun value => (reading.word? value).bind FlushMode.ofName?) =
      choice.flush.map some)
    (count : (values .maxRecordBytes).map reading.natural? = choice.maxRecordBytes.map some)
    (level : (values .logLevel).map reading.text? = choice.logLevel.map some) :
    reading.settings? value = some choice.settings := by
  have elim : ∀ {β : Type} {value : Option α} {chosen : Option β} {default : β}
      {read : α → Option β}, value.map read = chosen.map some →
      value.elim (some default) read = some (chosen.getD default) := by
    intro β value chosen default read same
    have getD : value.elim (some default) read = (value.map read).getD (some default) := by
      cases value <;> rfl
    rw [getD, same]
    cases chosen <;> rfl
  have path_read : (values .policyPath).elim (some none) reading.path? =
      some choice.policyPath := by
    have getD : (values .policyPath).elim (some none) reading.path? =
        ((values .policyPath).map reading.path?).getD (some none) := by
      cases values .policyPath <;> rfl
    rw [getD, path]
    cases choice.policyPath <;> rfl
  have policyPath_found : (part "policy").lookup "path" = values .policyPath := found .policyPath
  have flush_found : (part "pipeline").lookup "flush" = values .flush := found .flush
  have count_found : (part "pipeline").lookup "max_record_bytes" = values .maxRecordBytes :=
    found .maxRecordBytes
  have level_found : (part "logging").lookup "level" = values .logLevel := found .logLevel
  rw [settings?_of_divides divides, policyPath_found, flush_found, count_found, level_found]
  simp only [path_read, elim flush, elim count, elim level]
  rfl

/-- Settings in which a choice stands read as what it sets. -/
theorem settings?_of_at? {choice : Choice} {target : Raw}
    (divided : Raw.IsDivided sectionNames target)
    (h : ∀ setting : Setting, target.at? setting.place = choice.toRaw? setting) :
    Reading.lenient.settings? target = some choice.settings := by
  refine settings?_of_reads (divides_lenient divided)
    (fun setting => (target.at?_eq_lookup_part setting.place).symm.trans (h setting)) ?_ ?_ ?_ ?_
  · rw [toRaw?, Option.map_map]
    rfl
  · rw [toRaw?, Option.map_map]
    exact congrArg (Option.map · choice.flush) (funext FlushMode.ofName?_name)
  · rw [toRaw?, Option.map_map]
    refine congrArg (Option.map · choice.maxRecordBytes) (funext fun count => ?_)
    simp [Reading.lenient, Raw.natural?]
  · rw [toRaw?, Option.map_map]
    rfl

/-! ### Sections -/

theorem isStep_of_mem_sectionNames {name : String} (h : name ∈ sectionNames) :
    Raw.IsStep name := by
  have each : ∀ name ∈ sectionNames, name.toList ≠ [] ∧ name.toList.all Step.isKeyChar = true := by
    decide
  exact Raw.isStep_of_all (each name h)

/-- A layer of sections has a field for each setting that is set and for no other setting; it may
have fields that are no settings. -/
structure LaidAmong (choice : Choice) (layer : Fields Raw) : Prop where
  tables : ∀ entry ∈ layer, entry.1 ∈ sectionNames ∧ ∃ fields, entry.2 = .table fields
  fields : ∀ (setting : Setting) value,
    (∃ fields, (setting.place.1, Raw.table fields) ∈ layer ∧ (setting.place.2, value) ∈ fields) ↔
      choice.toRaw? setting = some value

/-- Sections lay what they have for the settings over the settings below, whatever else is in
them. -/
theorem LaidAmong.lays {choice : Choice} {layer : Fields Raw} (h : choice.LaidAmong layer) :
    choice.Lays fun target => target.layLayer layer := by
  refine ⟨fun target => Raw.isDivided_layLayer fun entry among target divided => ?_,
    fun target setting => ?_⟩
  · obtain ⟨name, part, table⟩ := h.tables entry among
    rw [table]
    exact Raw.isDivided_layKey_section (isStep_of_mem_sectionNames name) divided
  · have each : ∀ entry ∈ layer, ∀ target : Raw,
        (target.layKey entry.1 entry.2).at? setting.place =
          ((Raw.placed entry.1 entry.2.entries).reverse.lookup setting.place).or
            (target.at? setting.place) := by
      rintro ⟨name, part⟩ among target
      obtain ⟨known, inner, rfl⟩ := h.tables _ among
      refine Raw.at?_layKey_section (isStep_of_mem_sectionNames known) fun field listed same => ?_
      obtain ⟨here, own⟩ := Prod.ext_iff.1 same
      have value := (h.fields setting field.2).1 ⟨inner, here ▸ among, own ▸ listed⟩
      exact isPlain_of_toRaw? value
    rw [Raw.at?_layLayer (fun entry => Raw.placed entry.1 entry.2.entries) each]
    congr 1
    refine Fields.lookup_eq_of_mem_iff fun value => ?_
    rw [List.mem_reverse, List.mem_flatMap, ← h.fields]
    constructor
    · rintro ⟨⟨name, part⟩, among, written⟩
      obtain ⟨-, inner, rfl⟩ := h.tables _ among
      obtain ⟨field, listed, same⟩ := List.mem_map.1 written
      obtain ⟨place_eq, rfl⟩ := Prod.ext_iff.1 same
      obtain ⟨here, own⟩ := Prod.ext_iff.1 place_eq
      exact ⟨inner, here ▸ among, own ▸ listed⟩
    · rintro ⟨inner, among, listed⟩
      exact ⟨_, among, List.mem_map.2 ⟨_, listed, rfl⟩⟩

/-- A layer of sections has a field for each setting that is set and no other. -/
structure LaidBy (choice : Choice) (layer : Fields Raw) : Prop where
  tables : ∀ entry ∈ layer, entry.1 ∈ sectionNames ∧ ∃ fields, entry.2 = .table fields
  fields : ∀ place value,
    (∃ fields, (place.1, Raw.table fields) ∈ layer ∧ (place.2, value) ∈ fields) ↔
      ∃ setting : Setting, setting.place = place ∧ choice.toRaw? setting = some value

theorem LaidBy.laidAmong {choice : Choice} {layer : Fields Raw} (h : choice.LaidBy layer) :
    choice.LaidAmong layer := by
  refine ⟨h.tables, fun setting value => (h.fields setting.place value).trans ⟨?_, ?_⟩⟩
  · rintro ⟨owner, place, set⟩
    obtain rfl := Setting.place_injective place
    exact set
  · exact fun set => ⟨setting, rfl, set⟩

theorem LaidBy.lays {choice : Choice} {layer : Fields Raw} (h : choice.LaidBy layer) :
    choice.Lays fun target => target.layLayer layer :=
  h.laidAmong.lays

/-! ### Defaults -/

/-- What settings set: all of them, except for a path that is missing. -/
def ofSettings (settings : Settings) : Choice where
  policyPath := settings.policyPath
  flush := some settings.flush
  maxRecordBytes := some settings.maxRecordBytes
  logLevel := some settings.logLevel

theorem laidBy_toLayer (settings : Settings) : (ofSettings settings).LaidBy (toLayer settings) := by
  refine ⟨fun entry among => ?_, fun place value => ?_⟩
  · simp only [toLayer, List.mem_cons, List.not_mem_nil, or_false] at among
    rcases among with rfl | rfl | rfl
    · exact ⟨List.mem_cons_self, _, rfl⟩
    · exact ⟨List.mem_cons_of_mem _ List.mem_cons_self, _, rfl⟩
    · exact ⟨List.mem_cons_of_mem _ (List.mem_cons_of_mem _ List.mem_cons_self), _, rfl⟩
  · obtain ⟨owner, name⟩ := place
    constructor
    · rintro ⟨fields, among, listed⟩
      simp only [toLayer, List.mem_cons, List.not_mem_nil, or_false, Prod.mk.injEq,
        Raw.table.injEq] at among
      rcases among with ⟨rfl, rfl⟩ | ⟨rfl, rfl⟩ | ⟨rfl, rfl⟩
      · cases path : settings.policyPath with
        | none =>
          simp only [path] at listed
          cases listed
        | some path' =>
          simp only [path, List.mem_singleton, Prod.mk.injEq] at listed
          obtain ⟨rfl, rfl⟩ := listed
          exact ⟨.policyPath, rfl, congrArg (Option.map Raw.text) path⟩
      · simp only [List.mem_cons, List.not_mem_nil, or_false, Prod.mk.injEq] at listed
        rcases listed with ⟨rfl, rfl⟩ | ⟨rfl, rfl⟩
        · exact ⟨.flush, rfl, rfl⟩
        · exact ⟨.maxRecordBytes, rfl, rfl⟩
      · simp only [List.mem_singleton, Prod.mk.injEq] at listed
        obtain ⟨rfl, rfl⟩ := listed
        exact ⟨.logLevel, rfl, rfl⟩
    · rintro ⟨setting, place, set⟩
      cases setting <;> cases place
      · obtain ⟨path, given, rfl⟩ := Option.map_eq_some_iff.1 set
        have given : settings.policyPath = some path := given
        refine ⟨_, List.mem_cons_self, ?_⟩
        simp only [given]
        exact List.mem_cons_self
      · obtain rfl := Option.some.inj set
        exact ⟨_, List.mem_cons_of_mem _ List.mem_cons_self, List.mem_cons_self⟩
      · obtain rfl := Option.some.inj set
        exact ⟨_, List.mem_cons_of_mem _ List.mem_cons_self,
          List.mem_cons_of_mem _ List.mem_cons_self⟩
      · obtain rfl := Option.some.inj set
        exact ⟨_, List.mem_cons_of_mem _ (List.mem_cons_of_mem _ List.mem_cons_self),
          List.mem_cons_self⟩

theorem settings_onto_ofSettings (choice : Choice) :
    (choice.onto (ofSettings {})).settings = choice.settings := by
  cases choice with
  | mk path flush count level =>
    cases path <;> cases flush <;> cases count <;> cases level <;> rfl

end Choice

end AccessStream.Settings
