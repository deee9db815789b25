import AccessStream.Proofs.Settings.Variables
import AccessStream.Proofs.Text.Utf8
import AccessStream.Proofs.Toml.Document
import AccessStream.Settings.Layers

/-!
# Which layer a setting comes from

Each layer may set some of the settings: a file by its document, and the environment by its
variables. Loading takes each setting from the highest layer that sets it, whatever the other layers
say and whether what they say could work (`load_of_choices`). Only what comes out of all layers is
checked.
-/

namespace AccessStream.Settings

open Toml (Value)

/-- What the file of a layer sets: nothing if the file does not count, has no place or is not there,
and else what its document says, if that can be laid over others. -/
inductive Layer.Sets (find : String → Found) (environment : Environment) (options : LayerOptions) :
    Layer → Choice → Prop
  | excluded : options.includesUser = false → Sets find environment options .user {}
  | placeless {layer : Layer} :
      layer.path? environment options = none → Sets find environment options layer {}
  | missing {layer : Layer} {path : String} :
      layer.path? environment options = some path → find path = .nothing →
      Sets find environment options layer {}
  | file {layer : Layer} {path : String} {content : Bytes}
      {sections : List (String × Toml.Value)} {choice : Choice} :
      (layer = .user → options.includesUser = true) →
      layer.path? environment options = some path → find path = .file content →
      Toml.read? (Utf8.decodeLossy (dropMark content)) .extensible = some (.table sections) →
      choice.SaidBy sections → choice.IsLayable → Sets find environment options layer choice

/-! ## Files -/

/-- The path of the file of a layer, if the file counts and has one. -/
def Layer.paths (environment : Environment) (options : LayerOptions) (layer : Layer) :
    List String :=
  if layer ≠ .user || options.includesUser then (layer.path? environment options).toList else []

theorem layerPaths_eq (options : LayerOptions) (environment : Environment) :
    layerPaths options environment = Layer.all.flatMap (Layer.paths environment options) := by
  rw [layerPaths]
  induction Layer.all with
  | nil => rfl
  | cons layer layers ih =>
    rw [List.flatMap_cons, ← ih, Layer.paths, List.filter_cons]
    split_ifs
    · rw [List.filterMap_cons]
      cases layer.path? environment options <;> rfl
    · rfl

section

variable {find : String → Found} {path : String}

theorem findLayer_of_file {content : Bytes} (h : find path = .file content) :
    Id.run (findLayer find path) = some content := by
  simp only [findLayer, Id.run_bind]
  simp only [Id.run, h]
  rfl

theorem findLayer_of_nothing (h : find path = .nothing) : Id.run (findLayer find path) = none := by
  simp only [findLayer, Id.run_bind]
  simp only [Id.run, h]
  rfl

theorem findLayers_singleton :
    Id.run (findLayers find [path]) = (Id.run (findLayer find path)).toList :=
  List.append_nil _

end

theorem findLayers_append (find : String → Found) (paths more : List String) :
    Id.run (findLayers find (paths ++ more)) =
      Id.run (findLayers find paths) ++ Id.run (findLayers find more) := by
  induction paths with
  | nil => rfl
  | cons path paths ih =>
    have step : ∀ others, Id.run (findLayers find (path :: others)) =
        (Id.run (findLayer find path)).toList ++ Id.run (findLayers find others) := fun _ => rfl
    rw [List.cons_append, step, step, ih, List.append_assoc]

theorem findLayers_flatMap (find : String → Found) {α : Type} (paths : α → List String)
    (items : List α) :
    Id.run (findLayers find (items.flatMap paths)) =
      items.flatMap fun item => Id.run (findLayers find (paths item)) := by
  induction items with
  | nil => rfl
  | cons item items ih => rw [List.flatMap_cons, List.flatMap_cons, findLayers_append, ih]

/-- The files of a layer can be read, and lay what a choice sets over the settings below. -/
def Layer.Gives (find : String → Found) (environment : Environment) (options : LayerOptions)
    (layer : Layer) (choice : Choice) : Prop :=
  ∃ layers : List (Fields Raw),
    (Id.run (findLayers find (layer.paths environment options))).mapM layerOfFile? = some layers ∧
      choice.Lays fun target => layers.foldl Raw.layLayer target

section Files

variable {find : String → Found} {environment : Environment} {options : LayerOptions}
  {layer : Layer} {choice : Choice} {path : String}

theorem Layer.gives_of_file {content : Bytes} {fields : Fields Raw}
    (counts : layer = .user → options.includesUser = true)
    (place : layer.path? environment options = some path)
    (file : find path = .file content) (read : layerOfFile? content = some fields)
    (lays : choice.Lays fun target => target.layLayer fields) :
    layer.Gives find environment options choice := by
  have counted : (decide (layer ≠ .user) || options.includesUser) = true := by
    by_cases user : layer = .user
    · rw [counts user, Bool.or_true]
    · rw [decide_eq_true user, Bool.true_or]
  refine ⟨[fields], ?_, lays⟩
  rw [Layer.paths, if_pos counted, place, Option.toList_some, findLayers_singleton,
    findLayer_of_file file, Option.toList_some]
  simp only [List.mapM_cons, read]
  rfl

/-- The file of a layer lays what it sets over the settings below. -/
theorem Layer.Sets.gives (h : layer.Sets find environment options choice) :
    layer.Gives find environment options choice := by
  cases h with
  | excluded out =>
    refine ⟨[], ?_, Choice.lays_nothing⟩
    rw [Layer.paths, out]
    rfl
  | placeless place =>
    refine ⟨[], ?_, Choice.lays_nothing⟩
    rw [Layer.paths, place]
    split_ifs <;> rfl
  | missing place nothing =>
    refine ⟨[], ?_, Choice.lays_nothing⟩
    rw [Layer.paths, place]
    split_ifs
    · rw [Option.toList_some, findLayers_singleton, findLayer_of_nothing nothing]
      rfl
    · rfl
  | file counts place file document said range =>
    obtain ⟨fields, readable, lays⟩ := Choice.exists_layer_of_saidBy said range
    refine gives_of_file counts place file ?_ lays
    simp only [layerOfFile?, document, Option.bind_eq_bind, Option.bind_some, readable]

end Files

/-- The mark in front of a text is dropped from its bytes as from its characters. -/
theorem dropMark_ofChars (cs : List Char) :
    dropMark (Utf8.ofChars cs) = Utf8.ofChars (Toml.dropMark cs) := by
  have mark : String.utf8EncodeChar '\uFEFF' = [0xEF, 0xBB, 0xBF] := by decide
  rw [Toml.dropMark.eq_def]
  split
  · rw [Utf8.ofChars_cons, mark]
    rfl
  · rename_i unmarked
    rw [dropMark.eq_def]
    split
    · rename_i rest bytes
      cases cs with
      | nil => cases bytes
      | cons c cs =>
        rw [Utf8.ofChars_cons] at bytes
        have front : String.utf8EncodeChar c ++ Utf8.ofChars cs =
            String.utf8EncodeChar '\uFEFF' ++ rest := bytes.trans (by rw [mark]; rfl)
        obtain ⟨rfl, -⟩ := Utf8.encodeChar_append_inj front
        exact absurd rfl (unmarked cs)
    · rfl

/-- A document can be read from its bytes, whether there is a mark in front or not. -/
theorem read?_dropMark {text : String} {dialect : Toml.Dialect} {document : Value}
    (read : Toml.read? text dialect = some document) :
    Toml.read? (Utf8.decodeLossy (dropMark (Utf8.encode text))) dialect = some document := by
  have chars : dropMark (Utf8.encode text) =
      Utf8.encode (String.ofList (Toml.dropMark text.toList)) := by
    rw [Utf8.encode_ofList, ← dropMark_ofChars, ← Utf8.encode_ofList, String.ofList_toList]
  rw [chars, Utf8.decodeLossy_encode, Toml.read?, String.toList_ofList,
    Toml.dropMark_dropMark read]
  exact read
/-! ## Documents of one field -/

namespace Choice

/-- A document of one field says the choice of one setting. -/
theorem saidBy_field {choice : Choice} {owner : Setting} {value : Value}
    (set : choice.toToml? owner = some value)
    (only : ∀ other, (choice.toToml? other).isSome → other = owner) :
    choice.SaidBy [(owner.place.1, .table [(owner.place.2, value)])] := by
  refine ⟨fun entry among => ?_, fun place other => ⟨?_, ?_⟩⟩
  · obtain rfl := List.mem_singleton.1 among
    have known : owner.place.1 ∈ sectionNames := by cases owner <;> decide
    exact ⟨known, _, rfl⟩
  · rintro ⟨fields, among, listed⟩
    obtain ⟨part, inner⟩ := Prod.ext_iff.1 (List.mem_singleton.1 among)
    obtain rfl := Value.table.inj inner
    obtain ⟨name, rfl⟩ := Prod.ext_iff.1 (List.mem_singleton.1 listed)
    have same : place = owner.place := Prod.ext part name
    exact ⟨owner, same.symm, set⟩
  · rintro ⟨setting, rfl, other_set⟩
    obtain rfl := only setting (Option.isSome_of_eq_some other_set)
    obtain rfl := Option.some.inj (set.symm.trans other_set)
    exact ⟨_, List.mem_singleton_self _, List.mem_singleton_self _⟩

end Choice

/-- A document of one field. -/
def fieldDocument (owner : Setting) (value : Value) : String :=
  Toml.write [] [⟨false, [owner.place.1], [([owner.place.2], value)]⟩]

theorem read?_fieldDocument (owner : Setting) {value : Value}
    (writable : value.Writable Value.maxDepth) :
    Toml.read? (fieldDocument owner value) .extensible =
      some (.table [(owner.place.1, .table [(owner.place.2, value)])]) := by
  rw [fieldDocument, Toml.read?_write]
  · cases owner <;> rfl
  · exact nofun
  · intro written among
    obtain rfl := List.mem_singleton.1 among
    have bare : Toml.Key.IsBare owner.place.1 ∧ Toml.Key.IsBare owner.place.2 := by
      cases owner <;> decide
    refine ⟨Toml.Key.writable_singleton bare.1, fun pair listed => ?_⟩
    obtain rfl := List.mem_singleton.1 listed
    exact ⟨Toml.Key.writable_singleton bare.2, writable⟩

theorem Layer.Sets.fieldDocument {find : String → Found} {environment : Environment}
    {options : LayerOptions} {layer : Layer} {choice : Choice} (path : String) (owner : Setting)
    (value : Value) (counts : layer = .user → options.includesUser = true)
    (place : layer.path? environment options = some path)
    (file : find path = .file (Utf8.encode (fieldDocument owner value)))
    (writable : value.Writable Value.maxDepth) (set : choice.toToml? owner = some value)
    (only : ∀ other, (choice.toToml? other).isSome → other = owner) (range : choice.IsLayable) :
    layer.Sets find environment options choice :=
  .file counts place file (read?_dropMark (read?_fieldDocument owner writable))
    (Choice.saidBy_field set only) range

/-! ## Loading -/

/-- Only the settings that come out are checked, and a path does not matter for it. -/
theorem checked_resolve {ε : Type} (wrap : Flaw → ε) (settings : Settings) (base : String) :
    (settings.resolve base).checked.mapError wrap =
      if settings.maxRecordBytes = 0 then .error (wrap .zeroLimit)
      else if Text.isBlank settings.logLevel then .error (wrap .blankLevel)
      else .ok (settings.resolve base) := by
  have flaw : (settings.resolve base).flaw? = settings.flaw? := rfl
  rw [checked, flaw, flaw?]
  split_ifs <;> rfl

section Loading

variable {find : String → Found} {environment : Environment} {options : LayerOptions}
  {user project checkout : Choice}

/-- The layers of files lay what they set over each other and over the defaults. The environment
comes on top, and what it all reads as is loaded. -/
theorem load_of_gives (prefixed : options.variablePrefix = "ATTRGATE")
    (user_gives : Layer.user.Gives find environment options user)
    (project_gives : Layer.project.Gives find environment options project)
    (checkout_gives : Layer.checkout.Gives find environment options checkout) :
    ∃ below : Raw, Raw.IsDivided sectionNames below ∧
      (∀ setting : Setting, below.at? setting.place =
        (checkout.onto (project.onto (user.onto (Choice.ofSettings {})))).toRaw? setting) ∧
      ∀ merged : Settings,
        Reading.lenient.settings? (below.layLayer (ofEnvironment "ATTRGATE" environment)) =
          some merged →
        Id.run (load find environment options) =
          if merged.maxRecordBytes = 0 then .error (.flawed .zeroLimit)
          else if Text.isBlank merged.logLevel then .error (.flawed .blankLevel)
          else .ok { merged with
            policyPath := merged.policyPath.map (Path.join options.projectDirectory) } := by
  obtain ⟨users, users_read, users_lay⟩ := user_gives
  obtain ⟨projects, projects_read, projects_lay⟩ := project_gives
  obtain ⟨checkouts, checkouts_read, checkouts_lay⟩ := checkout_gives
  have files : (Id.run (findLayers find (layerPaths options environment))).mapM layerOfFile? =
      some (users ++ (projects ++ checkouts)) := by
    rw [layerPaths_eq, findLayers_flatMap]
    simp only [Layer.all, List.flatMap_cons, List.flatMap_nil, List.append_nil, List.mapM_append,
      users_read, projects_read, checkouts_read]
    rfl
  have laid := checkouts_lay.onto (projects_lay.onto
    (users_lay.onto (Choice.laidBy_toLayer {}).lays))
  have empty : Raw.IsDivided sectionNames (.table []) := ⟨⟨[], rfl⟩, fun _ _ _ => nofun⟩
  refine ⟨_, laid.divided _ empty, fun setting => ?_, fun merged read => ?_⟩
  · rw [laid.at?]
    exact Option.or_none
  · have loaded : Id.run (load find environment options) =
        ofLayers options environment (Id.run (findLayers find (layerPaths options environment))) :=
      rfl
    have folded : (users ++ (projects ++ checkouts)).foldl Raw.layLayer
        (Raw.layLayer (.table []) (toLayer {})) = checkouts.foldl Raw.layLayer
          (projects.foldl Raw.layLayer (users.foldl Raw.layLayer
            (Raw.layLayer (.table []) (toLayer {})))) := by
      rw [List.foldl_append, List.foldl_append]
    rw [loaded, ofLayers, files, prefixed]
    simp only [folded, read]
    exact checked_resolve LayerError.flawed merged options.projectDirectory

/-- What the layers of files and the variables set comes from the highest of them. -/
theorem load_of_gives_of_variables {outer : Choice} (prefixed : options.variablePrefix = "ATTRGATE")
    (user_gives : Layer.user.Gives find environment options user)
    (project_gives : Layer.project.Gives find environment options project)
    (checkout_gives : Layer.checkout.Gives find environment options checkout)
    (said : outer.SaidByVariables environment) :
    let merged := (outer.onto (checkout.onto (project.onto user))).settings
    Id.run (load find environment options) =
      if merged.maxRecordBytes = 0 then .error (.flawed .zeroLimit)
      else if Text.isBlank merged.logLevel then .error (.flawed .blankLevel)
      else .ok { merged with
        policyPath := merged.policyPath.map (Path.join options.projectDirectory) } := by
  intro merged
  obtain ⟨below, divided, stands, loads⟩ :=
    load_of_gives prefixed user_gives project_gives checkout_gives
  have lays := Choice.lays_ofEnvironment said
  let chosen := outer.onto (checkout.onto (project.onto (user.onto (Choice.ofSettings {}))))
  have defaults : chosen.settings = merged := by
    simp only [chosen, merged, ← Choice.onto_assoc, Choice.settings_onto_ofSettings]
  refine loads merged ?_
  rw [← defaults]
  refine Choice.settings?_of_at? (lays.divided _ divided) fun setting => ?_
  rw [lays.at?, stands, ← Choice.toRaw?_onto]

end Loading

/-- Loading takes each setting from the highest layer that sets it, and checks only what comes out
of all layers. -/
theorem load_of_choices {find : String → Found} {environment : Environment} {options : LayerOptions}
    {user project checkout outer : Choice} (prefixed : options.variablePrefix = "ATTRGATE")
    (user_sets : Layer.user.Sets find environment options user)
    (project_sets : Layer.project.Sets find environment options project)
    (checkout_sets : Layer.checkout.Sets find environment options checkout)
    (said : outer.SaidByVariables environment) :
    let merged := (outer.onto (checkout.onto (project.onto user))).settings
    Id.run (load find environment options) =
      if merged.maxRecordBytes = 0 then .error (.flawed .zeroLimit)
      else if Text.isBlank merged.logLevel then .error (.flawed .blankLevel)
      else .ok { merged with
        policyPath := merged.policyPath.map (Path.join options.projectDirectory) } :=
  load_of_gives_of_variables prefixed user_sets.gives project_sets.gives checkout_sets.gives said

/-- Bad values in lower layers do not matter under a layer that sets the same setting. -/
theorem load_of_overridden_flaws :
    let find : String → Found := fun path =>
      if path = "/home/user/.config/attrgate/config.toml" then
        .file (Utf8.encode (fieldDocument .logLevel (.text " ")))
      else if path = "/work/attrgate.toml" then
        .file (Utf8.encode (fieldDocument .maxRecordBytes (.integer 0)))
      else if path = "/work/attrgate.local.toml" then
        .file (Utf8.encode (fieldDocument .policyPath (.text "rules.toml")))
      else .nothing
    let environment := [("HOME", "/home/user"), ("ATTRGATE_PIPELINE__MAX_RECORD_BYTES", "+0512"),
      ("ATTRGATE_LOGGING__LEVEL", "debug")]
    Id.run (load find environment { projectDirectory := "/work" }) = .ok
      { policyPath := some "/work/rules.toml", maxRecordBytes := 512, logLevel := "debug" } := by
  intro find environment
  let options : LayerOptions := { projectDirectory := "/work" }
  have user : Layer.user.Sets find environment options { logLevel := some " " } := by
    refine .fieldDocument "/home/user/.config/attrgate/config.toml" .logLevel (.text " ")
      (fun _ => rfl) (by decide +kernel) rfl (.text _ " ") rfl ?_ nofun
    intro other given
    cases other <;> first | rfl | cases given
  have project : Layer.project.Sets find environment options { maxRecordBytes := some 0 } := by
    refine .fieldDocument "/work/attrgate.toml" .maxRecordBytes (.integer 0) nofun
      (by decide +kernel) rfl (.integer _ (by decide)) rfl ?_ ?_
    · intro other given
      cases other <;> first | rfl | cases given
    · rintro _ ⟨⟩
      decide
  have checkout : Layer.checkout.Sets find environment options
      { policyPath := some "rules.toml" } := by
    refine .fieldDocument "/work/attrgate.local.toml" .policyPath (.text "rules.toml") nofun
      (by decide +kernel) rfl (.text _ "rules.toml") rfl ?_ nofun
    intro other given
    cases other <;> first | rfl | cases given
  have outer : Choice.SaidByVariables
      { maxRecordBytes := some 512, logLevel := some "debug" } environment := by
    constructor
    · intro entry among start
      simp only [environment, List.mem_cons, List.not_mem_nil, or_false] at among
      rcases among with rfl | rfl | rfl
      · have other : ¬ "attrgate_".toList <+: (Text.lowercase "HOME").toList := by decide +kernel
        exact absurd start other
      · exact ⟨.maxRecordBytes, rfl, 512, rfl, by decide +kernel, by decide⟩
      · have word : Choice.IsWord "debug" :=
          ⟨by decide +kernel, by decide +kernel, by decide +kernel, by decide +kernel⟩
        exact ⟨.logLevel, rfl, rfl, word⟩
    · intro setting set
      cases setting with
      | policyPath => cases set
      | flush => cases set
      | maxRecordBytes => exact ⟨"+0512", by simp [environment, Setting.variableName]⟩
      | logLevel => exact ⟨"debug", by simp [environment, Setting.variableName]⟩
  refine (load_of_choices rfl user project checkout outer).trans ?_
  decide +kernel

/-- A file can say a number of bytes that cannot be laid over others. Then nothing is loaded, though
the settings would not be flawed. -/
theorem load_of_unlayable_count :
    let choice : Choice := { maxRecordBytes := some (Nat.pow 2 63) }
    let text := "\n[pipeline]\nmax_record_bytes = 9223372036854775808\n"
    let find : String → Found := fun path =>
      if path = "/work/attrgate.toml" then .file (Utf8.encode text) else .nothing
    (∃ sections, Toml.read? text .extensible = some (.table sections) ∧ choice.SaidBy sections) ∧
      choice.settings.maxRecordBytes ≠ 0 ∧ Text.isBlank choice.settings.logLevel = false ∧
      Id.run (load find [] { projectDirectory := "/work" }) = .error .unbuildable := by
  intro choice text find
  have written : fieldDocument .maxRecordBytes (.integer (Nat.pow 2 63)) = text := by
    decide +kernel
  have readable : Toml.Word.isReadable (Nat.pow 2 63) = true := by decide
  have read := read?_fieldDocument .maxRecordBytes (.integer _ readable)
  rw [written] at read
  have set : choice.toToml? .maxRecordBytes = some (.integer (Nat.pow 2 63)) := rfl
  have said := Choice.saidBy_field set fun other given => by
    cases other <;> first | rfl | cases given
  exact ⟨⟨_, read, said⟩, by decide, by decide, by decide +kernel⟩

end AccessStream.Settings
