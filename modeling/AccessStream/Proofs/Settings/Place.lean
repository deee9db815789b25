import AccessStream.Proofs.Fields
import AccessStream.Proofs.Text.Front
import AccessStream.Settings.Place
import Mathlib.Tactic.SplitIfs

/-!
# Layers over layers

What stands at a place, which is the name of a section and that of a field in it, after more has
been laid over a value: what came last for the place, or what stood there before
(`at?_layKey_section` for a table of a section, `at?_layKey_keyOf` for a key of two names,
`at?_layLayer` for a layer).
Settings that are divided into sections read as what stands at four places (`settings?_of_divides`).
-/

namespace AccessStream.Settings

/-- A place of a field: the name of its section and its own. -/
abbrev Place := String × String

open Fields (lookup_cons_ite readOr_eq_elim)

namespace Raw

variable {entries incoming layer : Fields Raw} {target value : Raw} {name other : String}
  {place : Place}

/-- What stands at a place. -/
def at? (target : Raw) (place : Place) : Option Raw :=
  (target.entries.lookup place.1).bind fun part => part.entries.lookup place.2

/-- A value that takes the place of whatever it is laid over. -/
def IsPlain (value : Raw) : Prop := ∀ target : Raw, target.lay value = value

theorem isPlain_text (content : String) : IsPlain (.text content) := fun _ => rfl

theorem isPlain_integer (n : Int) : IsPlain (.integer n) := fun _ => rfl

theorem lookup_replace :
    (replace entries name value).lookup other =
      if other = name then some value else entries.lookup other := by
  induction entries with
  | nil => rw [replace, lookup_cons_ite]
  | cons entry entries ih =>
    obtain ⟨first, found⟩ := entry
    rw [replace]
    by_cases here : first = name
    · rw [if_pos here, lookup_cons_ite, lookup_cons_ite, here]
      split_ifs <;> rfl
    · rw [if_neg here, lookup_cons_ite, lookup_cons_ite, ih]
      by_cases same : other = first
      · rw [if_pos same, if_neg (same ▸ here), if_pos same]
      · rw [if_neg same, if_neg same]

/-- Where only plain values are laid, what was laid last stands. -/
theorem lookup_layAll (plain : ∀ entry ∈ incoming, entry.1 = name → IsPlain entry.2) :
    (layAll entries incoming).lookup name =
      (incoming.reverse.lookup name).or (entries.lookup name) := by
  induction incoming generalizing entries with
  | nil => rfl
  | cons entry incoming ih =>
    obtain ⟨first, value⟩ := entry
    obtain ⟨here, later⟩ := List.forall_mem_cons.1 plain
    rw [layAll, ih later, lookup_replace, List.reverse_cons, List.lookup_append, Option.or_assoc,
      lookup_cons_ite]
    split_ifs with same
    · rw [here same.symm]
      rfl
    · rfl

/-! ## Keys -/

/-- A name that a key with points can be made of. -/
def IsStep (name : String) : Prop :=
  name.toList ≠ [] ∧ ∀ c ∈ name.toList, Step.isKeyChar c = true

theorem isStep_of_all (h : name.toList ≠ [] ∧ name.toList.all Step.isKeyChar = true) :
    IsStep name :=
  ⟨h.1, List.all_eq_true.1 h.2⟩

theorem exists_cons_of_isStep (h : IsStep name) : ∃ c more, name.toList = c :: more :=
  List.exists_cons_of_ne_nil h.1

theorem layKey_of_read? (h : IsStep name) {rest : List Char} {steps : List Step}
    (stops : Stops Step.isKeyChar rest) (read : Step.read? rest = some steps) :
    target.layKey (String.ofList (name.toList ++ rest)) value =
      target.layAt value (.name name :: steps) := by
  obtain ⟨c, more, cons⟩ := exists_cons_of_isStep h
  have front : (name.toList ++ rest).takeWhile Step.isKeyChar = name.toList :=
    takeWhile_front h.2 stops
  have back : (name.toList ++ rest).dropWhile Step.isKeyChar = rest := dropWhile_front h.2 stops
  rw [layKey, String.toList_ofList, front, back, read, String.ofList_toList, cons]

theorem layKey_of_isStep (h : IsStep name) :
    target.layKey name value = target.layAt value [.name name] := by
  have read : Step.read? [] = some [] := by rw [Step.read?]
  have whole : target.layKey (String.ofList (name.toList ++ [])) value =
      target.layAt value [.name name] := layKey_of_read? h stops_nil read
  rwa [List.append_nil, String.ofList_toList] at whole

/-- The key of a place. -/
def keyOf (place : Place) : String := place.1 ++ "." ++ place.2

theorem layKey_keyOf (first : IsStep place.1) (second : IsStep place.2) :
    target.layKey (keyOf place) value = target.layAt value [.name place.1, .name place.2] := by
  have read : Step.read? ('.' :: place.2.toList) = some [.name place.2] := by
    obtain ⟨c, more, cons⟩ := exists_cons_of_isStep second
    have front : place.2.toList.takeWhile Step.isKeyChar = place.2.toList := by
      simpa using takeWhile_front second.2 (stops_nil (p := Step.isKeyChar))
    have back : place.2.toList.dropWhile Step.isKeyChar = [] := by
      simpa using dropWhile_front second.2 (stops_nil (p := Step.isKeyChar))
    have done : Step.read? [] = some [] := by rw [Step.read?]
    rw [Step.read?]
    simp only [front, back, done, String.ofList_toList]
    simp [cons]
  have key : keyOf place = String.ofList (place.1.toList ++ '.' :: place.2.toList) := by
    rw [← String.toList_inj, keyOf]
    simp
  have point : Step.isKeyChar '.' = false := by decide
  rw [key]
  exact layKey_of_read? first (stops_cons point _) read

/-! ## What a layer changes -/

/-- The fields of a section with their places. -/
def placed (name : String) (fields : Fields Raw) : List (Place × Raw) :=
  fields.map fun field => ((name, field.1), field.2)

theorem lookup_placed (fields : Fields Raw) :
    (placed name fields).lookup place =
      if place.1 = name then fields.lookup place.2 else none := by
  induction fields with
  | nil => simp [placed]
  | cons field fields ih =>
    have tail : placed name (field :: fields) = ((name, field.1), field.2) :: placed name fields :=
      rfl
    rw [tail, lookup_cons_ite, ih, lookup_cons_ite]
    by_cases here : place.1 = name
    · simp [Prod.ext_iff, here]
    · simp [Prod.ext_iff, here]

theorem reverse_placed (fields : Fields Raw) :
    (placed name fields).reverse = placed name fields.reverse := by
  rw [placed, placed, List.map_reverse]

/-- Fields that are laid over a section change what stands at their places. -/
theorem at?_layKey_section {fields : Fields Raw} (step : IsStep name)
    (plain : ∀ field ∈ fields, (name, field.1) = place → IsPlain field.2) :
    (target.layKey name (.table fields)).at? place =
      ((placed name fields).reverse.lookup place).or (target.at? place) := by
  have laid : (target.layKey name (.table fields)).entries = replace target.entries name
      (.table (layAll ((target.entries.lookup name).getD .null).entries fields)) := by
    rw [layKey_of_isStep step]
    rfl
  rw [at?, laid, lookup_replace, reverse_placed, lookup_placed]
  by_cases here : place.1 = name
  · rw [if_pos here, if_pos here, Option.bind_some, at?, here]
    have inner : ∀ field ∈ fields, field.1 = place.2 → IsPlain field.2 :=
      fun field listed own => plain field listed (Prod.ext here.symm own)
    refine (lookup_layAll inner).trans ?_
    cases target.entries.lookup name <;> rfl
  · rw [if_neg here, if_neg here, Option.none_or, at?]

/-- A value that is laid over a place stands there. -/
theorem at?_layKey_keyOf {written : Place} (first : IsStep written.1) (second : IsStep written.2)
    (plain : IsPlain value) :
    (target.layKey (keyOf written) value).at? place =
      if place = written then some value else target.at? place := by
  have laid : (target.layKey (keyOf written) value).entries = replace target.entries written.1
      (.table
        (replace ((target.entries.lookup written.1).getD .null).entries written.2 value)) := by
    rw [layKey_keyOf first second]
    simp only [layAt, changeAt, plain _, entries]
  rw [at?, laid, lookup_replace]
  by_cases here : place.1 = written.1
  · rw [if_pos here, Option.bind_some, entries, lookup_replace]
    by_cases same : place.2 = written.2
    · rw [if_pos same, if_pos (Prod.ext here same)]
    · have other : place ≠ written := fun equal => same (congrArg Prod.snd equal)
      rw [if_neg same, if_neg other, at?, here]
      cases target.entries.lookup written.1 <;> rfl
  · have other : place ≠ written := fun equal => here (congrArg Prod.fst equal)
    rw [if_neg here, if_neg other, at?]

/-- A layer changes what stands at the places that its entries write, one after the other. -/
theorem at?_layLayer (writes : String × Raw → List (Place × Raw))
    (each : ∀ entry ∈ layer, ∀ target : Raw, (target.layKey entry.1 entry.2).at? place =
      ((writes entry).reverse.lookup place).or (target.at? place)) :
    (target.layLayer layer).at? place =
      ((layer.flatMap writes).reverse.lookup place).or (target.at? place) := by
  induction layer generalizing target with
  | nil => rfl
  | cons entry layer ih =>
    obtain ⟨first, others⟩ := List.forall_mem_cons.1 each
    have step : target.layLayer (entry :: layer) =
        (target.layKey entry.1 entry.2).layLayer layer := rfl
    rw [step, ih others, first, List.flatMap_cons, List.reverse_append, List.lookup_append,
      Option.or_assoc]

/-! ## Sections -/

/-- A table in which nothing but tables stands under the names of sections. -/
structure IsDivided (names : List String) (target : Raw) : Prop where
  table : ∃ entries, target = .table entries
  parts : ∀ name ∈ names, ∀ part, target.entries.lookup name = some part →
    ∃ fields, part = .table fields

theorem isDivided_replace {names : List String} {fields : Fields Raw}
    (h : IsDivided names target) :
    IsDivided names (.table (replace target.entries name (.table fields))) := by
  refine ⟨⟨_, rfl⟩, fun other among part found => ?_⟩
  rw [Raw.entries, lookup_replace] at found
  split_ifs at found
  · exact ⟨fields, (Option.some.inj found).symm⟩
  · exact h.parts other among part found

theorem isDivided_layKey_section {names : List String} {fields : Fields Raw} (step : IsStep name)
    (h : IsDivided names target) : IsDivided names (target.layKey name (.table fields)) := by
  rw [layKey_of_isStep step]
  exact isDivided_replace h

theorem isDivided_layKey_keyOf {names : List String} (first : IsStep place.1)
    (second : IsStep place.2) (h : IsDivided names target) :
    IsDivided names (target.layKey (keyOf place) value) := by
  rw [layKey_keyOf first second]
  exact isDivided_replace h

theorem isDivided_layLayer {names : List String}
    (each : ∀ entry ∈ layer, ∀ target, IsDivided names target →
      IsDivided names (target.layKey entry.1 entry.2))
    (h : IsDivided names target) : IsDivided names (target.layLayer layer) := by
  induction layer generalizing target with
  | nil => exact h
  | cons entry layer ih =>
    obtain ⟨first, others⟩ := List.forall_mem_cons.1 each
    exact ih others (first target h)

end Raw

/-! ## Reading -/

/-- The names of the sections. -/
def sectionNames : List String := ["policy", "pipeline", "logging"]

/-- What stands under the name of a section, if it is a table, and else no fields. -/
def Raw.part (target : Raw) (name : String) : Fields Raw :=
  ((target.entries.lookup name).getD .null).entries

theorem Raw.at?_eq_lookup_part (target : Raw) (place : Place) :
    target.at? place = (target.part place.1).lookup place.2 := by
  rw [at?, part]
  cases target.entries.lookup place.1 <;> rfl

/-- A value reads as a record of sections, and each section that is there as a record with the given
fields, of which a section that is missing has none. -/
def Reading.Divides {α : Type} (reading : Reading α) (value : α) (part : String → Fields α) :
    Prop :=
  ∃ sections, reading.fields? sectionNames value = some sections ∧
    ∀ name ∈ sectionNames,
      (sections.lookup name).elim (part name = []) fun found =>
        ∀ names, reading.fields? names found = some (part name)

section Reads

variable {α : Type} {reading : Reading α} {value : α} {part : String → Fields α}

/-- The settings that are read from sections are told by what stands at four places. -/
theorem settings?_of_divides (divides : reading.Divides value part) :
    reading.settings? value = do
      let default : Settings := {}
      let policyPath ← ((part "policy").lookup "path").elim (some none) reading.path?
      let flush ← ((part "pipeline").lookup "flush").elim (some default.flush)
        fun value => (reading.word? value).bind FlushMode.ofName?
      let maxRecordBytes ← ((part "pipeline").lookup "max_record_bytes").elim
        (some default.maxRecordBytes) reading.natural?
      let logLevel ← ((part "logging").lookup "level").elim (some default.logLevel) reading.text?
      return { policyPath, flush, maxRecordBytes, logLevel } := by
  obtain ⟨sections, whole, parts⟩ := divides
  have section_read : ∀ {β : Type} {name : String} {names : List String} {default : β}
      {read : Fields α → Option β}, name ∈ sectionNames → read [] = some default →
      (sections.readOr name default fun value => (reading.fields? names value).bind read) =
        read (part name) := by
    intro β name names default read among empty
    have here := parts name among
    rw [readOr_eq_elim]
    cases found : sections.lookup name with
    | none =>
      rw [found] at here
      rw [show part name = [] from here, empty]
      rfl
    | some field =>
      rw [found] at here
      simp only [Option.elim_some, here names, Option.bind_some]
  have policy : sections.readOr "policy" none reading.policyPath? =
      (part "policy").readOr "path" none reading.path? := section_read (by decide) rfl
  have stream : sections.readOr "pipeline" {} reading.stream? = do
      let default : StreamOptions := {}
      let flush ← (part "pipeline").readOr "flush" default.flush fun value =>
        (reading.word? value).bind FlushMode.ofName?
      let maxRecordBytes ← (part "pipeline").readOr "max_record_bytes" default.maxRecordBytes
        reading.natural?
      return { flush, maxRecordBytes } := section_read (by decide) rfl
  have logging : sections.readOr "logging" "info" reading.logLevel? =
      (part "logging").readOr "level" "info" reading.text? := section_read (by decide) rfl
  rw [sectionNames] at whole
  simp only [← readOr_eq_elim]
  simp only [Reading.settings?, whole, policy, stream, logging, Option.bind_eq_bind,
    Option.bind_some, Option.pure_def, Option.bind_assoc]

end Reads

theorem divides_lenient {target : Raw} (h : Raw.IsDivided sectionNames target) :
    Reading.lenient.Divides target target.part := by
  refine ⟨target.entries, ?_, fun name among => ?_⟩
  · obtain ⟨entries, rfl⟩ := h.table
    rfl
  · rw [Raw.part]
    cases found : target.entries.lookup name with
    | none => rfl
    | some part =>
      obtain ⟨fields, rfl⟩ := h.parts name among part found
      exact fun names => rfl

end AccessStream.Settings
