import AccessStream.Proofs.Decimal
import AccessStream.Proofs.Settings.Documents
import AccessStream.Settings.Environment

/-!
# Variables as a layer

The environment lays over the settings below what the texts of its variables are taken for
(`GivesValues.lays`). If they say a choice, it is this choice (`Choice.lays_ofEnvironment`).
-/

namespace AccessStream.Settings

theorem Raw.isPlain_ofVariable (text : String) : IsPlain (ofVariable text) := by
  rw [ofVariable]
  split_ifs
  · exact fun _ => rfl
  · exact fun _ => rfl
  · cases integer? text.toList with
    | some value => exact isPlain_integer value
    | none => cases Binary64.ofText? text.toList <;> exact fun _ => rfl

/-- The environment gives values for settings: it has a variable for each setting with a value, as
which its text is taken, and no other whose name starts with the prefix in letters of either
case. -/
structure GivesValues (values : Setting → Option Raw) (environment : Environment) : Prop where
  only : ∀ entry ∈ environment,
    "attrgate_".toList <+: (Text.lowercase entry.1).toList →
      ∃ setting : Setting, setting.variableName = entry.1 ∧
        values setting = some (Raw.ofVariable entry.2)
  each : ∀ setting, (values setting).isSome →
    ∃ text, (setting.variableName, text) ∈ environment

namespace GivesValues

variable {values : Setting → Option Raw} {environment : Environment}

/-- The entries of the environment's layer are the values that it gives, at their keys. -/
theorem mem_ofEnvironment (gives : GivesValues values environment) {entry : String × Raw} :
    entry ∈ ofEnvironment "ATTRGATE" environment ↔
      ∃ setting : Setting, entry.1 = Raw.keyOf setting.place ∧ values setting = some entry.2 := by
  rw [ofEnvironment, List.mem_filterMap]
  constructor
  · rintro ⟨⟨name, text⟩, among, layered⟩
    obtain ⟨key, keyed, rfl⟩ := Option.map_eq_some_iff.1 layered
    have start : (Text.lowercase ("ATTRGATE" ++ "_")).toList = "attrgate_".toList := by
      decide +kernel
    have front : "attrgate_".toList <+: (Text.lowercase name).toList := by
      rw [keyOfVariable?] at keyed
      split_ifs at keyed with front
      rwa [start, List.isPrefixOf_iff_prefix] at front
    obtain ⟨setting, rfl, given⟩ := gives.only _ among front
    obtain rfl := Option.some.inj (keyed.symm.trans setting.keyOfVariable?_variableName)
    exact ⟨setting, rfl, given⟩
  · rintro ⟨setting, key, value⟩
    obtain ⟨text, among⟩ := gives.each setting (Option.isSome_of_eq_some value)
    refine ⟨(setting.variableName, text), among, ?_⟩
    have front : "attrgate_".toList <+: (Text.lowercase setting.variableName).toList := by
      cases setting <;> decide +kernel
    obtain ⟨owner, same, given⟩ := gives.only _ among front
    obtain rfl := Setting.variableName_injective same
    have read : Raw.ofVariable text = entry.2 := Option.some.inj (given.symm.trans value)
    simp only [Setting.keyOfVariable?_variableName, Option.map_some, ← key, read]

theorem isPlain (gives : GivesValues values environment) {setting : Setting} {value : Raw}
    (set : values setting = some value) : Raw.IsPlain value := by
  have among : (Raw.keyOf setting.place, value) ∈ ofEnvironment "ATTRGATE" environment :=
    gives.mem_ofEnvironment.2 ⟨setting, rfl, set⟩
  obtain ⟨⟨name, text⟩, -, layered⟩ := List.mem_filterMap.1 among
  obtain ⟨key, -, same⟩ := Option.map_eq_some_iff.1 layered
  have taken : Raw.ofVariable text = value := congrArg Prod.snd same
  rw [← taken]
  exact Raw.isPlain_ofVariable text

/-- The variables of the environment lay the values that they give over the settings below. -/
theorem lays (gives : GivesValues values environment) :
    LaysValues values fun target => target.layLayer (ofEnvironment "ATTRGATE" environment) := by
  let writes : String × Raw → List (Place × Raw) := fun entry =>
    (Setting.all.filter fun setting => Raw.keyOf setting.place = entry.1).map
      fun setting => (setting.place, entry.2)
  have written : ∀ (setting : Setting) value,
      writes (Raw.keyOf setting.place, value) = [(setting.place, value)] := by
    intro setting value
    have alone : (Setting.all.filter fun other => Raw.keyOf other.place = Raw.keyOf setting.place) =
        [setting] := by
      cases setting <;> decide +kernel
    simp only [writes, alone, List.map_cons, List.map_nil]
  refine ⟨fun target => Raw.isDivided_layLayer fun entry among target h => ?_,
    fun target setting => ?_⟩
  · obtain ⟨setting, key, -⟩ := gives.mem_ofEnvironment.1 among
    obtain ⟨first, second⟩ := setting.isStep_place
    rw [key]
    exact Raw.isDivided_layKey_keyOf first second h
  · rw [Raw.at?_layLayer writes]
    · congr 1
      refine Fields.lookup_eq_of_mem_iff fun value => ?_
      rw [List.mem_reverse, List.mem_flatMap]
      constructor
      · rintro ⟨⟨key, raw⟩, among, point⟩
        obtain ⟨owner, rfl, set⟩ := gives.mem_ofEnvironment.1 among
        rw [written, List.mem_singleton] at point
        obtain ⟨place, rfl⟩ := Prod.ext_iff.1 point
        obtain rfl := Setting.place_injective place
        exact set
      · intro set
        have among : (Raw.keyOf setting.place, value) ∈ ofEnvironment "ATTRGATE" environment :=
          gives.mem_ofEnvironment.2 ⟨setting, rfl, set⟩
        exact ⟨_, among, by rw [written]; exact List.mem_singleton_self _⟩
    · rintro ⟨key, raw⟩ among target
      obtain ⟨owner, rfl, set⟩ := gives.mem_ofEnvironment.1 among
      obtain ⟨first, second⟩ := owner.isStep_place
      rw [written, Raw.at?_layKey_keyOf first second (gives.isPlain set),
        List.reverse_singleton, Fields.lookup_cons_ite]
      split_ifs <;> rfl

end GivesValues

namespace Choice

theorem ofVariable_of_isWord {text : String} (word : IsWord text) :
    Raw.ofVariable text = .text text := by
  rw [Raw.ofVariable, if_neg word.not_true, if_neg word.not_false, integer?, word.not_integer]
  simp only [Option.filter_none, word.not_number]

theorem isWord_name (mode : FlushMode) : IsWord mode.name := by
  cases mode <;> exact ⟨by decide +kernel, by decide +kernel, by decide +kernel, by decide +kernel⟩

theorem ofVariable_of_integer? {text : String} {count : Nat}
    (written : Decimal.integer? text.toList = some (count : Int)) (small : count < Nat.pow 2 63) :
    Raw.ofVariable text = .integer count := by
  have not_true : text.toLower ≠ "true" := Decimal.toLower_ne_of_integer? written (by decide)
  have not_false : text.toLower ≠ "false" := Decimal.toLower_ne_of_integer? written (by decide)
  have read : integer? text.toList = some (count : Int) := by
    rw [integer?, written, Option.filter_some,
      if_pos (Raw.inRange_of_isPortable (isPortable_count small))]
  rw [Raw.ofVariable, if_neg not_true, if_neg not_false, read]

/-- What a variable says of a setting is the value that its text is taken for. -/
theorem toRaw?_of_saidByText {choice : Choice} {text : String} {setting : Setting}
    (given : choice.SaidByText text setting) :
    choice.toRaw? setting = some (Raw.ofVariable text) := by
  cases setting with
  | policyPath =>
    obtain ⟨set, word⟩ := given
    rw [toRaw?, set, ofVariable_of_isWord word, Option.map_some]
  | flush =>
    obtain ⟨mode, set, rfl⟩ := Option.map_eq_some_iff.1 given
    rw [toRaw?, set, ofVariable_of_isWord (isWord_name mode), Option.map_some]
  | maxRecordBytes =>
    obtain ⟨count, set, written, small⟩ := given
    rw [toRaw?, set, ofVariable_of_integer? written small, Option.map_some]
  | logLevel =>
    obtain ⟨set, word⟩ := given
    rw [toRaw?, set, ofVariable_of_isWord word, Option.map_some]

theorem SaidByVariables.givesValues {choice : Choice} {environment : Environment}
    (said : choice.SaidByVariables environment) : GivesValues choice.toRaw? environment := by
  refine ⟨fun entry among start => ?_, fun setting value => said.each setting ?_⟩
  · obtain ⟨setting, name, given⟩ := said.only entry among start
    exact ⟨setting, name, toRaw?_of_saidByText given⟩
  · cases setting <;> simpa [toToml?, toRaw?] using value

/-- The variables of the environment lay what they say over the settings below. -/
theorem lays_ofEnvironment {choice : Choice} {environment : Environment}
    (said : choice.SaidByVariables environment) :
    choice.Lays fun target => target.layLayer (ofEnvironment "ATTRGATE" environment) :=
  lays_of_laysValues said.givesValues.lays

end Choice

end AccessStream.Settings
