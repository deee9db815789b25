import AccessStream.Proofs.Settings.Precedence

/-!
# What is left of a text from the environment

A variable is taken for a boolean or a number if its text reads as one, before anyone asks for a
text, and for the path of the policy and the log level it is made a text again. What is left of the
text then (`arrival`) is the text itself for a word and for a number in its shortest form; any other
text of a boolean or a number comes out as another (`Arrives`). So these settings arrive as they
were given unless they read as a boolean or a number (`load_of_variables`), which no absolute path
does.
-/

namespace AccessStream

/-! ## Texts that read as numbers -/

namespace Binary64

/-- Every whole number can be read as a number of the format binary64. -/
theorem exists_ofText?_of_integer? {text : List Char} {value : Int}
    (h : Decimal.integer? text = some value) : ∃ number, ofText? text = some number := by
  obtain ⟨size, written, -⟩ := Option.map_eq_some_iff.1 h
  have written : Decimal.natural? (Decimal.splitSign text).2 = some size := written
  have digits : ∀ c ∈ (Decimal.splitSign text).2, c.isDigit = true := by
    obtain ⟨each, -⟩ := Option.ite_none_right_eq_some.1 written
    simp only [Bool.and_eq_true, List.all_eq_true] at each
    exact each.2
  have front : (Decimal.splitSign text).2.takeWhile Char.isDigit = (Decimal.splitSign text).2 := by
    simpa using takeWhile_front digits stops_nil
  have back : (Decimal.splitSign text).2.dropWhile Char.isDigit = [] := by
    simpa using dropWhile_front digits stops_nil
  have decimal : ∀ negative, ofDecimalText? negative (Decimal.splitSign text).2 =
      some (.ofDecimal negative size 0) := by
    intro negative
    simp only [ofDecimalText?, front, back, List.append_nil, exponent?, written]
    rfl
  rw [ofText?]
  simp only [decimal]
  split_ifs
  · exact ⟨_, rfl⟩
  · exact ⟨_, rfl⟩
  · exact ⟨_, rfl⟩

/-- A text is no number if it starts as none does: with neither a digit, a sign, a point or an
exponent nor the first letter of a word for an infinity or for no number. -/
theorem ofText?_eq_none {first : Char} {rest : List Char}
    (start : first.toLower ∉ ['+', '-', '.', 'e', 'i', 'n']) (digit : first.isDigit = false) :
    ofText? (first :: rest) = none := by
  have other : ∀ c : Char, c.toLower ∈ ['+', '-', '.', 'e', 'i', 'n'] → first ≠ c := by
    rintro c among rfl
    exact start among
  have unsigned : Decimal.splitSign (first :: rest) = (false, first :: rest) := by
    rw [Decimal.splitSign.eq_def]
    split
    · rename_i same
      exact absurd (List.cons.inj same).1 (other '+' (by decide))
    · rename_i same
      exact absurd (List.cons.inj same).1 (other '-' (by decide))
    · rfl
  have word : ∀ name : String, (∃ c more, name.toList = c :: more ∧ (c = 'i' ∨ c = 'n')) →
      String.ofList ((first :: rest).map Char.toLower) ≠ name := by
    rintro name ⟨c, more, spelt, letter⟩ rfl
    rw [String.toList_ofList, List.map_cons] at spelt
    obtain rfl := (List.cons.inj spelt).1
    rcases letter with here | here <;> exact start (by simp [here])
  have decimal : ofDecimalText? false (first :: rest) = none := by
    have point : first ≠ '.' := other '.' (by decide)
    have mark : first ≠ 'e' ∧ first ≠ 'E' := ⟨other 'e' (by decide), other 'E' (by decide)⟩
    simp only [ofDecimalText?, List.takeWhile_cons, List.dropWhile_cons, digit, Bool.false_eq_true,
      if_false]
    split
    · rename_i same
      exact absurd (List.cons.inj same).1 point
    · simp [exponent?, mark]
  rw [ofText?, unsigned]
  simp only [decimal]
  rw [if_neg, if_neg]
  · exact word "nan" ⟨'n', _, rfl, .inr rfl⟩
  · rw [Bool.or_eq_true, decide_eq_true_eq, decide_eq_true_eq, not_or]
    exact ⟨word "inf" ⟨'i', _, rfl, .inl rfl⟩, word "infinity" ⟨'i', _, rfl, .inl rfl⟩⟩

theorem exists_ink_positional (digits : Nat) (place : Int) :
    ∃ c ∈ positional digits place, Text.isSpace c = false := by
  simp only [positional]
  split_ifs
  · obtain ⟨first, more, written, -⟩ := Decimal.toDigits_eq_cons digits
    have digit : first.isDigit = true :=
      Nat.isDigit_of_mem_toDigits (b := 10) (by decide) (by decide) (written ▸ List.mem_cons_self)
    exact ⟨first, by simp [written], Decimal.not_isSpace_of_isDigit digit⟩
  · exact ⟨'.', by simp, by decide⟩
  · exact ⟨'0', by simp, by decide⟩

/-- The text of a number is not blank. -/
theorem isBlank_toText (number : Binary64) : Text.isBlank number.toText = false := by
  cases number with
  | nan => decide
  | infinite negative => cases negative <;> decide
  | finite negative significand exponent =>
    have ink : ∀ digits : List Char, (∃ c ∈ digits, Text.isSpace c = false) →
        (if negative then '-' :: digits else digits).all Text.isSpace = false := by
      rintro digits ⟨c, among, ink⟩
      rw [List.all_eq_false]
      refine ⟨c, ?_, by simp [ink]⟩
      split_ifs
      · exact List.mem_cons_of_mem _ among
      · exact among
    rw [Text.isBlank, toText, String.toList_ofList]
    refine ink _ ?_
    split_ifs
    · exact ⟨'0', List.mem_singleton_self _, by decide⟩
    · exact exists_ink_positional _ _

end Binary64

namespace Settings

/-! ## What is left of a text -/

/-- What is left of a text that was taken for a value of its own type. -/
inductive Arrives (text : String) : String → Prop
  /-- A text that reads neither as a boolean nor as a number is left as it is. -/
  | word (reads : Choice.IsWord text) : Arrives text text
  /-- Of a boolean its name is left, in small letters. -/
  | boolean {name : String} (known : name = "true" ∨ name = "false")
      (reads : text.toLower = name) : Arrives text name
  /-- Of a whole number its digits are left, without a plus sign or zeros in front. -/
  | integer {value : Int} (reads : integer? text.toList = some value) :
      Arrives text (String.ofList (Decimal.write value))
  /-- Of another number its nearest one of the format binary64 is left, without an exponent. -/
  | number {value : Binary64} (large : integer? text.toList = none)
      (reads : Binary64.ofText? text.toList = some value) : Arrives text value.toText

/-- What is left of the text of a variable where a text is asked for. -/
def arrival (text : String) : String := ((Raw.ofVariable text).text?).getD text

variable {text left : String}

/-- The names of the booleans are no numbers. -/
theorem ofText?_of_toLower {name : String} (known : name = "true" ∨ name = "false")
    (reads : text.toLower = name) : Binary64.ofText? text.toList = none := by
  have spelt : text.toList.map Char.toLower = name.toList := by
    rw [← reads, ← String.toList_map]
    rfl
  cases start : text.toList with
  | nil =>
    rw [start] at spelt
    rcases known with rfl | rfl <;> cases spelt
  | cons first rest =>
    rw [start, List.map_cons] at spelt
    have letter : first.toLower = 't' ∨ first.toLower = 'f' := by
      rcases known with rfl | rfl
      · exact .inl (List.cons.inj spelt).1
      · exact .inr (List.cons.inj spelt).1
    refine Binary64.ofText?_eq_none ?_ ?_
    · rcases letter with lower | lower <;> rw [lower] <;> decide
    · rw [← Bool.not_eq_true]
      intro digit
      rw [Decimal.toLower_of_isDigit digit] at letter
      rcases letter with rfl | rfl <;> cases digit

theorem integer?_eq_none (h : Binary64.ofText? text.toList = none) :
    Decimal.integer? text.toList = none := by
  cases written : Decimal.integer? text.toList with
  | none => rfl
  | some value =>
    obtain ⟨number, reads⟩ := Binary64.exists_ofText?_of_integer? written
    rw [h] at reads
    cases reads

theorem text?_ofVariable (text : String) :
    (Raw.ofVariable text).text? = some (arrival text) := by
  have reads : ∃ content, (Raw.ofVariable text).text? = some content := by
    rw [Raw.ofVariable]
    split_ifs
    · exact ⟨_, rfl⟩
    · exact ⟨_, rfl⟩
    · cases integer? text.toList with
      | some value => exact ⟨_, rfl⟩
      | none => cases Binary64.ofText? text.toList <;> exact ⟨_, rfl⟩
  obtain ⟨content, found⟩ := reads
  rw [arrival, found, Option.getD_some]

theorem arrives_arrival (text : String) : Arrives text (arrival text) := by
  rw [arrival, Raw.ofVariable]
  split_ifs with yes no
  · exact .boolean (.inl rfl) yes
  · exact .boolean (.inr rfl) no
  · cases whole : integer? text.toList with
    | some value => exact .integer whole
    | none =>
      cases number : Binary64.ofText? text.toList with
      | some value => exact .number whole number
      | none => exact .word ⟨yes, no, integer?_eq_none number, number⟩

/-- What is left of a text is determined by what the text reads as. -/
theorem Arrives.eq_arrival (h : Arrives text left) : arrival text = left := by
  cases h with
  | word reads => rw [arrival, Choice.ofVariable_of_isWord reads]; rfl
  | boolean known reads =>
    rcases known with rfl | rfl
    · rw [arrival, Raw.ofVariable, if_pos reads]
      rfl
    · have other : text.toLower ≠ "true" := by
        rw [reads]
        decide
      rw [arrival, Raw.ofVariable, if_neg other, if_pos reads]
      rfl
  | integer reads =>
    have written := (Option.filter_eq_some_iff.1 reads).1
    rw [arrival, Raw.ofVariable, if_neg (Decimal.toLower_ne_of_integer? written (by decide)),
      if_neg (Decimal.toLower_ne_of_integer? written (by decide)), reads]
    rfl
  | number large reads =>
    have other : ∀ name, name = "true" ∨ name = "false" → text.toLower ≠ name := by
      intro name known same
      rw [ofText?_of_toLower known same] at reads
      cases reads
    rw [arrival, Raw.ofVariable, if_neg (other _ (.inl rfl)), if_neg (other _ (.inr rfl)), large]
    simp only [reads]
    rfl

theorem arrival_eq_iff : arrival text = left ↔ Arrives text left :=
  ⟨fun h => h ▸ arrives_arrival text, Arrives.eq_arrival⟩

/-- Something is left of every text that is not blank. -/
theorem isBlank_arrival (h : Text.isBlank text = false) : Text.isBlank (arrival text) = false := by
  have arrives := arrives_arrival text
  revert arrives
  generalize arrival text = left
  intro arrives
  cases arrives with
  | word => exact h
  | boolean known => rcases known with rfl | rfl <;> decide
  | @integer value =>
    obtain ⟨c, more, written⟩ := List.exists_cons_of_ne_nil (Decimal.write_ne_nil value)
    have among : c ∈ Decimal.write value := written ▸ List.mem_cons_self
    rw [Text.isBlank, String.toList_ofList, List.all_eq_false]
    exact ⟨c, among, by simp [Decimal.not_isSpace_of_mem_write among]⟩
  | @number value => exact value.isBlank_toText

/-- The digits that are written for a whole number of 64 bits read as this number. -/
theorem integer?_write {value : Int} (low : -Nat.pow 2 63 ≤ value) (high : value < Nat.pow 2 63) :
    integer? (Decimal.write value) = some value := by
  have digits : Decimal.natural? (Nat.toDigits 10 value.natAbs) = some value.natAbs := by
    rw [Decimal.natural?, if_pos, Decimal.ofDigits_toDigits]
    simp only [Bool.and_eq_true, decide_eq_true_eq, List.all_eq_true]
    exact ⟨Nat.toDigits_ne_nil, fun c among =>
      Nat.isDigit_of_mem_toDigits (by decide) (by decide) among⟩
  have written : Decimal.integer? (Decimal.write value) = some value := by
    rw [Decimal.integer?, Decimal.splitSign_write]
    simp only [digits, Option.map_some, Decimal.signed_natAbs]
  rw [integer?, written, Option.filter_some, if_pos]
  simp only [Bool.and_eq_true, decide_eq_true_eq]
  exact ⟨low, high⟩

/-- The texts of which everything is left: words, and booleans and numbers in the form in which
they are written. -/
theorem arrival_eq_self_iff :
    arrival text = text ↔ Choice.IsWord text ∨ (text = "true" ∨ text = "false") ∨
      (∃ value : Int, -Nat.pow 2 63 ≤ value ∧ value < Nat.pow 2 63 ∧
        text = String.ofList (Decimal.write value)) ∨
      ∃ value, integer? text.toList = none ∧ Binary64.ofText? text.toList = some value ∧
        text = value.toText := by
  constructor
  · intro kept
    have arrives := arrives_arrival text
    generalize same : arrival text = left at arrives
    rw [kept] at same
    cases arrives with
    | word reads => exact .inl reads
    | boolean known => exact .inr (.inl (same ▸ known))
    | @integer value reads =>
      obtain ⟨-, range⟩ := Option.filter_eq_some_iff.1 reads
      simp only [Bool.and_eq_true, decide_eq_true_eq] at range
      exact .inr (.inr (.inl ⟨value, range.1, range.2, same⟩))
    | @number value large reads => exact .inr (.inr (.inr ⟨value, large, reads, same⟩))
  · rintro (reads | known | ⟨value, low, high, rfl⟩ | ⟨value, large, reads, same⟩)
    · exact (Arrives.word reads).eq_arrival
    · have lower : text.toLower = text := by
        rcases known with rfl | rfl <;> decide +kernel
      exact (Arrives.boolean known lower).eq_arrival
    · refine (Arrives.integer ?_).eq_arrival
      rw [String.toList_ofList]
      exact integer?_write low high
    · exact (Arrives.number large reads).eq_arrival.trans same.symm

/-- An absolute path is a word. -/
theorem isWord_of_isAbsolute (h : Path.isAbsolute text = true) : Choice.IsWord text := by
  obtain ⟨rest, start⟩ : ∃ rest, text.toList = '/' :: rest := by
    rw [Path.isAbsolute, beq_iff_eq, List.head?_eq_some_iff] at h
    exact h
  have other : ∀ name : String, name.toList.head? ≠ some '/' → text.toLower ≠ name := by
    rintro name different rfl
    refine different ?_
    have lower : text.toLower = text.map Char.toLower := rfl
    rw [lower, String.toList_map, start]
    rfl
  have number : Binary64.ofText? text.toList = none := by
    rw [start]
    exact Binary64.ofText?_eq_none (by decide) (by decide)
  exact ⟨other _ (by decide), other _ (by decide), integer?_eq_none number, number⟩

/-! ## Variables with any texts -/

namespace Choice

/-- What a choice of texts comes to when they come from the environment. -/
def arrived (given : Choice) : Choice :=
  { given with
    policyPath := given.policyPath.map arrival
    logLevel := given.logLevel.map arrival }

/-- The text of a variable gives what a choice has for a setting, whatever it reads as. -/
def GivenByText (given : Choice) (text : String) : Setting → Prop
  | .policyPath => given.policyPath = some text
  | .flush => given.SaidByText text .flush
  | .maxRecordBytes => given.SaidByText text .maxRecordBytes
  | .logLevel => given.logLevel = some text

/-- The environment gives a choice: it has a variable for each setting that is set, and no other
whose name starts with the prefix in letters of either case. -/
structure GivenByVariables (given : Choice) (environment : Environment) : Prop where
  only : ∀ entry ∈ environment,
    "attrgate_".toList <+: (Text.lowercase entry.1).toList →
      ∃ setting : Setting, setting.variableName = entry.1 ∧ given.GivenByText entry.2 setting
  each : ∀ setting, (given.toToml? setting).isSome →
    ∃ text, (setting.variableName, text) ∈ environment

/-- The value as which what is given for a setting is taken, if it is set. -/
def taken? (given : Choice) : Setting → Option Raw
  | .policyPath => given.policyPath.map Raw.ofVariable
  | .flush => given.toRaw? .flush
  | .maxRecordBytes => given.toRaw? .maxRecordBytes
  | .logLevel => given.logLevel.map Raw.ofVariable

theorem taken?_of_givenByText {given : Choice} {setting : Setting}
    (h : given.GivenByText text setting) : given.taken? setting = some (Raw.ofVariable text) := by
  cases setting with
  | policyPath => exact congrArg (Option.map Raw.ofVariable) h
  | flush =>
    have said : given.SaidByText text .flush := h
    exact toRaw?_of_saidByText said
  | maxRecordBytes =>
    have said : given.SaidByText text .maxRecordBytes := h
    exact toRaw?_of_saidByText said
  | logLevel => exact congrArg (Option.map Raw.ofVariable) h

theorem GivenByVariables.givesValues {given : Choice} {environment : Environment}
    (h : given.GivenByVariables environment) : GivesValues given.taken? environment := by
  refine ⟨fun entry among start => ?_, fun setting value => h.each setting ?_⟩
  · obtain ⟨setting, name, said⟩ := h.only entry among start
    exact ⟨setting, name, taken?_of_givenByText said⟩
  · cases setting <;> simpa [toToml?, taken?, toRaw?] using value

/-- What is given over other settings reads as what is left of it. -/
theorem settings?_of_taken? {given lower : Choice} {target : Raw}
    (divided : Raw.IsDivided sectionNames target)
    (h : ∀ setting : Setting, target.at? setting.place =
      (given.taken? setting).or (lower.toRaw? setting)) :
    Reading.lenient.settings? target = some (given.arrived.onto lower).settings := by
  have path_read : ∀ text, Reading.lenient.path? (Raw.ofVariable text) =
      some (some (arrival text)) := by
    intro text
    have read := text?_ofVariable text
    cases value : Raw.ofVariable text with
    | null =>
      rw [value] at read
      cases read
    | _ =>
      rw [value] at read
      exact congrArg (Option.map some) read
  refine settings?_of_reads (divides_lenient divided)
    (fun setting => (target.at?_eq_lookup_part setting.place).symm.trans (h setting)) ?_ ?_ ?_ ?_
  · rw [taken?, toRaw?, onto, arrived]
    cases given.policyPath with
    | some path => exact congrArg some (path_read path)
    | none => cases lower.policyPath <;> rfl
  · rw [taken?, ← toRaw?_onto, toRaw?, Option.map_map]
    exact congrArg (Option.map · (given.flush.or lower.flush)) (funext FlushMode.ofName?_name)
  · rw [taken?, ← toRaw?_onto, toRaw?, Option.map_map]
    refine congrArg (Option.map · (given.maxRecordBytes.or lower.maxRecordBytes))
      (funext fun count => ?_)
    simp [Reading.lenient, Raw.natural?]
  · rw [taken?, toRaw?, onto, arrived]
    cases given.logLevel with
    | some level => exact congrArg some (text?_ofVariable level)
    | none => cases lower.logLevel <;> rfl

end Choice

/-- Texts from the environment arrive as what is left of them after they were taken for values of
their own types. Of words, of booleans and whole numbers as they are written, and of absolute paths
everything is left, and of a text that is not blank something is; a text from a file arrives as it
is. -/
theorem load_of_variables {find : String → Found} {environment : Environment}
    {options : LayerOptions} {user project checkout given : Choice}
    (prefixed : options.variablePrefix = "ATTRGATE")
    (user_sets : Layer.user.Sets find environment options user)
    (project_sets : Layer.project.Sets find environment options project)
    (checkout_sets : Layer.checkout.Sets find environment options checkout)
    (said : given.GivenByVariables environment) :
    let merged := (given.arrived.onto (checkout.onto (project.onto user))).settings
    (Id.run (load find environment options) =
      if merged.maxRecordBytes = 0 then .error (.flawed .zeroLimit)
      else if Text.isBlank merged.logLevel then .error (.flawed .blankLevel)
      else .ok { merged with
        policyPath := merged.policyPath.map (Path.join options.projectDirectory) }) ∧
    (∀ text left, arrival text = left ↔ Arrives text left) ∧
    (∀ text, Text.isBlank text = false → Text.isBlank (arrival text) = false) ∧
    (∀ text, Path.isAbsolute text = true → arrival text = text) ∧
    ∀ text, arrival text = text ↔ Choice.IsWord text ∨ (text = "true" ∨ text = "false") ∨
      (∃ value : Int, -Nat.pow 2 63 ≤ value ∧ value < Nat.pow 2 63 ∧
        text = String.ofList (Decimal.write value)) ∨
      ∃ value, integer? text.toList = none ∧ Binary64.ofText? text.toList = some value ∧
        text = value.toText := by
  intro merged
  refine ⟨?_, fun text left => arrival_eq_iff, fun text => isBlank_arrival, fun text absolute =>
    (Arrives.word (isWord_of_isAbsolute absolute)).eq_arrival, fun text => arrival_eq_self_iff⟩
  obtain ⟨below, divided, stands, loads⟩ :=
    load_of_gives prefixed user_sets.gives project_sets.gives checkout_sets.gives
  have lays := said.givesValues.lays
  let lower := checkout.onto (project.onto (user.onto (Choice.ofSettings {})))
  have defaults : (given.arrived.onto lower).settings = merged := by
    simp only [lower, merged, ← Choice.onto_assoc, Choice.settings_onto_ofSettings]
  refine loads merged ?_
  rw [← defaults]
  refine Choice.settings?_of_taken? (lays.divided _ divided) fun setting => ?_
  rw [lays.at?, stands]

/-- A path and a level that read as a number and as a boolean, over those of a file. -/
theorem load_of_number_and_boolean :
    let find : String → Found := fun path =>
      if path = "/work/attrgate.toml" then
        .file (Utf8.encode (fieldDocument .policyPath (.text "1e3")))
      else .nothing
    let environment := [("ATTRGATE_LOGGING__LEVEL", "TRUE")]
    let further := ("ATTRGATE_POLICY__PATH", "007") :: environment
    Id.run (load find environment { projectDirectory := "/work" }) = .ok
        { policyPath := some "/work/1e3", logLevel := "true" } ∧
      Id.run (load find further { projectDirectory := "/work" }) = .ok
        { policyPath := some "/work/7", logLevel := "true" } := by
  intro find environment further
  let options : LayerOptions := { projectDirectory := "/work" }
  have project : ∀ environment,
      Layer.project.Sets find environment options { policyPath := some "1e3" } := by
    intro environment
    refine .fieldDocument "/work/attrgate.toml" .policyPath (.text "1e3") nofun ?_ rfl
      (.text _ "1e3") rfl ?_ nofun
    · exact congrArg some (by decide +kernel)
    intro other given
    cases other <;> first | rfl | cases given
  have said : ∀ path, Choice.GivenByVariables
      { policyPath := path, logLevel := some "TRUE" }
      ((path.map (Prod.mk "ATTRGATE_POLICY__PATH")).toList ++ environment) := by
    intro path
    constructor
    · intro entry among start
      rcases List.mem_append.1 among with given | given
      · obtain ⟨text, set, rfl⟩ := Option.map_eq_some_iff.1 (Option.mem_toList.1 given)
        exact ⟨.policyPath, rfl, set⟩
      · obtain rfl := List.mem_singleton.1 given
        exact ⟨.logLevel, rfl, rfl⟩
    · intro setting set
      cases setting with
      | policyPath =>
        cases path with
        | none => cases set
        | some text => exact ⟨text, List.mem_cons_self⟩
      | flush => cases set
      | maxRecordBytes => cases set
      | logLevel => exact ⟨"TRUE", List.mem_append_right _ (List.mem_singleton_self _)⟩
  have absent : ∀ environment, Layer.checkout.Sets find environment options {} := by
    intro environment
    have place : Path.join "/work" "attrgate.local.toml" = "/work/attrgate.local.toml" := by
      decide +kernel
    exact .missing (congrArg some place) (by decide +kernel)
  constructor
  · refine (load_of_variables rfl (.placeless (by decide +kernel)) (project _) (absent _)
      (said none)).1.trans ?_
    decide +kernel
  · refine (load_of_variables rfl (.placeless (by decide +kernel)) (project _) (absent _)
      (said (some "007"))).1.trans ?_
    decide +kernel

/-- A path of digits does not arrive as it was given. -/
theorem load_of_digits :
    let find : String → Found := fun _ => .nothing
    let environment := [("ATTRGATE_POLICY__PATH", "007")]
    Id.run (load find environment { projectDirectory := "/work" }) = .ok
        { policyPath := some "/work/7" } ∧
      Path.join "/work" "007" = "/work/007" := by
  decide +kernel

end Settings

end AccessStream
