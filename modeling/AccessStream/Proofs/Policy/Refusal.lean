import AccessStream.Proofs.Policy.Json
import AccessStream.Proofs.Policy.Toml

/-!
# Documents that state no policy

A document breaks the form of policies if anywhere in it, at any depth of its conditions, a record
has a field that is unknown there or lacks one that must be there, a condition is no record of
exactly one of the six fields, or a test names no attribute (`Document.Breaks`). No dialect reads a
policy from such a document (`Document.policy?_of_breaks`): a flaw deep inside is not passed over,
since whatever stands above it reads all that stands below.
-/

namespace AccessStream.Policy

namespace Document

variable {dialect : Dialect} {fields : List (String × Document)}

/-! ## What breaks the form -/

/-- A document that says a word, in whichever way: a text, or a record of one field of that name. -/
inductive Says : Document → String → Prop where
  | text {word : String} : Says (.text word) word
  | field {word : String} {value : Document} : Says (.record [(word, value)]) word

/-- The fields of a record that may only have some fields and must have others. -/
inductive BreaksFields (known required : List String) (fields : List (String × Document)) :
    Prop where
  | unknown {field : String × Document} :
      field ∈ fields → field.1 ∉ known → BreaksFields known required fields
  | missing {name : String} :
      name ∈ required → name ∉ fields.map (·.1) → BreaksFields known required fields

/-- The fields of the body of a test, which must have both of its fields and name an attribute. -/
inductive BreaksBody (fields : List (String × Document)) : Prop where
  | fields : BreaksFields ["attribute", "value"] ["attribute", "value"] fields → BreaksBody fields
  | unnamed {document : Document} :
      ("attribute", document) ∈ fields → (∀ a : Attribute, ¬ document.Says a.key) →
      BreaksBody fields

/-- A condition written as a record that is none, or that has another such record inside. -/
inductive BreaksCondition : Document → Prop where
  | count {fields : List (String × Document)} :
      fields.length ≠ 1 → BreaksCondition (.record fields)
  | unknown {fields : List (String × Document)} {field : String × Document} :
      field ∈ fields → field.1 ∉ ["equals", "contains", "ends_with", "and", "or", "not"] →
      BreaksCondition (.record fields)
  | body {fields body : List (String × Document)} {comparison : Comparison} :
      (comparison.name, .record body) ∈ fields → BreaksBody body → BreaksCondition (.record fields)
  | joined {fields : List (String × Document)} {word : String} {items : List Document}
      {item : Document} :
      word ∈ ["and", "or"] → (word, .list items) ∈ fields → item ∈ items → BreaksCondition item →
      BreaksCondition (.record fields)
  | negated {fields : List (String × Document)} {body : Document} :
      ("not", body) ∈ fields → BreaksCondition body → BreaksCondition (.record fields)

/-- A rule written as a record that is none, or that has a condition that is none. -/
inductive BreaksRule : Document → Prop where
  | fields {fields : List (String × Document)} :
      BreaksFields ["name", "effect", "conditions", "priority"] ["name", "effect"] fields →
      BreaksRule (.record fields)
  | condition {fields : List (String × Document)} {items : List Document} {item : Document} :
      ("conditions", .list items) ∈ fields → item ∈ items → BreaksCondition item →
      BreaksRule (.record fields)

/-- A policy written as a record that is none, or that has a rule that is none. -/
inductive Breaks : Document → Prop where
  | fields {fields : List (String × Document)} :
      BreaksFields ["default_effect", "rules"] [] fields → Breaks (.record fields)
  | rule {fields : List (String × Document)} {items : List Document} {item : Document} :
      ("rules", .list items) ∈ fields → item ∈ items → BreaksRule item → Breaks (.record fields)

/-! ## Nothing is read -/

theorem says_of_word? {document : Document} {word : String}
    (h : document.word? dialect = some word) : document.Says word := by
  unfold word? at h
  split at h
  · cases h
    exact .text
  · split at h
    · cases h
      exact .field
    · cases h
  · cases h

theorem says_of_attribute? {document : Document} {a : Attribute}
    (h : document.attribute? dialect = some a) : document.Says a.key := by
  obtain ⟨word, said, key⟩ := Option.bind_eq_some_iff.1 h
  rw [← Attribute.ofKey?_eq_some_iff.1 key]
  exact says_of_word? said

theorem HasOnly.not_breaksFields {known required : List String} (only : HasOnly known fields)
    (there : ∀ name ∈ required, name ∈ fields.map (·.1)) :
    ¬ BreaksFields known required fields := by
  rintro (⟨inside, unknown⟩ | ⟨required, missing⟩)
  · exact unknown (only.1 _ inside)
  · exact missing (there _ required)

/-- A list with an item of which nothing is read is not read. -/
theorem mapM_eq_none_of_mem {α β : Type} {f : α → Option β} {items : List α} {item : α}
    (inside : item ∈ items) (unread : f item = none) : items.mapM f = none := by
  rw [Option.eq_none_iff_forall_ne_some]
  intro values read
  have all := forall_of_forall₂ (p := fun item => f item ≠ none) (mapM_eq_some_iff.1 read)
    fun item value _ found => by rw [found]; exact Option.some_ne_none value
  exact all item inside unread

/-- A field that says no condition by itself says none among others. -/
theorem condition?_eq_none_of_mem {field : String × Document} (inside : field ∈ fields)
    (unread : condition? dialect (.record [field]) = none) :
    condition? dialect (.record fields) = none := by
  rw [Option.eq_none_iff_forall_ne_some]
  intro condition read
  obtain ⟨only, rfl⟩ := exists_eq_singleton_of_condition? read
  rw [← List.mem_singleton.1 inside, unread] at read
  cases read

theorem condition?_eq_none_of_length (several : fields.length ≠ 1) :
    condition? dialect (.record fields) = none := by
  rw [Option.eq_none_iff_forall_ne_some]
  intro condition read
  obtain ⟨only, rfl⟩ := exists_eq_singleton_of_condition? read
  exact several rfl

theorem test?_of_breaksBody (h : BreaksBody fields) (comparison : Comparison) :
    (record fields).test? dialect comparison = none := by
  rw [Option.eq_none_iff_forall_ne_some]
  intro condition read
  obtain ⟨only, a, pattern, ⟨document, a_field, a_read⟩, pattern_field, -⟩ :=
    test?_record_iff.1 read
  cases h with
  | fields broken =>
    refine only.not_breaksFields ?_ broken
    simp only [List.forall_mem_cons]
    exact ⟨List.mem_map_of_mem (f := (·.1)) a_field,
      List.mem_map_of_mem (f := (·.1)) pattern_field, List.forall_mem_nil _⟩
  | unnamed field none_said =>
    obtain rfl := allUnder_of_mem (p := (document = ·)) only.2 a_field rfl _ field
    exact none_said a (says_of_attribute? a_read)

/-- The induction is on where the flaw is: it leaves the field above it without a condition. -/
theorem condition?_of_breaks {document : Document} (h : BreaksCondition document) :
    document.condition? dialect = none := by
  induction h with
  | count several => exact condition?_eq_none_of_length several
  | unknown inside other =>
    exact condition?_eq_none_of_mem inside (condition?_unknown other _)
  | body inside broken =>
    refine condition?_eq_none_of_mem inside ?_
    rw [condition?_test, test?_of_breaksBody broken]
  | joined word inside item _ ih =>
    refine condition?_eq_none_of_mem inside ?_
    have unread := mapM_eq_none_of_mem item ih
    rcases List.mem_pair.1 word with rfl | rfl
    · rw [condition?_and, unread, Option.map_none]
    · rw [condition?_or, unread, Option.map_none]
  | negated inside _ ih =>
    refine condition?_eq_none_of_mem inside ?_
    rw [condition?_not, ih, Option.map_none]

/-- If a field that may be missing is read as a list, then so is each of its items. -/
theorem StatesOr.ne_none_of_mem {α : Type} {read : Document → Option α} {name : String}
    {values missing : List α} {items : List Document} {item : Document}
    (h : StatesOr fields name missing
      (fun document values => document.items?.bind (·.mapM read) = some values) values)
    (distinct : (fields.map (·.1)).Nodup) (there : (name, .list items) ∈ fields)
    (inside : item ∈ items) : read item ≠ none := by
  intro unread
  have all := h.allUnder (p := fun document => document.items?.bind (·.mapM read) ≠ none) distinct
    (fun document stated => by rw [stated]; exact Option.some_ne_none values) _ there
  exact all (mapM_eq_none_of_mem inside unread)

theorem rule?_of_breaks {document : Document} (h : BreaksRule document) :
    document.rule? dialect = none := by
  rw [Option.eq_none_iff_forall_ne_some]
  intro rule read
  cases h with
  | fields broken =>
    obtain ⟨only, name, ⟨effect, effect_field, -⟩, -⟩ := rule?_record_iff.1 read
    refine only.not_breaksFields ?_ broken
    simp only [List.forall_mem_cons]
    exact ⟨List.mem_map_of_mem (f := (·.1)) name, List.mem_map_of_mem (f := (·.1)) effect_field,
      List.forall_mem_nil _⟩
  | condition there inside broken =>
    obtain ⟨only, -, -, conditions, -⟩ := rule?_record_iff.1 read
    simp only [funext conditions?_eq_mapM] at conditions
    exact conditions.ne_none_of_mem only.2 there inside (condition?_of_breaks broken)

/-- No dialect reads a policy from a document that breaks the form of policies. -/
theorem policy?_of_breaks {document : Document} (h : document.Breaks) :
    document.policy? dialect = none := by
  rw [Option.eq_none_iff_forall_ne_some]
  intro policy read
  cases h with
  | fields broken =>
    obtain ⟨only, -⟩ := policy?_record_iff.1 read
    exact only.not_breaksFields (List.forall_mem_nil _) broken
  | rule there inside broken =>
    obtain ⟨only, -, rules⟩ := policy?_record_iff.1 read
    exact rules.ne_none_of_mem only.2 there inside (rule?_of_breaks broken)

end Document

/-! ## Texts -/

/-- Whatever table a TOML text says, a flaw at any depth makes the whole text malformed; and of a
plain document nothing is left out, since the policy that it gives is the one that it states. -/
theorem parse_toml_of_read? {text : String} {value : Toml.Value}
    (read : Toml.read? text = some value) :
    ((Document.ofToml value).Breaks → parse .toml text = .error (.malformed .toml)) ∧
      ((Document.ofToml value).IsPlain → ∀ policy, parse .toml text = .ok policy ↔
        (Document.ofToml value).States policy ∧ policy.IsValid) := by
  have said : ofText? .toml text = (Document.ofToml value).policy? .toml := by
    rw [ofText?, ofTomlText?, read]
  refine ⟨fun broken => ?_, fun plain policy => ?_⟩
  · rw [parse, said, Document.policy?_of_breaks broken]
  · rw [parse_eq_ok_iff, said, Document.policy?_eq_some_iff plain]

/-- A misspelled field in the body of a test, below a negation of which only a header tells. -/
theorem parse_toml_of_read?_of_misspelled :
    let text := "\n[[rules]]\nname = \"admins\"\neffect = \"allow\"\n" ++
      "\n[[rules.conditions]]\n\n[rules.conditions.not.equals]\n" ++
      "attribute = \"azure.role\"\nvaleu = \"admin\"\n"
    let condition : Toml.Value := .table [("not", .table [("equals", .table
      [("attribute", .text "azure.role"), ("valeu", .text "admin")])])]
    let value : Toml.Value := .table [("rules", .array [.table [("name", .text "admins"),
      ("effect", .text "allow"), ("conditions", .array [condition])]])]
    Toml.read? text = some value ∧ (Document.ofToml value).Breaks ∧
      parse .toml text = .error (.malformed .toml) := by
  intro text condition value
  let head : List (String × Toml.Value) := [("name", .text "admins"), ("effect", .text "allow")]
  let body : List (String × Toml.Value) :=
    [("attribute", .text "azure.role"), ("valeu", .text "admin")]
  let sections : List Toml.Section :=
    [⟨true, ["rules"], Toml.Entries.pairsOf head⟩, ⟨true, ["rules", "conditions"], []⟩,
      ⟨false, ["rules", "conditions", "not", "equals"], Toml.Entries.pairsOf body⟩]
  have written : Toml.write [] sections = text := by decide +kernel
  have fields_writable : ∀ field ∈ head ++ body,
      Toml.Key.IsBare field.1 ∧ Toml.Value.Writable Toml.Value.maxDepth field.2 := by
    simp only [head, body, List.cons_append, List.nil_append, List.forall_mem_cons]
    exact ⟨⟨by decide, .text _ _⟩, ⟨by decide, .text _ _⟩, ⟨by decide, .text _ _⟩,
      ⟨by decide, .text _ _⟩, List.forall_mem_nil _⟩
  obtain ⟨head_writable, body_writable⟩ := List.forall_mem_append.1 fields_writable
  have writable : ∀ part ∈ sections, part.Writable := by
    simp only [sections, List.forall_mem_cons]
    exact ⟨⟨⟨by decide, by decide, by decide⟩, Toml.pairWritable_pairsOf head_writable⟩,
      ⟨⟨by decide, by decide, by decide⟩, List.forall_mem_nil _⟩,
      ⟨⟨by decide, by decide, by decide⟩, Toml.pairWritable_pairsOf body_writable⟩,
      List.forall_mem_nil _⟩
  have read : Toml.read? text = some value := by
    rw [← written, Toml.read?_write .strict (List.forall_mem_nil _) writable]
    rfl
  have missing : "value" ∉ (Document.ofTomlEntries body).map (·.1) := by decide
  have test : Document.BreaksCondition
      (.record [(Comparison.equals.name, .record (Document.ofTomlEntries body))]) :=
    .body List.mem_cons_self (.fields (.missing (by decide) missing))
  have negation : (Document.ofToml condition).BreaksCondition := .negated List.mem_cons_self test
  let rule := Document.ofTomlEntries (head ++ [("conditions", .array [condition])])
  have field : ("conditions", .list [Document.ofToml condition]) ∈ rule :=
    List.mem_cons_of_mem _ (List.mem_cons_of_mem _ List.mem_cons_self)
  have broken : Document.Breaks (.record [("rules", .list [.record rule])]) :=
    .rule List.mem_cons_self List.mem_cons_self (.condition field List.mem_cons_self negation)
  exact ⟨read, broken, (parse_toml_of_read? read).1 broken⟩

end AccessStream.Policy
