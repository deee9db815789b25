import AccessStream.Policy.Document
import AccessStream.Proofs.Fields
import Mathlib.Data.List.Forall2

/-!
# What documents state about policies

A document states a policy if it is a record with no field but those that policies have, none of
them repeated; if its rules are again such records, which have at least a name and an effect; and if
its conditions are records of a single field, whose name is one of six and whose value is what the
name asks for (`Document.States`). Nothing else is stated: the rules and conditions of the policy
are those of the document, one for one, and only a field that may be missing stands for its default.

Reading gives exactly the policy that a document states, in every dialect, as long as the parts of
the document are written as records, lists and texts and not in another way that a dialect may allow
(`Document.IsPlain`, `Document.policy?_eq_some_iff`).
-/

namespace AccessStream.Policy.Document

variable {α β : Type} {dialect : Dialect} {fields : List (String × Document)}

/-! ## What is stated -/

/-- The fields have names among the given ones, and none of them is repeated. -/
def HasOnly (names : List String) (fields : List (String × Document)) : Prop :=
  (∀ field ∈ fields, field.1 ∈ names) ∧ (fields.map (·.1)).Nodup

/-- A field that may be missing states a value: the field is there and states it, or it is missing
and the value is the default. -/
def StatesOr (fields : List (String × Document)) (name : String) (missing : α)
    (states : Document → α → Prop) (value : α) : Prop :=
  (∃ document, (name, document) ∈ fields ∧ states document value) ∨
    (name ∉ fields.map (·.1) ∧ value = missing)

/-- A list states some values, one item each. -/
def StatesList (states : Document → α → Prop) (document : Document) (values : List α) : Prop :=
  ∃ items, document = .list items ∧ List.Forall₂ states items values

/-- The documents that state a condition. -/
inductive StatesCondition : Document → Condition → Prop where
  | test {fields : List (String × Document)} {comparison : Comparison} {a : Attribute}
      {pattern : String} :
      HasOnly ["attribute", "value"] fields → ("attribute", .text a.key) ∈ fields →
      ("value", .text pattern) ∈ fields →
      StatesCondition (.record [(comparison.name, .record fields)]) (.test comparison a pattern)
  | all {items : List Document} {conditions : List Condition} :
      List.Forall₂ StatesCondition items conditions →
      StatesCondition (.record [("and", .list items)]) (.all conditions)
  | any {items : List Document} {conditions : List Condition} :
      List.Forall₂ StatesCondition items conditions →
      StatesCondition (.record [("or", .list items)]) (.any conditions)
  | not {body : Document} {condition : Condition} :
      StatesCondition body condition → StatesCondition (.record [("not", body)]) (.not condition)

/-- The documents that state a rule. -/
inductive StatesRule : Document → Rule → Prop where
  | intro {fields : List (String × Document)} {rule : Rule}
      (only : HasOnly ["name", "effect", "conditions", "priority"] fields)
      (name : ("name", .text rule.name) ∈ fields)
      (effect : ("effect", .text rule.effect.name) ∈ fields)
      (conditions : StatesOr fields "conditions" [] (StatesList StatesCondition) rule.conditions)
      (priority : StatesOr fields "priority" 0 (fun document priority =>
        document = .natural priority.toNat) rule.priority) :
      StatesRule (.record fields) rule

/-- The documents that state a policy. -/
inductive States : Document → Policy → Prop where
  | intro {fields : List (String × Document)} {policy : Policy}
      (only : HasOnly ["default_effect", "rules"] fields)
      (defaultEffect : StatesOr fields "default_effect" .deny (fun document effect =>
        document = .text effect.name) policy.defaultEffect)
      (rules : StatesOr fields "rules" [] (StatesList StatesRule) policy.rules) :
      States (.record fields) policy

/-! ## How the parts are written -/

/-- Whatever is under a name has a property. -/
def AllUnder (fields : List (String × Document)) (name : String) (p : Document → Prop) : Prop :=
  ∀ document, (name, document) ∈ fields → p document

/-- A document that is a text. -/
def IsText (document : Document) : Prop := ∃ content, document = .text content

/-- A list of documents with a property. -/
def IsListOf (p : Document → Prop) (document : Document) : Prop :=
  ∃ items, document = .list items ∧ ∀ item ∈ items, p item

mutual

/-- Conditions and the bodies of tests are records, joined conditions lists, and attributes texts.
Fields with other names are not looked at. -/
inductive IsPlainCondition : Document → Prop where
  | intro {fields : List (String × Document)} :
      (∀ field ∈ fields, IsPlainField field) → IsPlainCondition (.record fields)

/-- What stands under a name in a condition is written as the name asks for. -/
inductive IsPlainField : String × Document → Prop where
  | test {comparison : Comparison} {fields : List (String × Document)} :
      AllUnder fields "attribute" IsText → IsPlainField (comparison.name, .record fields)
  | all {items : List Document} :
      (∀ item ∈ items, IsPlainCondition item) → IsPlainField ("and", .list items)
  | any {items : List Document} :
      (∀ item ∈ items, IsPlainCondition item) → IsPlainField ("or", .list items)
  | not {body : Document} : IsPlainCondition body → IsPlainField ("not", body)
  | unknown {name : String} {body : Document} :
      name ∉ ["equals", "contains", "ends_with", "and", "or", "not"] → IsPlainField (name, body)

end

/-- A rule is a record, its effect a text and its conditions a list. -/
def IsPlainRule (document : Document) : Prop :=
  ∃ fields, document = .record fields ∧ AllUnder fields "effect" IsText ∧
    AllUnder fields "conditions" (IsListOf IsPlainCondition)

/-- A policy is a record, its default effect a text and its rules a list. -/
def IsPlain (document : Document) : Prop :=
  ∃ fields, document = .record fields ∧ AllUnder fields "default_effect" IsText ∧
    AllUnder fields "rules" (IsListOf IsPlainRule)

/-! ## Fields -/

theorem fields?_record_iff {names : List String} {found : Fields Document} :
    (record fields).fields? dialect names = some found ↔ HasOnly names fields ∧ found = fields := by
  rw [fields?]
  have checked : (fields.all (·.1 ∈ names) && (fields.map (·.1)).Nodup) = true ↔
      HasOnly names fields := by
    simp only [HasOnly, Bool.and_eq_true, List.all_eq_true, decide_eq_true_eq]
  by_cases only : HasOnly names fields
  · rw [if_pos (checked.2 only), Option.some.injEq, eq_comm]
    exact ⟨fun same => ⟨only, same⟩, And.right⟩
  · rw [if_neg fun found => only (checked.1 found)]
    simp [only]

theorem read?_eq_some_iff (distinct : (fields.map (·.1)).Nodup) {name : String}
    {read : Document → Option α} {value : α} : Fields.read? fields name read = some value ↔
      ∃ document, (name, document) ∈ fields ∧ read document = some value := by
  simp only [Fields.read?, Option.bind_eq_some_iff, Fields.lookup_eq_some_iff distinct]

theorem readOr_eq_some_iff (distinct : (fields.map (·.1)).Nodup) {name : String} {missing : α}
    {read : Document → Option α} {value : α} : Fields.readOr fields name missing read = some value ↔
      StatesOr fields name missing (fun document value => read document = some value) value := by
  rw [Fields.readOr, StatesOr]
  cases found : fields.lookup name with
  | some document =>
    have there := (Fields.lookup_eq_some_iff distinct).1 found
    have known : name ∈ fields.map (·.1) := List.mem_map_of_mem (f := (·.1)) there
    simp only [known, not_true, false_and, or_false, ← Fields.lookup_eq_some_iff distinct, found,
      Option.some.injEq]
    simp
  | none =>
    have absent : name ∉ fields.map (·.1) := by
      intro known
      obtain ⟨field, inside, rfl⟩ := List.mem_map.1 known
      rw [(Fields.lookup_eq_some_iff distinct).2 inside] at found
      cases found
    simp only [absent, not_false_iff, true_and, ← Fields.lookup_eq_some_iff distinct, found,
      Option.some.injEq]
    simp [eq_comm]

theorem StatesOr.imp {name : String} {missing value : α} {states states' : Document → α → Prop}
    (h : StatesOr fields name missing states value)
    (step : ∀ document, (name, document) ∈ fields →
      states document value → states' document value) :
    StatesOr fields name missing states' value := by
  rcases h with ⟨document, there, stated⟩ | missing
  · exact .inl ⟨document, there, step document there stated⟩
  · exact .inr missing

theorem allUnder_of_mem (distinct : (fields.map (·.1)).Nodup) {name : String} {document : Document}
    (there : (name, document) ∈ fields) {p : Document → Prop} (h : p document) :
    AllUnder fields name p := by
  intro document' inside
  -- nothing else is under the name, which would be repeated
  have same := List.inj_on_of_nodup_map distinct inside there rfl
  rw [(Prod.mk.inj same).2]
  exact h

/-- What a field that may be missing states is all that is under its name. -/
theorem StatesOr.allUnder {α : Type} {name : String} {missing value : α}
    {states : Document → α → Prop} (h : StatesOr fields name missing states value)
    (distinct : (fields.map (·.1)).Nodup) {p : Document → Prop}
    (step : ∀ document, states document value → p document) : AllUnder fields name p := by
  rcases h with ⟨document, there, stated⟩ | ⟨absent, -⟩
  · exact allUnder_of_mem distinct there (step document stated)
  · exact fun document inside => absurd (List.mem_map_of_mem (f := (·.1)) inside) absent

/-! ## Lists -/

theorem mapM_eq_some_iff {f : α → Option β} {items : List α} {values : List β} :
    items.mapM f = some values ↔
      List.Forall₂ (fun item value => f item = some value) items values := by
  induction items generalizing values with
  | nil => simp [eq_comm]
  | cons item items ih =>
    rw [List.mapM_cons]
    cases values with
    | nil => cases f item <;> cases items.mapM f <;> simp
    | cons value values =>
      rw [List.forall₂_cons, ← ih]
      cases f item <;> cases items.mapM f <;> simp

theorem forall₂_imp {r s : α → β → Prop} {items : List α} {values : List β}
    (h : List.Forall₂ r items values)
    (step : ∀ item ∈ items, ∀ value ∈ values, r item value → s item value) :
    List.Forall₂ s items values := by
  induction h with
  | nil => exact .nil
  | cons first _ ih =>
    refine .cons (step _ List.mem_cons_self _ List.mem_cons_self first) (ih ?_)
    exact fun item inside value inside' =>
      step item (List.mem_cons_of_mem _ inside) value (List.mem_cons_of_mem _ inside')

theorem forall_of_forall₂ {r : α → β → Prop} {p : α → Prop} {items : List α} {values : List β}
    (h : List.Forall₂ r items values) (step : ∀ item, ∀ value ∈ values, r item value → p item) :
    ∀ item ∈ items, p item := by
  induction h with
  | nil => exact List.forall_mem_nil _
  | cons first _ ih =>
    rw [List.forall_mem_cons]
    exact ⟨step _ _ List.mem_cons_self first, ih fun item value inside =>
      step item value (List.mem_cons_of_mem _ inside)⟩

theorem conditions?_eq_mapM (items : List Document) :
    conditions? dialect items = items.mapM (condition? dialect) := by
  induction items with
  | nil => rfl
  | cons item items ih => rw [conditions?, List.mapM_cons, ih]

/-! ## Words -/

theorem text?_eq_some_iff {document : Document} {content : String} :
    document.text? = some content ↔ document = .text content := by
  cases document <;> simp [text?]

theorem effect?_text_iff {content : String} {effect : Effect} :
    (text content).effect? dialect = some effect ↔ content = effect.name :=
  Effect.ofName?_eq_some_iff

theorem attribute?_text_iff {content : String} {a : Attribute} :
    (text content).attribute? dialect = some a ↔ content = a.key :=
  Attribute.ofKey?_eq_some_iff

theorem priority?_eq_some_iff {document : Document} {priority : UInt32} :
    document.priority? = some priority ↔ document = .natural priority.toNat := by
  constructor
  · intro h
    cases document with
    | natural value =>
      rw [priority?] at h
      split at h
      · rename_i small
        cases h
        rw [Nat.toUInt32, UInt32.toNat_ofNat_of_lt' small]
      · cases h
    | _ => cases h
  · rintro rfl
    rw [priority?, if_pos priority.toNat_lt]
    simp

/-! ## Conditions -/

/-- A record that says a condition has one field. -/
theorem exists_eq_singleton_of_condition? {condition : Condition}
    (h : condition? dialect (.record fields) = some condition) : ∃ field, fields = [field] := by
  cases fields with
  | nil => cases h
  | cons field others =>
    cases others with
    | nil => exact ⟨field, rfl⟩
    | cons => cases h

/-- What a record of one field is read as, by the name of the field. -/
theorem condition?_single (name : String) (body : Document) :
    condition? dialect (.record [(name, body)]) =
      if name = "and" then (body.items?.bind (·.mapM (condition? dialect))).map .all
      else if name = "or" then (body.items?.bind (·.mapM (condition? dialect))).map .any
      else if name = "not" then (condition? dialect body).map .not
      else (Comparison.ofName? name).bind fun comparison => body.test? dialect comparison := by
  cases body with
  | list items =>
    rw [condition?, items?, Option.bind_some, conditions?_eq_mapM]
    cases Comparison.ofName? name <;> rfl
  | _ =>
    rw [condition?]
    · cases Comparison.ofName? name <;> rfl
    · intro items same
      cases same

theorem condition?_test (comparison : Comparison) (body : Document) :
    condition? dialect (.record [(comparison.name, body)]) = body.test? dialect comparison := by
  have keyword : ∀ word ∈ ["and", "or", "not"], comparison.name ≠ word := by
    cases comparison <;> decide
  rw [condition?_single, if_neg (keyword "and" (by decide)), if_neg (keyword "or" (by decide)),
    if_neg (keyword "not" (by decide)), Comparison.ofName?_name, Option.bind_some]

theorem condition?_and (items : List Document) :
    condition? dialect (.record [("and", .list items)]) =
      (items.mapM (condition? dialect)).map .all := by
  rw [condition?_single, if_pos rfl, items?, Option.bind_some]

theorem condition?_or (items : List Document) :
    condition? dialect (.record [("or", .list items)]) =
      (items.mapM (condition? dialect)).map .any := by
  rw [condition?_single, if_neg (by decide), if_pos rfl, items?, Option.bind_some]

theorem condition?_not (body : Document) :
    condition? dialect (.record [("not", body)]) = (condition? dialect body).map .not := by
  rw [condition?_single, if_neg (by decide), if_neg (by decide), if_pos rfl]

theorem condition?_unknown {name : String}
    (h : name ∉ ["equals", "contains", "ends_with", "and", "or", "not"]) (body : Document) :
    condition? dialect (.record [(name, body)]) = none := by
  simp only [List.mem_cons, List.not_mem_nil, or_false, not_or] at h
  obtain ⟨equals, contains, endsWith, all, any, not⟩ := h
  have unknown : Comparison.ofName? name = none := by
    simp [Comparison.ofName?, Comparison.name, Ne.symm equals, Ne.symm contains, Ne.symm endsWith]
  rw [condition?_single, if_neg all, if_neg any, if_neg not, unknown, Option.bind_none]

theorem test?_record_iff {comparison : Comparison} {condition : Condition} :
    (record fields).test? dialect comparison = some condition ↔
      HasOnly ["attribute", "value"] fields ∧ ∃ a pattern,
        (∃ document, ("attribute", document) ∈ fields ∧ document.attribute? dialect = some a) ∧
          ("value", .text pattern) ∈ fields ∧ condition = .test comparison a pattern := by
  constructor
  · intro h
    simp only [test?, Option.bind_eq_bind, Option.bind_eq_some_iff, fields?_record_iff] at h
    obtain ⟨found, ⟨only, rfl⟩, a, a_read, pattern, pattern_read, made⟩ := h
    rw [read?_eq_some_iff only.2] at a_read pattern_read
    obtain ⟨document, there, text⟩ := pattern_read
    rw [text?_eq_some_iff.1 text] at there
    exact ⟨only, a, pattern, a_read, there, (Option.some.inj made).symm⟩
  · rintro ⟨only, a, pattern, a_read, there, rfl⟩
    have a_read := (read?_eq_some_iff only.2).2 a_read
    have pattern_read := (read?_eq_some_iff only.2).2 ⟨_, there, text?_eq_some_iff.2 rfl⟩
    simp [test?, fields?_record_iff.2 ⟨only, rfl⟩, a_read, pattern_read]

theorem condition?_of_states {document : Document} {condition : Condition}
    (h : StatesCondition document condition) : document.condition? dialect = some condition := by
  induction condition generalizing document with
  | test comparison a pattern =>
    cases h with
    | test only a_field pattern_field =>
      rw [condition?_test, test?_record_iff]
      exact ⟨only, a, pattern, ⟨_, a_field, attribute?_text_iff.2 rfl⟩, pattern_field, rfl⟩
  | all conditions ih =>
    cases h with
    | all stated =>
      have read := mapM_eq_some_iff.2
        (forall₂_imp stated fun _ _ condition inside => ih condition inside)
      rw [condition?_and, read, Option.map_some]
  | any conditions ih =>
    cases h with
    | any stated =>
      have read := mapM_eq_some_iff.2
        (forall₂_imp stated fun _ _ condition inside => ih condition inside)
      rw [condition?_or, read, Option.map_some]
  | not condition ih =>
    cases h with
    | not stated => rw [condition?_not, ih stated, Option.map_some]

/-- A plain condition is read as nothing but what it states. The induction is on how it is written;
within it a record has a single field, since no other is a condition. -/
theorem statesCondition_of_condition? {document : Document} (plain : IsPlainCondition document) :
    ∀ condition, document.condition? dialect = some condition →
      StatesCondition document condition := by
  refine @IsPlainCondition.rec
    (fun document _ => ∀ condition, document.condition? dialect = some condition →
      StatesCondition document condition)
    (fun field _ => ∀ condition, (record [field]).condition? dialect = some condition →
      StatesCondition (record [field]) condition)
    ?single ?test ?all ?any ?not ?unknown document plain
  case single =>
    intro fields _ ih condition h
    obtain ⟨field, rfl⟩ := exists_eq_singleton_of_condition? h
    exact ih field List.mem_cons_self condition h
  case test =>
    intro comparison fields texts condition h
    rw [condition?_test, test?_record_iff] at h
    obtain ⟨only, a, pattern, ⟨document, there, word⟩, pattern_field, rfl⟩ := h
    obtain ⟨content, rfl⟩ := texts document there
    rw [attribute?_text_iff.1 word] at there
    exact .test only there pattern_field
  case all =>
    intro items _ ih condition h
    rw [condition?_and, Option.map_eq_some_iff] at h
    obtain ⟨conditions, read, rfl⟩ := h
    exact .all (forall₂_imp (mapM_eq_some_iff.1 read) fun item inside condition _ =>
      ih item inside condition)
  case any =>
    intro items _ ih condition h
    rw [condition?_or, Option.map_eq_some_iff] at h
    obtain ⟨conditions, read, rfl⟩ := h
    exact .any (forall₂_imp (mapM_eq_some_iff.1 read) fun item inside condition _ =>
      ih item inside condition)
  case not =>
    intro body _ ih condition h
    rw [condition?_not, Option.map_eq_some_iff] at h
    obtain ⟨inner, read, rfl⟩ := h
    exact .not (ih inner read)
  case unknown =>
    intro name body other condition h
    rw [condition?_unknown other] at h
    cases h

/-! ## Rules and policies -/

theorem rule?_record_iff {rule : Rule} : (record fields).rule? dialect = some rule ↔
    HasOnly ["name", "effect", "conditions", "priority"] fields ∧
      ("name", .text rule.name) ∈ fields ∧
      (∃ document, ("effect", document) ∈ fields ∧
        document.effect? dialect = some rule.effect) ∧
      StatesOr fields "conditions" [] (fun document conditions =>
        document.items?.bind (conditions? dialect) = some conditions) rule.conditions ∧
      StatesOr fields "priority" 0 (fun document priority =>
        document.priority? = some priority) rule.priority := by
  constructor
  · intro h
    simp only [rule?, Option.bind_eq_bind, Option.bind_eq_some_iff, fields?_record_iff] at h
    obtain ⟨found, ⟨only, rfl⟩, name, name_read, effect, effect_read, conditions, conditions_read,
      priority, priority_read, made⟩ := h
    rw [read?_eq_some_iff only.2] at name_read effect_read
    rw [readOr_eq_some_iff only.2] at conditions_read priority_read
    obtain ⟨document, there, text⟩ := name_read
    rw [text?_eq_some_iff.1 text] at there
    rw [← Option.some.inj made]
    exact ⟨only, there, effect_read, conditions_read, priority_read⟩
  · rintro ⟨only, there, effect_read, conditions_read, priority_read⟩
    have name_read := (read?_eq_some_iff only.2).2 ⟨_, there, text?_eq_some_iff.2 rfl⟩
    have effect_read := (read?_eq_some_iff only.2).2 effect_read
    have conditions_read := (readOr_eq_some_iff only.2).2 conditions_read
    have priority_read := (readOr_eq_some_iff only.2).2 priority_read
    simp [rule?, fields?_record_iff.2 ⟨only, rfl⟩, name_read, effect_read, conditions_read,
      priority_read]

theorem rule?_of_states {document : Document} {rule : Rule} (h : StatesRule document rule) :
    document.rule? dialect = some rule := by
  obtain ⟨only, name, effect, conditions, priority⟩ := h
  rw [rule?_record_iff]
  refine ⟨only, name, ⟨_, effect, effect?_text_iff.2 rfl⟩, conditions.imp ?_, priority.imp ?_⟩
  · rintro _ - ⟨items, rfl, stated⟩
    rw [items?, Option.bind_some, conditions?_eq_mapM, mapM_eq_some_iff]
    exact forall₂_imp stated fun _ _ _ _ => condition?_of_states
  · exact fun _ _ => priority?_eq_some_iff.2

theorem statesRule_of_rule? {document : Document} {rule : Rule} (plain : IsPlainRule document)
    (h : document.rule? dialect = some rule) : StatesRule document rule := by
  obtain ⟨fields, rfl, effect_plain, conditions_plain⟩ := plain
  rw [rule?_record_iff] at h
  obtain ⟨only, name, ⟨effect, there, word⟩, conditions, priority⟩ := h
  obtain ⟨content, rfl⟩ := effect_plain effect there
  rw [effect?_text_iff.1 word] at there
  refine .intro only name there (conditions.imp fun document inside read => ?_)
    (priority.imp fun _ _ => priority?_eq_some_iff.1)
  obtain ⟨items, rfl, plain⟩ := conditions_plain document inside
  rw [items?, Option.bind_some, conditions?_eq_mapM, mapM_eq_some_iff] at read
  exact ⟨items, rfl, forall₂_imp read fun item inside condition _ =>
    statesCondition_of_condition? (plain item inside) condition⟩

theorem policy?_record_iff {policy : Policy} : (record fields).policy? dialect = some policy ↔
    HasOnly ["default_effect", "rules"] fields ∧
      StatesOr fields "default_effect" .deny (fun document effect =>
        document.effect? dialect = some effect) policy.defaultEffect ∧
      StatesOr fields "rules" [] (fun document rules =>
        document.items?.bind (·.mapM (rule? dialect)) = some rules) policy.rules := by
  constructor
  · intro h
    simp only [policy?, Option.bind_eq_bind, Option.bind_eq_some_iff, fields?_record_iff] at h
    obtain ⟨found, ⟨only, rfl⟩, effect, effect_read, rules, rules_read, made⟩ := h
    rw [readOr_eq_some_iff only.2] at effect_read rules_read
    rw [← Option.some.inj made]
    exact ⟨only, effect_read, rules_read⟩
  · rintro ⟨only, effect_read, rules_read⟩
    have effect_read := (readOr_eq_some_iff only.2).2 effect_read
    have rules_read := (readOr_eq_some_iff only.2).2 rules_read
    simp [policy?, fields?_record_iff.2 ⟨only, rfl⟩, effect_read, rules_read]

/-- A policy that a document states is what the document is read as, in every dialect. -/
theorem policy?_of_states {document : Document} {policy : Policy} (h : document.States policy) :
    document.policy? dialect = some policy := by
  obtain ⟨only, effect, rules⟩ := h
  rw [policy?_record_iff]
  refine ⟨only, effect.imp ?_, rules.imp ?_⟩
  · rintro _ - rfl
    exact effect?_text_iff.2 rfl
  · rintro _ - ⟨items, rfl, stated⟩
    rw [items?, Option.bind_some, mapM_eq_some_iff]
    exact forall₂_imp stated fun _ _ _ _ => rule?_of_states

/-- A plain document is read as the policy that it states, and as none if it states none. -/
theorem policy?_eq_some_iff {document : Document} (plain : document.IsPlain) (policy : Policy) :
    document.policy? dialect = some policy ↔ document.States policy := by
  refine ⟨fun h => ?_, policy?_of_states⟩
  obtain ⟨fields, rfl, effect_plain, rules_plain⟩ := plain
  obtain ⟨only, effect, rules⟩ := policy?_record_iff.1 h
  refine .intro only (effect.imp fun document inside read => ?_)
    (rules.imp fun document inside read => ?_)
  · obtain ⟨content, rfl⟩ := effect_plain document inside
    rw [effect?_text_iff.1 read]
  · obtain ⟨items, rfl, plain⟩ := rules_plain document inside
    rw [items?, Option.bind_some, mapM_eq_some_iff] at read
    exact ⟨items, rfl, forall₂_imp read fun item inside rule _ =>
      statesRule_of_rule? (plain item inside)⟩

/-! ## Plainness -/

theorem StatesCondition.isPlain {document : Document} {condition : Condition}
    (h : StatesCondition document condition) : IsPlainCondition document := by
  induction condition generalizing document with
  | test comparison a pattern =>
    cases h with
    | test only a_field =>
      exact .intro (List.forall_mem_singleton.2 (.test (allUnder_of_mem only.2 a_field ⟨_, rfl⟩)))
  | all conditions ih =>
    cases h with
    | all stated =>
      exact .intro (List.forall_mem_singleton.2 (.all (forall_of_forall₂ stated
        fun _ condition inside => ih condition inside)))
  | any conditions ih =>
    cases h with
    | any stated =>
      exact .intro (List.forall_mem_singleton.2 (.any (forall_of_forall₂ stated
        fun _ condition inside => ih condition inside)))
  | not condition ih =>
    cases h with
    | not stated => exact .intro (List.forall_mem_singleton.2 (.not (ih stated)))

theorem StatesRule.isPlain {document : Document} {rule : Rule} (h : StatesRule document rule) :
    IsPlainRule document := by
  obtain ⟨only, name, effect, conditions, priority⟩ := h
  refine ⟨_, rfl, allUnder_of_mem only.2 effect ⟨_, rfl⟩, conditions.allUnder only.2 ?_⟩
  rintro _ ⟨items, rfl, stated⟩
  exact ⟨items, rfl, forall_of_forall₂ stated fun _ _ _ => StatesCondition.isPlain⟩

/-- A document that states a policy is plain. -/
theorem States.isPlain {document : Document} {policy : Policy} (h : document.States policy) :
    document.IsPlain := by
  obtain ⟨only, effect, rules⟩ := h
  refine ⟨_, rfl, effect.allUnder only.2 fun _ stated => ⟨_, stated⟩, rules.allUnder only.2 ?_⟩
  rintro _ ⟨items, rfl, stated⟩
  exact ⟨items, rfl, forall_of_forall₂ stated fun _ _ _ => StatesRule.isPlain⟩

end AccessStream.Policy.Document
