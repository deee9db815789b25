import AccessStream.Command.Listing
import AccessStream.Policy.Format
import AccessStream.Proofs.Json.Pretty
import AccessStream.Proofs.Policy.Document
import AccessStream.Proofs.Policy.Validation

/-!
# Policies in JSON texts

A JSON text whose document is written plainly gives exactly the well-formed policy that the document
states, and none if it states none (`Policy.parse_json_eq_ok_iff`). No document that states a
well-formed policy meets the limit on nesting, since a condition nests at most twice its depth
(`Policy.Document.States.fits`). So every well-formed policy is read back from its text and from
what is shown of it (`Policy.parse_format_json`).
-/

namespace AccessStream

namespace Policy.Document

/-! ## Nesting -/

/-- Whether a document holds no value of another type and nests at most the given number of lists
and records. -/
def fits : Nat → Document → Bool
  | _, .text _ => true
  | _, .natural _ => true
  | _, .null => true
  | _, .other => false
  | 0, .list _ => false
  | 0, .record _ => false
  | depth + 1, .list items => items.all (fits depth)
  | depth + 1, .record fields => fields.all fun field => fits depth field.2

theorem fits_list_iff {depth : Nat} {items : List Document} :
    (list items).fits (depth + 1) = true ↔ ∀ item ∈ items, item.fits depth = true :=
  List.all_eq_true

theorem fits_record_iff {depth : Nat} {fields : List (String × Document)} :
    (record fields).fits (depth + 1) = true ↔ ∀ field ∈ fields, field.2.fits depth = true :=
  List.all_eq_true

theorem fits_mono {depth depth' : Nat} (le : depth ≤ depth') {document : Document}
    (h : document.fits depth = true) : document.fits depth' = true := by
  induction depth generalizing depth' document with
  | zero => cases document <;> cases depth' <;> first | rfl | cases h
  | succ depth ih =>
    obtain ⟨depth', rfl⟩ : ∃ more, depth' = more + 1 := ⟨depth' - 1, by omega⟩
    cases document with
    | list items =>
      rw [fits_list_iff] at h ⊢
      exact fun item inside => ih (Nat.le_of_succ_le_succ le) (h item inside)
    | record fields =>
      rw [fits_record_iff] at h ⊢
      exact fun field inside => ih (Nat.le_of_succ_le_succ le) (h field inside)
    | _ => exact h

theorem ofJsonItems_eq_map (items : List Json.Value) : ofJsonItems items = items.map ofJson := by
  induction items with
  | nil => rfl
  | cons item items ih => rw [ofJsonItems, ih, List.map_cons]

theorem ofJsonMembers_eq_map (members : List (String × Json.Value)) :
    ofJsonMembers members = members.map fun member => (member.1, ofJson member.2) := by
  induction members with
  | nil => rfl
  | cons member members ih =>
    obtain ⟨key, value⟩ := member
    rw [ofJsonMembers, ih, List.map_cons]

theorem fits_number {depth : Nat} {number : Json.Number}
    (h : (ofJson (.number number)).fits depth = true) : number.fits = true := by
  have seen : number.natural? ≠ none := by
    intro none
    rw [ofJson, none] at h
    cases depth <;> cases h
  rw [Json.Number.natural?] at seen
  split at seen
  · rename_i plain
    simp only [Bool.and_eq_true] at plain
    rw [Json.Number.fits, plain.1, Bool.true_or]
  · exact absurd rfl seen

/-- A JSON value fits if what policies see of it does. -/
theorem fits_of_fits_ofJson {depth : Nat} {value : Json.Value}
    (h : (ofJson value).fits depth = true) : value.fits depth = true := by
  induction depth generalizing value with
  | zero =>
    cases value with
    | number number => exact fits_number h
    | array items => cases h
    | object members => cases h
    | _ => rfl
  | succ depth ih =>
    cases value with
    | number number => exact fits_number h
    | array items =>
      rw [ofJson, fits_list_iff, ofJsonItems_eq_map] at h
      refine List.all_eq_true.2 fun item inside => ih (h _ (List.mem_map_of_mem inside))
    | object members =>
      rw [ofJson, fits_record_iff, ofJsonMembers_eq_map] at h
      exact List.all_eq_true.2 fun member inside => ih (h _ (List.mem_map_of_mem inside))
    | _ => rfl

theorem HasOnly.fits_record {names : List String} {fields : List (String × Document)}
    (only : HasOnly names fields) {depth : Nat}
    (h : ∀ name ∈ names, AllUnder fields name fun document => document.fits depth = true) :
    (record fields).fits (depth + 1) = true :=
  fits_record_iff.2 fun field inside => h field.1 (only.1 field inside) field.2 inside

theorem StatesList.fits_list {α : Type} {states : Document → α → Prop} {document : Document}
    {values : List α} (h : StatesList states document values) {depth : Nat}
    (step : ∀ item, ∀ value ∈ values, states item value → item.fits depth = true) :
    document.fits (depth + 1) = true := by
  obtain ⟨items, rfl, stated⟩ := h
  exact fits_list_iff.2 (forall_of_forall₂ stated step)

theorem fits_single {name : String} {body : Document} {depth : Nat}
    (h : body.fits depth = true) : (record [(name, body)]).fits (depth + 1) = true :=
  fits_record_iff.2 fun _ inside => List.mem_singleton.1 inside ▸ h

theorem fits_join {name : String} {items : List Document} {conditions : List Condition}
    (stated : List.Forall₂ StatesCondition items conditions)
    (h : ∀ condition ∈ conditions, ∀ {document : Document}, StatesCondition document condition →
      document.fits (2 * condition.depth) = true) :
    (record [(name, list items)]).fits (2 * (1 + Condition.depthOfList conditions)) = true := by
  have size : 2 * (1 + Condition.depthOfList conditions) =
      2 * Condition.depthOfList conditions + 1 + 1 := by omega
  rw [size]
  refine fits_single (StatesList.fits_list ⟨items, rfl, stated⟩ fun _ condition inside stated => ?_)
  have le := Condition.depth_le_depthOfList inside
  exact fits_mono (by omega) (h condition inside stated)

/-- A condition nests at most twice its depth: each level is a record that holds a list or a
record. -/
theorem StatesCondition.fits {document : Document} {condition : Condition}
    (h : StatesCondition document condition) :
    document.fits (2 * condition.depth) = true := by
  induction condition generalizing document with
  | test comparison a pattern =>
    cases h with
    | test only a_field pattern_field =>
      refine fits_single (only.fits_record ?_)
      simp only [List.forall_mem_cons, List.not_mem_nil, false_imp_iff, implies_true, and_true]
      exact ⟨allUnder_of_mem only.2 a_field rfl, allUnder_of_mem only.2 pattern_field rfl⟩
  | all conditions ih =>
    cases h with
    | all stated =>
      rw [Condition.depth]
      exact fits_join stated fun condition inside _ => ih condition inside
  | any conditions ih =>
    cases h with
    | any stated =>
      rw [Condition.depth]
      exact fits_join stated fun condition inside _ => ih condition inside
  | not condition ih =>
    cases h with
    | not stated =>
      have size : 2 * (1 + condition.depth) = 2 * condition.depth + 1 + 1 := by omega
      rw [Condition.depth, size]
      exact fits_single (fits_mono (Nat.le_succ _) (ih stated))

theorem StatesRule.fits {document : Document} {rule : Rule} (h : StatesRule document rule)
    (shallow : ∀ condition ∈ rule.conditions, condition.depth ≤ Condition.maxDepth) :
    document.fits (2 * Condition.maxDepth + 2) = true := by
  obtain ⟨only, name, effect, conditions, priority⟩ := h
  refine only.fits_record ?_
  simp only [List.forall_mem_cons, List.not_mem_nil, false_imp_iff, implies_true, and_true]
  refine ⟨allUnder_of_mem only.2 name rfl, allUnder_of_mem only.2 effect rfl,
    conditions.allUnder only.2 fun document stated => ?_,
    priority.allUnder only.2 fun document stated => ?_⟩
  · refine stated.fits_list fun item condition inside stated => ?_
    exact fits_mono (Nat.mul_le_mul_left 2 (shallow condition inside)) stated.fits
  · rw [stated]
    rfl

/-- No document that states a well-formed policy nests past the limit of the reader. -/
theorem States.fits {document : Document} {policy : Policy} (h : document.States policy)
    (valid : policy.IsValid) : document.fits Json.Value.maxDepth = true := by
  have enough : 2 * Condition.maxDepth + 2 + 1 + 1 ≤ Json.Value.maxDepth := by decide
  refine fits_mono enough ?_
  obtain ⟨only, effect, rules⟩ := h
  refine only.fits_record ?_
  simp only [List.forall_mem_cons, List.not_mem_nil, false_imp_iff, implies_true, and_true]
  refine ⟨effect.allUnder only.2 fun document stated => ?_,
    rules.allUnder only.2 fun document stated => ?_⟩
  · rw [stated]
    rfl
  · exact stated.fits_list fun item rule declared stated =>
      stated.fits fun condition listed => valid.depth_le declared listed

/-- The priorities that policies see in JSON are the numbers of 32 bits that are written as digits
alone. -/
theorem ofJson_number_eq_natural_iff {literal : Bytes} {number : Json.Number}
    (h : Json.NumberForm literal number) (priority : UInt32) :
    ofJson (.number number) = .natural priority.toNat ↔
      (∀ byte ∈ literal, Json.Number.isDigit byte = true) ∧
        Json.Number.ofDigits literal = priority.toNat := by
  have small : priority.toNat ≤ Json.Number.maxSignificand :=
    Nat.le_trans (Nat.le_of_lt priority.toNat_lt) (by decide)
  have seen : ofJson (.number number) = .natural priority.toNat ↔
      number.natural? = some priority.toNat := by
    rw [ofJson]
    cases number.natural? <;> simp
  rw [seen, Json.Number.natural?_eq_some_iff h]
  simp only [small, and_true]

end Policy.Document

/-! ## Reading -/

namespace Policy

theorem parse_eq_ok_iff {format : PolicyFormat} {text : String} {policy : Policy} :
    parse format text = .ok policy ↔ ofText? format text = some policy ∧ policy.IsValid := by
  rw [parse, IsValid]
  cases ofText? format text with
  | none => simp
  | some found =>
    simp only [Option.some.injEq]
    cases flaw : found.flaw? with
    | none =>
      simp only [Except.ok.injEq]
      exact ⟨fun same => ⟨same, same ▸ flaw⟩, And.left⟩
    | some flaw =>
      simp only [reduceCtorEq, false_iff, not_and]
      rintro rfl
      simp [*]

/-- The text of a document that states a well-formed policy is read as this policy. -/
theorem parse_json_of_states {text : String} {value : Json.Value}
    (written : value.DocumentForm (Utf8.encode text)) {policy : Policy}
    (stated : (Document.ofJson value).States policy) (valid : policy.IsValid) :
    parse .json text = .ok policy := by
  have read : Json.Value.read text = .ok value :=
    (Json.Value.read_eq_ok_iff written).2
      ⟨Document.fits_of_fits_ofJson (stated.fits valid), rfl⟩
  refine parse_eq_ok_iff.2 ⟨?_, valid⟩
  rw [ofText?, ofJsonText?, read]
  exact Document.policy?_of_states stated

/-- A text whose document is plain is read as the well-formed policy that the document states, and
refused if it states none. A number is a priority only if it is written as digits alone and below
2^32. -/
theorem parse_json_eq_ok_iff {text : String} {value : Json.Value}
    (written : value.DocumentForm (Utf8.encode text)) (plain : (Document.ofJson value).IsPlain) :
    (∀ policy, parse .json text = .ok policy ↔
      (Document.ofJson value).States policy ∧ policy.IsValid) ∧
    ∀ literal number, Json.NumberForm literal number → ∀ priority : UInt32,
      Document.ofJson (.number number) = .natural priority.toNat ↔
        (∀ byte ∈ literal, Json.Number.isDigit byte = true) ∧
          Json.Number.ofDigits literal = priority.toNat := by
  refine ⟨fun policy => ⟨fun parsed => ?_, fun ⟨stated, valid⟩ =>
    parse_json_of_states written stated valid⟩, fun literal number =>
      Document.ofJson_number_eq_natural_iff⟩
  obtain ⟨read, valid⟩ := parse_eq_ok_iff.1 parsed
  refine ⟨?_, valid⟩
  rw [ofText?, ofJsonText?] at read
  cases result : Json.Value.read text with
  | error fault =>
    rw [result] at read
    cases read
  | ok found =>
    obtain ⟨-, rfl⟩ := (Json.Value.read_eq_ok_iff written).1 result
    rw [result] at read
    exact (Document.policy?_eq_some_iff plain policy).1 read

/-- Fields in another order, a priority in digits, and no default effect. -/
theorem parse_json_eq_ok_iff_of_reordered :
    let value : Json.Value := .object [("rules", .array [.object [("priority", .ofNat 7),
      ("conditions", .array [.object [("not", .object [("equals",
        .object [("value", .string "x"), ("attribute", .string "azure.role")])])]]),
      ("effect", .string "allow"), ("name", .string "r")]])]
    let policy : Policy :=
      { rules := [{ name := "r", effect := .allow, priority := 7,
                    conditions := [.not (.test .equals .role "x")] }] }
    value.DocumentForm (Utf8.encode value.toPretty) ∧ (Document.ofJson value).IsPlain ∧
      parse .json value.toPretty = .ok policy := by
  intro value policy
  have writable : value.Writable := by
    refine .object (List.forall_mem_singleton.2 (.array (List.forall_mem_singleton.2 (.object ?_))))
    simp only [List.forall_mem_cons, List.not_mem_nil, false_imp_iff, implies_true, and_true]
    refine ⟨Json.Value.writable_ofNat (by decide), .array (List.forall_mem_singleton.2 (.object
      (List.forall_mem_singleton.2 (.object (List.forall_mem_singleton.2 (.object ?_)))))),
      .string _, .string _⟩
    simp [Json.Value.Writable.string]
  have stated : (Document.ofJson value).States policy := by
    have test : Document.StatesCondition (.record [("equals", .record [("value", .text "x"),
        ("attribute", .text "azure.role")])]) (.test .equals .role "x") :=
      @Document.StatesCondition.test _ .equals .role "x" ⟨by simp, by simp⟩
        (List.mem_cons_of_mem _ List.mem_cons_self) List.mem_cons_self
    have rule : Document.StatesRule (.record [("priority", .natural 7),
        ("conditions", .list [.record [("not", .record [("equals", .record [("value", .text "x"),
          ("attribute", .text "azure.role")])])]]), ("effect", .text "allow"), ("name", .text "r")])
        { name := "r", effect := .allow, conditions := [.not (.test .equals .role "x")],
          priority := 7 } :=
      .intro ⟨by simp, by simp⟩ (by simp) (by simp [Effect.name])
        (.inl ⟨_, List.mem_cons_of_mem _ List.mem_cons_self, _, rfl, .cons (.not test) .nil⟩)
        (.inl ⟨_, List.mem_cons_self, rfl⟩)
    exact .intro ⟨by simp [Document.ofJsonMembers], by simp [Document.ofJsonMembers]⟩
      (.inr ⟨by simp [Document.ofJsonMembers], rfl⟩)
      (.inl ⟨_, List.mem_cons_self, _, rfl, .cons rule .nil⟩)
  have valid : policy.IsValid := by decide +kernel
  have written := writable.documentForm_toPretty.1
  have read := (parse_json_eq_ok_iff written stated.isPlain).1 policy
  exact ⟨written, stated.isPlain, read.2 ⟨stated, valid⟩⟩

end Policy

/-! ## Writing -/

theorem Condition.listToJson_eq_map (conditions : List Condition) :
    listToJson conditions = conditions.map toJson := by
  induction conditions with
  | nil => rfl
  | cons condition conditions ih => rw [listToJson, ih, List.map_cons]

theorem Condition.writable_listToJson {conditions : List Condition}
    (h : ∀ condition ∈ conditions, condition.toJson.Writable) :
    (Json.Value.array (listToJson conditions)).Writable := by
  rw [listToJson_eq_map]
  exact .array (List.forall_mem_map.2 h)

theorem Condition.writable_toJson (condition : Condition) : condition.toJson.Writable := by
  induction condition with
  | test comparison a pattern =>
    have body : (Json.Value.object
        [("attribute", .string a.key), ("value", .string pattern)]).Writable :=
      .object (by simp [Json.Value.Writable.string])
    exact .object (List.forall_mem_singleton.2 body)
  | all conditions ih => exact .object (List.forall_mem_singleton.2 (writable_listToJson ih))
  | any conditions ih => exact .object (List.forall_mem_singleton.2 (writable_listToJson ih))
  | not condition ih => exact .object (List.forall_mem_singleton.2 ih)

theorem Rule.writable_toJson (rule : Rule) : rule.toJson.Writable := by
  have conditions : (Json.Value.array (Condition.listToJson rule.conditions)).Writable :=
    Condition.writable_listToJson fun condition _ => condition.writable_toJson
  have priority : rule.priority.toNat ≤ Json.Number.maxSignificand :=
    Nat.le_trans (Nat.le_of_lt rule.priority.toNat_lt) (by decide)
  refine .object ?_
  simp only [List.forall_mem_cons, List.not_mem_nil, false_imp_iff, implies_true, and_true]
  exact ⟨.string _, .string _, conditions, Json.Value.writable_ofNat priority⟩

theorem Policy.writable_toJson (policy : Policy) : policy.toJson.Writable := by
  refine .object ?_
  simp only [List.forall_mem_cons, List.not_mem_nil, false_imp_iff, implies_true, and_true]
  exact ⟨.string _, .array (List.forall_mem_map.2 fun rule _ => rule.writable_toJson)⟩

namespace Policy

namespace Document

theorem ofJsonItems_listToJson {conditions : List Condition}
    (h : ∀ condition ∈ conditions, ofJson condition.toJson = ofCondition condition) :
    ofJsonItems (Condition.listToJson conditions) = ofConditions conditions := by
  induction conditions with
  | nil => rfl
  | cons condition conditions ih =>
    rw [List.forall_mem_cons] at h
    rw [Condition.listToJson, ofJsonItems, ofConditions, h.1, ih h.2]

theorem ofJson_toJson (condition : Condition) :
    ofJson condition.toJson = ofCondition condition := by
  induction condition with
  | test comparison a pattern => simp [Condition.toJson, ofJson, ofJsonMembers, ofCondition]
  | all conditions ih =>
    simp [Condition.toJson, ofJson, ofJsonMembers, ofCondition, ofJsonItems_listToJson ih]
  | any conditions ih =>
    simp [Condition.toJson, ofJson, ofJsonMembers, ofCondition, ofJsonItems_listToJson ih]
  | not condition ih => simp [Condition.toJson, ofJson, ofJsonMembers, ofCondition, ih]

theorem statesRule_ofJson (rule : Rule) : StatesRule (ofJson rule.toJson) rule := by
  have conditions : ofJsonItems (Condition.listToJson rule.conditions) =
      ofConditions rule.conditions :=
    ofJsonItems_listToJson fun condition _ => ofJson_toJson condition
  have fields : ofJson rule.toJson = .record [("name", .text rule.name),
      ("effect", .text rule.effect.name), ("conditions", .list (ofConditions rule.conditions)),
      ("priority", .natural rule.priority.toNat)] := by
    simp [Rule.toJson, ofJson, ofJsonMembers, conditions, Json.Value.ofNat, Json.Number.natural?]
  rw [fields]
  exact statesRule_of_fields ⟨by simp, by simp⟩ (by simp) (by simp) (by simp) (by simp)

theorem forall₂_ofJson (rules : List Rule) :
    List.Forall₂ StatesRule (ofJsonItems (rules.map Rule.toJson)) rules := by
  induction rules with
  | nil => exact .nil
  | cons rule rules ih => exact .cons (statesRule_ofJson rule) ih

theorem states_ofJson (policy : Policy) : (ofJson policy.toJson).States policy := by
  rw [Policy.toJson, ofJson]
  refine states_of_fields ⟨?_, ?_⟩ ?_ ?_ (forall₂_ofJson policy.rules)
  · simp [ofJsonMembers]
  · simp [ofJsonMembers]
  · simp [ofJsonMembers, ofJson]
  · simp [ofJsonMembers, ofJson]

end Document

end Policy

end AccessStream
