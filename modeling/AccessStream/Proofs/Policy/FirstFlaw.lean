import AccessStream.Proofs.Policy.Validation

/-!
# The flaw that is reported

A policy may have several flaws. Which of them is reported is said here by rules, apart from the
functions that look for it: what is wrong with a condition, with a rule among earlier ones, and with
a policy. It is the flaw of the first rule that has one, so rules that are declared later do not
change it.
-/

namespace AccessStream

/-- What is wrong with a condition of the rule with a name. An empty pattern counts only where the
condition is not nested too deeply, and of several the leftmost. -/
inductive Condition.FlawIs (rule : String) (condition : Condition) : Policy.Flaw → Prop
  | tooDeep : ¬ condition.NestsWithin 16 → FlawIs rule condition (.tooDeep rule)
  | emptyPattern {comparison : Comparison} {a : Attribute}
      {before after : List (Comparison × Attribute × String)} :
      condition.NestsWithin 16 → condition.tests = before ++ (comparison, a, "") :: after →
        comparison ≠ .equals → (∀ test ∈ before, ¬ LooksForNothing test) →
        FlawIs rule condition (.emptyPattern rule comparison a)

/-- What is wrong with a rule that is declared after others: its name, or the first of its
conditions with which something is wrong. -/
inductive Rule.FlawIs (earlier : List Rule) (rule : Rule) : Policy.Flaw → Prop
  | emptyName : (∀ c ∈ rule.name.toList, c ∈ whiteSpace) →
      FlawIs earlier rule (.emptyRuleName earlier.length)
  | duplicate {other : Rule} : (∃ c ∈ rule.name.toList, c ∉ whiteSpace) → other ∈ earlier →
      other.name = rule.name → FlawIs earlier rule (.duplicateRule rule.name)
  | condition {before after : List Condition} {condition : Condition} {flaw : Policy.Flaw} :
      (∃ c ∈ rule.name.toList, c ∉ whiteSpace) → (∀ other ∈ earlier, other.name ≠ rule.name) →
        rule.conditions = before ++ condition :: after →
        (∀ other ∈ before, ∀ flaw, ¬ other.FlawIs rule.name flaw) →
        condition.FlawIs rule.name flaw → FlawIs earlier rule flaw

/-- What is wrong with a policy: what is wrong with the first of its rules that is not in order. -/
def Policy.FlawIs (policy : Policy) (flaw : Flaw) : Prop :=
  ∃ before rule after, policy.rules = before ++ rule :: after ∧ rule.FlawIs before flaw ∧
    ∀ front other back, before = front ++ other :: back → ∀ flaw, ¬ other.FlawIs front flaw

/-! ## Conditions and rules -/

theorem Condition.flaw?_eq_some_iff {rule : String} {condition : Condition} {flaw : Policy.Flaw} :
    condition.flaw? rule = some flaw ↔ condition.FlawIs rule flaw := by
  rw [flaw?]
  split
  · rename_i deep
    have nested : ¬ condition.NestsWithin 16 := by
      rw [← depth_le_iff]
      exact Nat.not_le_of_lt deep
    constructor
    · rintro ⟨⟩
      exact .tooDeep nested
    · intro h
      cases h with
      | tooDeep => rfl
      | emptyPattern shallow => exact absurd shallow nested
  · rename_i shallow
    have nested : condition.NestsWithin 16 := depth_le_iff.1 (Nat.le_of_not_lt shallow)
    rw [Option.map_eq_some_iff]
    constructor
    · rintro ⟨⟨comparison, a⟩, found, rfl⟩
      obtain ⟨before, after, split, pattern, first⟩ := emptyPattern?_eq_some_iff.1 found
      exact .emptyPattern nested split pattern first
    · intro h
      cases h with
      | tooDeep deep => exact absurd nested deep
      | emptyPattern _ split pattern first =>
        exact ⟨_, emptyPattern?_eq_some_iff.2 ⟨_, _, split, pattern, first⟩, rfl⟩

theorem Condition.flaw?_eq_none_iff_forall {rule : String} {condition : Condition} :
    condition.flaw? rule = none ↔ ∀ flaw, ¬ condition.FlawIs rule flaw := by
  rw [Option.eq_none_iff_forall_ne_some]
  simp only [ne_eq, flaw?_eq_some_iff]

namespace Rule

variable {earlier : List Rule} {rule : Rule} {flaw : Policy.Flaw}

theorem findSome?_conditions_eq_some_iff :
    rule.conditions.findSome? (Condition.flaw? rule.name) = some flaw ↔
      ∃ before condition after, rule.conditions = before ++ condition :: after ∧
        condition.FlawIs rule.name flaw ∧
        ∀ other ∈ before, ∀ flaw, ¬ other.FlawIs rule.name flaw := by
  simp only [List.findSome?_eq_some_iff, Condition.flaw?_eq_some_iff,
    Condition.flaw?_eq_none_iff_forall]

theorem flaw?_eq_some_iff : rule.flaw? (earlier.map (·.name)) = some flaw ↔
    rule.FlawIs earlier flaw := by
  rw [flaw?]
  split
  · rename_i blank
    rw [Text.isBlank_iff] at blank
    have unnamed : ¬ ∃ c ∈ rule.name.toList, c ∉ whiteSpace := by
      rintro ⟨c, inside, other⟩
      exact other (blank c inside)
    constructor
    · rintro ⟨⟩
      rw [List.length_map]
      exact .emptyName blank
    · intro h
      cases h with
      | emptyName => rw [List.length_map]
      | duplicate named => exact absurd named unnamed
      | condition named => exact absurd named unnamed
  · rename_i named
    rw [Bool.not_eq_true, Text.isBlank_eq_false_iff] at named
    have notBlank : ¬ ∀ c ∈ rule.name.toList, c ∈ whiteSpace := by
      obtain ⟨c, inside, other⟩ := named
      exact fun blank => other (blank c inside)
    split
    · rename_i repeated
      obtain ⟨other, declared, same⟩ := List.mem_map.1 repeated
      constructor
      · rintro ⟨⟩
        exact .duplicate named declared same
      · intro h
        cases h with
        | emptyName blank => exact absurd blank notBlank
        | duplicate => rfl
        | condition _ new => exact absurd same (new other declared)
    · rename_i new
      have new : ∀ other ∈ earlier, other.name ≠ rule.name :=
        fun other declared same => new (List.mem_map.2 ⟨other, declared, same⟩)
      rw [findSome?_conditions_eq_some_iff]
      constructor
      · rintro ⟨before, condition, after, split, flawed, first⟩
        exact .condition named new split first flawed
      · intro h
        cases h with
        | emptyName blank => exact absurd blank notBlank
        | duplicate _ declared same => exact absurd same (new _ declared)
        | condition _ _ split first flawed => exact ⟨_, _, _, split, flawed, first⟩

theorem flaw?_eq_none_iff_forall :
    rule.flaw? (earlier.map (·.name)) = none ↔ ∀ flaw, ¬ rule.FlawIs earlier flaw := by
  rw [Option.eq_none_iff_forall_ne_some]
  simp only [ne_eq, flaw?_eq_some_iff]

end Rule

/-! ## Policies -/

namespace Policy

theorem flawAfter?_append (earlier : List String) (rules more : List Rule) :
    flawAfter? earlier (rules ++ more) =
      (flawAfter? earlier rules).or (flawAfter? (earlier ++ rules.map (·.name)) more) := by
  induction rules generalizing earlier with
  | nil => simp [flawAfter?]
  | cons rule rules ih =>
    rw [List.cons_append, flawAfter?, flawAfter?, ih, Option.or_assoc, List.map_cons,
      List.append_assoc, List.singleton_append]

/-- The flaw of some rules is that of the first which has one among the rules before it. -/
theorem flawAfter?_eq_some_iff {earlier : List String} {rules : List Rule} {flaw : Flaw} :
    flawAfter? earlier rules = some flaw ↔ ∃ before rule after, rules = before ++ rule :: after ∧
      rule.flaw? (earlier ++ before.map (·.name)) = some flaw ∧
        flawAfter? earlier before = none := by
  constructor
  · intro found
    -- A rule that is passed counts as an earlier one for those that follow.
    induction rules generalizing earlier with
    | nil => cases found
    | cons rule rules ih =>
      rw [flawAfter?, Option.or_eq_some_iff] at found
      rcases found with here | ⟨clean, later⟩
      · exact ⟨[], rule, rules, rfl, by simpa using here, rfl⟩
      · obtain ⟨before, other, after, rfl, flawed, first⟩ := ih later
        refine ⟨rule :: before, other, after, rfl, by simpa using flawed, ?_⟩
        rw [flawAfter?, clean, first]
        rfl
  · rintro ⟨before, rule, after, rfl, flawed, first⟩
    rw [flawAfter?_append, first, Option.none_or, flawAfter?, flawed, Option.some_or]

theorem flaw?_eq_some_iff {policy : Policy} {flaw : Flaw} :
    policy.flaw? = some flaw ↔ policy.FlawIs flaw := by
  simp only [flaw?, flawAfter?_eq_some_iff, flawAfter?_eq_none_iff, List.nil_append,
    Rule.flaw?_eq_some_iff, Rule.flaw?_eq_none_iff_forall, FlawIs]

/-! ## Policies that grow -/

theorem rules_foldl_withRule (policy : Policy) (rules : List Rule) :
    (rules.foldl withRule policy).rules = policy.rules ++ rules := by
  induction rules generalizing policy with
  | nil => rw [List.foldl_nil, List.append_nil]
  | cons rule rules ih =>
    rw [List.foldl_cons, ih, withRule, List.append_assoc, List.singleton_append]

theorem flaw?_foldl_withRule (policy : Policy) (rules : List Rule) :
    (rules.foldl withRule policy).flaw? =
      policy.flaw?.or (flawAfter? (policy.rules.map (·.name)) rules) := by
  rw [flaw?, rules_foldl_withRule, flawAfter?_append, List.nil_append, flaw?]

/-- A rule is without a flaw after others if it is without one by itself and has none of their
names. -/
theorem flawAfter?_singleton_eq_none_iff {earlier : List Rule} {rule : Rule} :
    flawAfter? (earlier.map (·.name)) [rule] = none ↔
      flawAfter? [] [rule] = none ∧ ¬ ∃ other ∈ earlier, other.name = rule.name := by
  simp only [flawAfter?, Option.or_none, Rule.flaw?_eq_none_iff, List.mem_map, List.not_mem_nil,
    not_false_eq_true, true_and]
  constructor
  · rintro ⟨named, new, conditions⟩
    exact ⟨⟨named, conditions⟩, new⟩
  · rintro ⟨⟨named, conditions⟩, new⟩
    exact ⟨named, new, conditions⟩

theorem withRule_isValid_iff {policy : Policy} (valid : policy.IsValid) {rule : Rule} :
    (policy.withRule rule).IsValid ↔ ({ rules := [rule] } : Policy).IsValid ∧
      ¬ ∃ other ∈ policy.rules, other.name = rule.name := by
  -- No flaw was found before, so it is up to the new rule.
  have grown : (policy.withRule rule).flaw? =
      flawAfter? (policy.rules.map (·.name)) [rule] := by
    have one := flaw?_foldl_withRule policy [rule]
    rwa [show policy.flaw? = none from valid, Option.none_or] at one
  rw [IsValid, grown]
  exact flawAfter?_singleton_eq_none_iff

/-- The flaw that is found in a policy is that of its first rule which is not in order. Once a
policy is flawed, it keeps its flaw whatever rules it gets; and a well-formed policy becomes flawed
by a rule that is flawed alone, or that has the name of one of its rules. -/
theorem flaw?_is_first :
    (∀ (policy : Policy) (flaw : Flaw), policy.flaw? = some flaw ↔ policy.FlawIs flaw) ∧
    (∀ (policy : Policy) (rules more : List Rule) (flaw : Flaw),
      (rules.foldl withRule policy).flaw? = some flaw →
        ((rules ++ more).foldl withRule policy).flaw? = some flaw) ∧
    ∀ (policy : Policy) (rule : Rule), policy.IsValid →
      (¬ (policy.withRule rule).IsValid ↔ ¬ ({ rules := [rule] } : Policy).IsValid ∨
        ∃ other ∈ policy.rules, other.name = rule.name) := by
  refine ⟨fun policy flaw => flaw?_eq_some_iff, ?_, ?_⟩
  · intro policy rules more flaw found
    rw [List.foldl_append, flaw?_foldl_withRule, found, Option.some_or]
  · intro policy rule valid
    rw [withRule_isValid_iff valid, not_and_or, not_not]

/-- The second rule is the first that is not in order: under a negation it looks for nothing at the
end of an address, while it may ask for an empty role. The rules behind it have no name or that of
the first, and change nothing. -/
theorem flaw?_is_first_of_three :
    let guests : Rule := { name := "guests", effect := .allow }
    let staff : Rule :=
      { name := "staff", effect := .allow
        conditions :=
          [.all [.test .equals .role "", .not (.test .endsWith .email "")],
            .test .contains .groups ""] }
    let unnamed : Rule := { name := " ", effect := .deny }
    let policy : Policy := { rules := [guests] }
    policy.IsValid ∧ ¬ (policy.withRule staff).IsValid ∧
      (policy.withRule staff).FlawIs (.emptyPattern "staff" .endsWith .email) ∧
      (((policy.withRule staff).withRule unnamed).withRule guests).flaw? =
        some (.emptyPattern "staff" .endsWith .email) ∧
      ¬ (policy.withRule guests).IsValid := by
  intro guests staff unnamed policy
  have valid : policy.IsValid := by decide +kernel
  have flawed : (policy.withRule staff).flaw? = some (.emptyPattern "staff" .endsWith .email) := by
    decide +kernel
  obtain ⟨first, stays, grows⟩ := flaw?_is_first
  refine ⟨valid, ?_, (first _ _).1 flawed, stays policy [staff] [unnamed, guests] _ flawed, ?_⟩
  · rw [grows policy staff valid]
    left
    decide +kernel
  · rw [grows policy guests valid]
    right
    exact ⟨guests, List.mem_singleton_self guests, rfl⟩

end Policy

end AccessStream
