import AccessStream.Proofs.Policy.Parts
import AccessStream.Proofs.Text.Blank
import Mathlib.Data.List.Nodup

/-!
# Well-formed policies

What no flaw means. A policy is well formed when every rule is without a flaw among the rules before
it (`Policy.flawAfter?_eq_none_iff`). That comes to a condition on the policy as a whole, in which
neither the order of the rules nor that of the checks plays a part (`Policy.isValid_iff`).
-/

namespace AccessStream

/-! ## Conditions and rules -/

theorem Condition.flaw?_eq_none_iff {name : String} {condition : Condition} :
    condition.flaw? name = none ↔ condition.NestsWithin maxDepth ∧
      ∀ comparison a, (Condition.test comparison a "").OccursIn condition →
        comparison = .equals := by
  rw [← depth_le_iff, ← emptyPattern?_eq_none_iff, flaw?]
  split
  · rename_i deep
    have deep : ¬ condition.depth ≤ maxDepth := Nat.not_le_of_lt deep
    simp [deep]
  · rename_i shallow
    have shallow : condition.depth ≤ maxDepth := Nat.le_of_not_lt shallow
    simp [shallow]

theorem Rule.flaw?_eq_none_iff {earlier : List String} {rule : Rule} :
    rule.flaw? earlier = none ↔ Text.isBlank rule.name = false ∧ rule.name ∉ earlier ∧
      ∀ condition ∈ rule.conditions, condition.flaw? rule.name = none := by
  rw [flaw?]
  split
  · rename_i blank
    simp [blank]
  · rename_i named
    split
    · rename_i repeated
      simp [repeated]
    · rename_i new
      simp [named, new, List.findSome?_eq_none_iff]

/-! ## Policies -/

/-- A list is without duplicates if no element stands behind itself. -/
theorem nodup_iff_not_mem_before {α : Type} {l : List α} :
    l.Nodup ↔ ∀ before a after, l = before ++ a :: after → a ∉ before := by
  constructor
  · rintro distinct before a after rfl found
    exact List.disjoint_of_nodup_append distinct found List.mem_cons_self
  · intro h
    induction l with
    | nil => exact List.nodup_nil
    | cons first others ih =>
      rw [List.nodup_cons]
      constructor
      · intro found
        obtain ⟨before, after, split⟩ := List.append_of_mem found
        exact h (first :: before) first after (by rw [split, List.cons_append]) List.mem_cons_self
      · refine ih fun before a after split found => ?_
        exact h (first :: before) a after (by rw [split, List.cons_append])
          (List.mem_cons_of_mem first found)

namespace Policy

/-- Rules are without a flaw if each is among the rules before it. -/
theorem flawAfter?_eq_none_iff {earlier : List String} {rules : List Rule} :
    flawAfter? earlier rules = none ↔ ∀ before rule after, rules = before ++ rule :: after →
      rule.flaw? (earlier ++ before.map (·.name)) = none := by
  induction rules generalizing earlier with
  | nil => simp [flawAfter?]
  | cons rule rules ih =>
    rw [flawAfter?, Option.or_eq_none_iff, ih]
    constructor
    · rintro ⟨first, others⟩ before other after split
      cases before with
      | nil =>
        cases split
        simpa using first
      | cons _ before =>
        cases split
        simpa using others before other after rfl
    · intro h
      refine ⟨by simpa using h [] rule rules rfl, fun before other after split => ?_⟩
      simpa using h (rule :: before) other after (by rw [split, List.cons_append])

/-- What is asked of a policy: its rules have names, no two the same, and their conditions are not
nested too deeply and nowhere look for the empty text inside a value or at its end. -/
structure IsWellFormed (policy : Policy) : Prop where
  named : ∀ rule ∈ policy.rules, ∃ c ∈ rule.name.toList, c ∉ whiteSpace
  distinct : (policy.rules.map (·.name)).Nodup
  shallow : ∀ rule ∈ policy.rules, ∀ condition ∈ rule.conditions, condition.NestsWithin 16
  patterned : ∀ rule ∈ policy.rules, ∀ condition ∈ rule.conditions, ∀ comparison a,
    (Condition.test comparison a "").OccursIn condition → comparison = .equals

theorem isValid_iff_forall_split {policy : Policy} :
    policy.IsValid ↔ ∀ before rule after, policy.rules = before ++ rule :: after →
      Text.isBlank rule.name = false ∧ rule.name ∉ before.map (·.name) ∧
        ∀ condition ∈ rule.conditions, condition.flaw? rule.name = none := by
  simp only [IsValid, flaw?, flawAfter?_eq_none_iff, List.nil_append, Rule.flaw?_eq_none_iff]

theorem IsValid.isBlank_name {policy : Policy} (valid : policy.IsValid) {rule : Rule}
    (declared : rule ∈ policy.rules) : Text.isBlank rule.name = false := by
  obtain ⟨before, after, split⟩ := List.append_of_mem declared
  exact (isValid_iff_forall_split.1 valid before rule after split).1

theorem IsValid.flaw?_eq_none {policy : Policy} (valid : policy.IsValid) {rule : Rule}
    (declared : rule ∈ policy.rules) {condition : Condition} (listed : condition ∈ rule.conditions) :
    condition.flaw? rule.name = none := by
  obtain ⟨before, after, split⟩ := List.append_of_mem declared
  exact (isValid_iff_forall_split.1 valid before rule after split).2.2 condition listed

/-- No condition of a well-formed policy is nested too deeply. -/
theorem IsValid.depth_le {policy : Policy} (valid : policy.IsValid) {rule : Rule}
    (declared : rule ∈ policy.rules) {condition : Condition} (h : condition ∈ rule.conditions) :
    condition.depth ≤ Condition.maxDepth := by
  have clean := valid.flaw?_eq_none declared h
  exact Condition.depth_le_iff.2 (Condition.flaw?_eq_none_iff.1 clean).1

/-- No flaw is found in a policy exactly if it is well formed. -/
theorem isValid_iff {policy : Policy} : policy.IsValid ↔ policy.IsWellFormed := by
  constructor
  · intro valid
    refine ⟨fun rule declared => Text.isBlank_eq_false_iff.1 (valid.isBlank_name declared), ?_,
      fun rule declared condition listed => ?_, fun rule declared condition listed => ?_⟩
    · rw [nodup_iff_not_mem_before]
      intro before name after split
      obtain ⟨front, rest, whole, rfl, tail⟩ := List.map_eq_append_iff.1 split
      obtain ⟨rule, back, rfl, rfl, rfl⟩ := List.map_eq_cons_iff.1 tail
      exact (isValid_iff_forall_split.1 valid front rule back whole).2.1
    · have clean := valid.flaw?_eq_none declared listed
      exact (Condition.flaw?_eq_none_iff.1 clean).1
    · have clean := valid.flaw?_eq_none declared listed
      exact (Condition.flaw?_eq_none_iff.1 clean).2
  · intro wellFormed
    rw [isValid_iff_forall_split]
    intro before rule after split
    have declared : rule ∈ policy.rules := by
      rw [split]
      exact List.mem_append_right before List.mem_cons_self
    refine ⟨Text.isBlank_eq_false_iff.2 (wellFormed.named rule declared), ?_, ?_⟩
    · have distinct := wellFormed.distinct
      rw [split, List.map_append, List.map_cons] at distinct
      exact nodup_iff_not_mem_before.1 distinct _ _ _ rfl
    · intro condition listed
      have shallow := wellFormed.shallow rule declared condition listed
      have patterned := wellFormed.patterned rule declared condition listed
      exact Condition.flaw?_eq_none_iff.2 ⟨shallow, patterned⟩

end Policy

end AccessStream
