import AccessStream.Proofs.Policy.Meaning
import Mathlib.Data.List.Basic

/-!
# The order in which rules are asked

The rules of an evaluator are those of its policy from the highest priority to the lowest, and rules
of equal priority stand as they were declared (`Evaluator.descends_rules`,
`Evaluator.reorders_rules`). Nothing else is left open: rules in descending order are told by what
they are at each priority (`Rule.Descends.eq_of_ties`).
-/

namespace AccessStream

namespace Rule

/-- The rules of one priority among others, in their order. -/
def ofPriority (priority : UInt32) (rules : List Rule) : List Rule :=
  rules.filter fun rule => rule.priority = priority

/-- The same rules in another order, in which rules of equal priority stand as they did. -/
structure Reorders (ordered rules : List Rule) : Prop where
  perm : ordered.Perm rules
  ties : ∀ priority, ofPriority priority ordered = ofPriority priority rules

/-- No rule stands behind one of a lower priority. -/
def Descends (rules : List Rule) : Prop := rules.Pairwise fun a b => b.priority ≤ a.priority

section

variable {a b : Rule} {rules others : List Rule} {priority : UInt32}

theorem mem_ofPriority_iff : a ∈ ofPriority priority rules ↔ a ∈ rules ∧ a.priority = priority := by
  rw [ofPriority, List.mem_filter, decide_eq_true_eq]

theorem ofPriority_ofPriority :
    ofPriority priority (ofPriority priority rules) = ofPriority priority rules := by
  rw [ofPriority, List.filter_eq_self]
  intro rule among
  exact decide_eq_true (mem_ofPriority_iff.1 among).2

theorem ofPriority_cons_self : ofPriority a.priority (a :: rules) =
    a :: ofPriority a.priority rules :=
  List.filter_cons_of_pos (decide_eq_true rfl)

theorem ofPriority_cons_of_ne (h : a.priority ≠ priority) :
    ofPriority priority (a :: rules) = ofPriority priority rules :=
  List.filter_cons_of_neg (by rw [decide_eq_true_eq]; exact h)

/-- Rules that are the same at each priority are the same rules. -/
theorem mem_of_ties (ties : ∀ priority, ofPriority priority rules = ofPriority priority others)
    (h : a ∈ rules) : a ∈ others := by
  have among : a ∈ ofPriority a.priority rules := mem_ofPriority_iff.2 ⟨h, rfl⟩
  rw [ties] at among
  exact (mem_ofPriority_iff.1 among).1

/-- Only the priorities that occur matter. -/
theorem reorders_of_mem (perm : others.Perm rules)
    (ties : ∀ rule ∈ rules, ofPriority rule.priority others = ofPriority rule.priority rules) :
    Reorders others rules := by
  refine ⟨perm, fun priority => ?_⟩
  by_cases occurs : ∃ rule ∈ rules, rule.priority = priority
  · obtain ⟨rule, among, rfl⟩ := occurs
    exact ties rule among
  · have none : ofPriority priority rules = [] := by
      rw [List.eq_nil_iff_forall_not_mem]
      intro rule among
      exact occurs ⟨rule, mem_ofPriority_iff.1 among⟩
    have kept : (ofPriority priority others).Perm (ofPriority priority rules) := perm.filter _
    rw [none] at kept ⊢
    exact List.perm_nil.1 kept

/-- The first rule in a descending order has the highest priority. -/
theorem Descends.priority_le (h : Descends (a :: rules)) (among : b ∈ a :: rules) :
    b.priority ≤ a.priority := by
  rcases List.mem_cons.1 among with rfl | later
  · exact UInt32.le_refl _
  · exact (List.pairwise_cons.1 h).1 b later

/-- Two descending orders with the same rules at each priority are one. -/
theorem Descends.eq_of_ties (first : Descends rules) (second : Descends others)
    (ties : ∀ priority, ofPriority priority rules = ofPriority priority others) :
    rules = others := by
  induction rules generalizing others with
  | nil =>
    cases others with
    | nil => rfl
    | cons b others => exact absurd (mem_of_ties (fun _ => (ties _).symm) List.mem_cons_self) nofun
  | cons a rules ih =>
    cases others with
    | nil => exact absurd (mem_of_ties ties List.mem_cons_self) nofun
    | cons b others =>
      -- Each of the two first rules stands in the other order too, so neither has less priority.
      have same : a.priority = b.priority := UInt32.le_antisymm
        (second.priority_le (mem_of_ties ties List.mem_cons_self))
        (first.priority_le (mem_of_ties (fun _ => (ties _).symm) List.mem_cons_self))
      have tied := ties a.priority
      rw [ofPriority_cons_self, same, ofPriority_cons_self] at tied
      obtain ⟨rfl, tied⟩ := List.cons.inj tied
      have rest : rules = others := by
        refine ih (List.pairwise_cons.1 first).2 (List.pairwise_cons.1 second).2 fun priority => ?_
        by_cases here : a.priority = priority
        · rw [← here]
          exact tied
        · have other := ties priority
          rwa [ofPriority_cons_of_ne here, ofPriority_cons_of_ne here] at other
      rw [rest]

end

end Rule

namespace Evaluator

open Rule

variable (policy : Policy)

theorem mayPrecede_iff {a b : Rule} : mayPrecede a b = true ↔ b.priority ≤ a.priority :=
  decide_eq_true_iff

/-- No rule is asked before one of a higher priority. -/
theorem descends_rules : Descends (ofPolicy policy).rules :=
  (List.pairwise_mergeSort mayPrecede_trans mayPrecede_total policy.rules).imp mayPrecede_iff.1

/-- The rules that are asked are those that were declared, and at each priority in their order. -/
theorem reorders_rules : Reorders (ofPolicy policy).rules policy.rules := by
  have perm : (ofPolicy policy).rules.Perm policy.rules :=
    List.mergeSort_perm policy.rules mayPrecede
  refine ⟨perm, fun priority => ?_⟩
  -- The rules of one priority are in order already, so the sort keeps them in it.
  have ordered : (ofPriority priority policy.rules).Pairwise fun a b => mayPrecede a b = true := by
    refine List.pairwise_of_forall_mem_list fun a first b second => ?_
    rw [mayPrecede_iff, (mem_ofPriority_iff.1 first).2, (mem_ofPriority_iff.1 second).2]
    exact UInt32.le_refl _
  have kept : (ofPriority priority policy.rules).Sublist (ofPolicy policy).rules :=
    List.sublist_mergeSort mayPrecede_trans mayPrecede_total ordered List.filter_sublist
  have within : (ofPriority priority policy.rules).Sublist
      (ofPriority priority (ofPolicy policy).rules) := by
    have filtered : (ofPriority priority (ofPriority priority policy.rules)).Sublist
        (ofPriority priority (ofPolicy policy).rules) := kept.filter _
    rwa [ofPriority_ofPriority] at filtered
  exact (within.eq_of_length (perm.filter _).length_eq.symm).symm

variable {policy}

/-- The declared order matters only among rules of equal priority. -/
theorem ofPolicy_eq_of_reorders {other : Policy}
    (same : other.defaultEffect = policy.defaultEffect)
    (reorders : Reorders other.rules policy.rules) : ofPolicy other = ofPolicy policy := by
  have rules : (ofPolicy other).rules = (ofPolicy policy).rules := by
    refine (descends_rules other).eq_of_ties (descends_rules policy) fun priority => ?_
    rw [(reorders_rules other).ties, reorders.ties, (reorders_rules policy).ties]
  exact congrArg₂ Evaluator.mk rules same

/-- Rules that are declared in descending order are asked as they were declared. -/
theorem ofPolicy_of_descends (h : Descends policy.rules) :
    ofPolicy policy = { rules := policy.rules, defaultEffect := policy.defaultEffect } := by
  have rules : (ofPolicy policy).rules = policy.rules :=
    List.mergeSort_of_pairwise (h.imp mayPrecede_iff.2)
  exact congrArg₂ Evaluator.mk rules rfl

end Evaluator

end AccessStream
