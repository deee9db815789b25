import AccessStream.Proofs.Policy.Meaning
import Mathlib.Tactic.ByContra

/-!
# Policies with one more rule

A rule that is declared behind the others decides a request if it matches and its priority is above
that of every rule that matches too. It is asked after the rules of its own priority, so among these
the one that decided before still does. In all other cases the answer is the one before
(`explain_withRule`).
-/

namespace AccessStream

namespace Policy

variable {policy : Policy} {rule : Rule} {request : Request}

/-- The rules of the grown policy are the old ones, and the new one behind them. -/
theorem declared_withRule_iff {j : Nat} {other : Rule} :
    (policy.withRule rule).rules[j]? = some other ↔
      policy.rules[j]? = some other ∨ j = policy.rules.length ∧ other = rule := by
  rw [withRule, List.getElem?_append]
  split
  · rename_i old
    have not_new : j ≠ policy.rules.length := Nat.ne_of_lt old
    simp only [not_new, false_and, or_false]
  · rename_i new
    have absent : policy.rules[j]? = none := List.getElem?_eq_none (Nat.le_of_not_lt new)
    rw [absent, List.getElem?_singleton]
    by_cases last : j = policy.rules.length
    · simp [last, eq_comm]
    · have above : j - policy.rules.length ≠ 0 := by omega
      simp [last, above]

/-- A rule that decides goes on to decide, unless the new rule matches and has a higher priority. -/
theorem Decides.withRule {index : Nat} {deciding : Rule} (h : policy.Decides request index deciding)
    (below : request.Matches rule → rule.priority ≤ deciding.priority) :
    (policy.withRule rule).Decides request index deciding := by
  refine ⟨declared_withRule_iff.2 (.inl h.declared), h.matching, ?_, ?_⟩
  · intro j other declared matching
    rcases declared_withRule_iff.1 declared with old | ⟨-, rfl⟩
    · exact h.highest j other old matching
    · exact below matching
  · intro j other declared matching same
    rcases declared_withRule_iff.1 declared with old | ⟨rfl, rfl⟩
    · exact h.first j other old matching same
    · obtain ⟨inside, -⟩ := List.getElem?_eq_some_iff.1 h.declared
      exact Nat.le_of_lt inside

/-- The new rule decides if it matches and every other rule that does has a lower priority. -/
theorem decides_withRule_last (matching : request.Matches rule)
    (above : ∀ other ∈ policy.rules, request.Matches other → other.priority < rule.priority) :
    (policy.withRule rule).Decides request policy.rules.length rule := by
  refine ⟨declared_withRule_iff.2 (.inr ⟨rfl, rfl⟩), matching, ?_, ?_⟩
  · intro j other declared matched
    rcases declared_withRule_iff.1 declared with old | ⟨-, rfl⟩
    · exact UInt32.le_of_lt (above other (List.mem_of_getElem? old) matched)
    · exact UInt32.le_refl _
  · intro j other declared matched same
    rcases declared_withRule_iff.1 declared with old | ⟨rfl, -⟩
    · have lower := above other (List.mem_of_getElem? old) matched
      rw [same] at lower
      exact absurd lower (UInt32.lt_irrefl _)
    · exact Nat.le_refl _

/-- If a rule decided before, the new rule decides in its place exactly if its priority is higher. -/
theorem Decides.withRule_last_iff {index : Nat} {deciding : Rule}
    (h : policy.Decides request index deciding) (matching : request.Matches rule) :
    (policy.withRule rule).Decides request policy.rules.length rule ↔
      deciding.priority < rule.priority := by
  constructor
  · intro new
    by_contra not_above
    have still : (policy.withRule rule).Decides request index deciding :=
      h.withRule fun _ => UInt32.not_lt.1 not_above
    obtain ⟨inside, -⟩ := List.getElem?_eq_some_iff.1 h.declared
    exact Nat.ne_of_lt inside (still.unique new).1
  · intro above
    refine decides_withRule_last matching fun other declared matched => ?_
    obtain ⟨j, there⟩ := List.getElem?_of_mem declared
    exact UInt32.lt_of_le_of_lt (h.highest j other there matched) above

end Policy

namespace Evaluator

variable {policy : Policy} {rule : Rule} {request : Request}

theorem explain_of_decides {index : Nat} (h : policy.Decides request index rule) :
    (ofPolicy policy).explain request = .byRule rule := by
  rw [explain]
  cases found : (ofPolicy policy).firstMatch? request with
  | none =>
    have unmatched := firstMatch?_ofPolicy_eq_none_iff.1 found
    exact absurd h.matching (unmatched rule (List.mem_of_getElem? h.declared))
  | some other =>
    obtain ⟨j, decides⟩ := decides_of_firstMatch? found
    rw [(decides.unique h).2]

theorem explain_of_unmatched (h : ¬ ∃ rule ∈ policy.rules, request.Matches rule) :
    (ofPolicy policy).explain request = .byDefault policy.defaultEffect := by
  have unmatched : ∀ rule ∈ policy.rules, ¬ request.Matches rule :=
    fun rule declared matching => h ⟨rule, declared, matching⟩
  rw [explain, firstMatch?_ofPolicy_eq_none_iff.2 unmatched]
  rfl

/-- Where a rule matches, some rule decides. -/
theorem exists_decides (h : ∃ rule ∈ policy.rules, request.Matches rule) :
    ∃ index rule, policy.Decides request index rule := by
  cases found : (ofPolicy policy).firstMatch? request with
  | none =>
    obtain ⟨rule, declared, matching⟩ := h
    exact absurd matching (firstMatch?_ofPolicy_eq_none_iff.1 found rule declared)
  | some rule =>
    obtain ⟨index, decides⟩ := decides_of_firstMatch? found
    exact ⟨index, rule, decides⟩

/-- A rule that does not match changes nothing. -/
theorem explain_withRule_of_not_matches (unmatched : ¬ request.Matches rule) :
    (ofPolicy (policy.withRule rule)).explain request = (ofPolicy policy).explain request := by
  by_cases some : ∃ other ∈ policy.rules, request.Matches other
  · obtain ⟨index, deciding, decides⟩ := exists_decides some
    have still : (policy.withRule rule).Decides request index deciding :=
      decides.withRule fun matching => absurd matching unmatched
    rw [explain_of_decides still, explain_of_decides decides]
  · have none : ¬ ∃ other ∈ (policy.withRule rule).rules, request.Matches other := by
      rintro ⟨other, declared, matching⟩
      rcases List.mem_append.1 declared with old | new
      · exact some ⟨other, old, matching⟩
      · exact unmatched (List.mem_singleton.1 new ▸ matching)
    rw [explain_of_unmatched none, explain_of_unmatched some]
    rfl

end Evaluator

/-- What one more rule changes. If it does not match a request, nothing. If it matches and so did a
rule before, the new one decides exactly if its priority is above that of the rule which decided
before, and otherwise the answer is the same as before. If none matched before, the new one
decides. -/
theorem explain_withRule (policy : Policy) (rule : Rule) (request : Request) :
    let before := (Evaluator.ofPolicy policy).explain request
    let grown := policy.withRule rule
    let answer := (Evaluator.ofPolicy grown).explain request
    (¬ request.Matches rule → answer = before) ∧
    (request.Matches rule → (∃ other ∈ policy.rules, request.Matches other) →
      ∃ index deciding, policy.Decides request index deciding ∧ before = .byRule deciding ∧
        (grown.Decides request policy.rules.length rule ↔ deciding.priority < rule.priority) ∧
        answer = if deciding.priority < rule.priority then .byRule rule else before) ∧
    (request.Matches rule → (¬ ∃ other ∈ policy.rules, request.Matches other) →
      before = .byDefault policy.defaultEffect ∧ answer = .byRule rule) := by
  intro before grown answer
  refine ⟨Evaluator.explain_withRule_of_not_matches, fun matching some => ?_,
    fun matching none => ?_⟩
  · obtain ⟨index, deciding, decides⟩ := Evaluator.exists_decides some
    have decided : before = .byRule deciding := Evaluator.explain_of_decides decides
    have new : grown.Decides request policy.rules.length rule ↔ deciding.priority < rule.priority :=
      decides.withRule_last_iff matching
    refine ⟨index, deciding, decides, decided, new, ?_⟩
    by_cases above : deciding.priority < rule.priority
    · rw [if_pos above]
      exact Evaluator.explain_of_decides (new.2 above)
    · have still : grown.Decides request index deciding :=
        decides.withRule fun _ => UInt32.not_lt.1 above
      rw [if_neg above, decided]
      exact Evaluator.explain_of_decides still
  · have new : grown.Decides request policy.rules.length rule :=
      Policy.decides_withRule_last matching fun other declared matched =>
        absurd ⟨other, declared, matched⟩ none
    exact ⟨Evaluator.explain_of_unmatched none, Evaluator.explain_of_decides new⟩

/-- A rule of the same priority leaves the decision with the one that is declared first, one of a
higher priority takes it, and one that does not match changes nothing. -/
theorem explain_withRule_of_equal :
    let staff : Rule :=
      { name := "staff", effect := .allow, priority := 5
        conditions := [.test .equals .role "admin"] }
    let late : Rule := { name := "late", effect := .deny, priority := 5 }
    let block : Rule := { name := "block", effect := .deny, priority := 6 }
    let guests : Rule := { block with conditions := [.test .equals .role "guest"] }
    let policy : Policy := { rules := [staff] }
    let admin := Request.empty.insert .role "admin"
    let answer := fun (policy : Policy) (request : Request) =>
      (Evaluator.ofPolicy policy).explain request
    answer (policy.withRule late) admin = .byRule staff ∧
      answer (policy.withRule block) admin = .byRule block ∧
      answer (policy.withRule guests) admin = answer policy admin ∧
      answer (policy.withRule late) .empty = .byRule late := by
  intro staff late block guests policy admin answer
  have declared : ∃ rule ∈ policy.rules, admin.Matches rule :=
    ⟨staff, List.mem_singleton_self staff, (staff.matches_iff admin).1 (by decide)⟩
  have always : ∀ (request : Request) (rule : Rule), rule.conditions = [] → request.Matches rule := by
    intro request rule none condition listed
    rw [none] at listed
    cases listed
  have only : ∀ {index : Nat} {rule : Rule}, policy.Decides admin index rule → rule = staff :=
    fun decides => List.mem_singleton.1 (List.mem_of_getElem? decides.declared)
  refine ⟨?_, ?_, ?_, ?_⟩
  · obtain ⟨index, deciding, decides, before, -, stays⟩ :=
      (explain_withRule policy late admin).2.1 (always admin late rfl) declared
    obtain rfl := only decides
    exact stays.trans before
  · obtain ⟨index, deciding, decides, -, -, taken⟩ :=
      (explain_withRule policy block admin).2.1 (always admin block rfl) declared
    obtain rfl := only decides
    exact taken
  · refine (explain_withRule policy guests admin).1 fun matching => ?_
    exact absurd ((guests.matches_iff admin).2 matching) (by decide)
  · have none : ¬ ∃ rule ∈ policy.rules, Request.empty.Matches rule := by
      rintro ⟨rule, listed, matching⟩
      obtain rfl := List.mem_singleton.1 listed
      exact absurd ((staff.matches_iff .empty).2 matching) (by decide)
    exact ((explain_withRule policy late .empty).2.2 (always _ late rfl) none).2

end AccessStream
