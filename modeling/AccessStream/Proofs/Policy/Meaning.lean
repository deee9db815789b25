import AccessStream.Evaluation

/-!
# What a policy means

What a condition says of a request is given here as a predicate, and the rule that decides a request
is picked out by its place among the declared rules, with no regard to the order in which an
evaluator asks them. The evaluator of a policy answers by that rule (`explain_ofPolicy`): the order
in which rules are asked is a stable sort by descending priority, and the first match in it is the
first declared among the matching rules of the highest priority (`find?_mergeSort_isFirstBest`).
-/

namespace AccessStream

/-! ## Conditions and rules as predicates -/

namespace Request

/-- What a condition says of a request. An attribute that is absent has no value to equal, and no
text inside it but the empty one. -/
def Meets (request : Request) : Condition → Prop
  | .test .equals a text => request.get? a = some text
  | .test .contains a text =>
    ∃ before after, (request.get? a).getD "" = before ++ text ++ after
  | .test .endsWith a text => ∃ before, (request.get? a).getD "" = before ++ text
  | .all conditions => ∀ condition ∈ conditions, request.Meets condition
  | .any conditions => ∃ (condition : Condition) (_ : condition ∈ conditions), request.Meets condition
  | .not condition => ¬ request.Meets condition

/-- A rule matches a request when all its conditions are met. -/
def Matches (request : Request) (rule : Rule) : Prop :=
  ∀ condition ∈ rule.conditions, request.Meets condition

end Request

theorem Comparison.holds_iff_meets (comparison : Comparison) (request : Request) (a : Attribute)
    (text : String) :
    comparison.holds (request.get? a) text = true ↔ request.Meets (.test comparison a text) := by
  cases comparison with
  | equals => simp [Comparison.holds, Request.Meets]
  | contains => rw [Comparison.holds, Text.contains_iff, Request.Meets]
  | endsWith => rw [Comparison.holds, Text.endsWith_iff, Request.Meets]

namespace Condition

mutual

/-- Evaluating a condition tells whether it is met. -/
theorem holds_iff_meets (request : Request) (condition : Condition) :
    condition.holds request = true ↔ request.Meets condition := by
  match condition with
  | .test comparison a text => exact comparison.holds_iff_meets request a text
  | .all conditions => rw [holds, Request.Meets, allHold_iff_meets request conditions]
  | .any conditions =>
    simp only [holds, Request.Meets, anyHolds_iff_meets request conditions, exists_prop]
  | .not condition => simp [holds, Request.Meets, ← holds_iff_meets request condition]

theorem allHold_iff_meets (request : Request) (conditions : List Condition) :
    allHold request conditions = true ↔
      ∀ condition ∈ conditions, request.Meets condition := by
  match conditions with
  | [] => simp [allHold]
  | condition :: conditions =>
    rw [allHold, Bool.and_eq_true, holds_iff_meets request condition,
      allHold_iff_meets request conditions, List.forall_mem_cons]

theorem anyHolds_iff_meets (request : Request) (conditions : List Condition) :
    anyHolds request conditions = true ↔
      ∃ condition ∈ conditions, request.Meets condition := by
  match conditions with
  | [] => simp [anyHolds]
  | condition :: conditions =>
    simp only [anyHolds, Bool.or_eq_true, holds_iff_meets request condition,
      anyHolds_iff_meets request conditions, List.mem_cons, exists_eq_or_imp]

end

end Condition

theorem Rule.matches_iff (rule : Rule) (request : Request) :
    rule.matches request = true ↔ request.Matches rule :=
  Condition.allHold_iff_meets request rule.conditions

/-! ## The first match of a stable sort -/

section Sorted

variable {α : Type} {le : α → α → Bool} {p : α → Bool}

/-- The element `a` stands at an index of `l` and satisfies `p`; every other element that does comes
after it in the order `le`, or is equivalent to it and does not stand before it. -/
def IsFirstBest (le : α → α → Bool) (p : α → Bool) (l : List α) (index : Nat) (a : α) : Prop :=
  l[index]? = some a ∧ p a = true ∧
    ∀ j b, l[j]? = some b → p b = true → le a b = true ∧ (le b a = true → index ≤ j)

/-- A first best element stays one behind an element that it comes before. -/
theorem IsFirstBest.cons {l : List α} {index : Nat} {a b : α} (best : IsFirstBest le p l index b)
    (behind : p a = true → le b a = true ∧ le a b = false) :
    IsFirstBest le p (a :: l) (index + 1) b := by
  refine ⟨by simpa using best.1, best.2.1, fun j other hj hother => ?_⟩
  cases j with
  | zero =>
    obtain rfl : a = other := by simpa using hj
    exact ⟨(behind hother).1, fun hle => absurd hle (by simp [(behind hother).2])⟩
  | succ j =>
    obtain ⟨hle, hfirst⟩ := best.2.2 j other (by simpa using hj) hother
    exact ⟨hle, fun h => Nat.succ_le_succ (hfirst h)⟩

theorem isFirstBest_head {l : List α} {a : α} (self : le a a = true) (hp : p a = true)
    (least : ∀ b ∈ l, p b = true → le a b = true) : IsFirstBest le p (a :: l) 0 a := by
  refine ⟨rfl, hp, fun j other hj hother => ⟨?_, fun _ => Nat.zero_le j⟩⟩
  cases j with
  | zero =>
    obtain rfl : a = other := by simpa using hj
    exact self
  | succ j => exact least other (List.mem_of_getElem? (by simpa using hj)) hother

/-- One more element in front of a list changes the first match of the sorted list only if it
matches itself and no match of the rest comes before it. -/
theorem find?_mergeSort_cons (trans : ∀ a b c, le a b → le b c → le a c)
    (total : ∀ a b, le a b || le b a) (a : α) (l : List α) :
    ((a :: l).mergeSort le).find? p =
      if p a then
        match (l.mergeSort le).find? p with
        | some b => if le a b then some a else some b
        | none => some a
      else (l.mergeSort le).find? p := by
  obtain ⟨l₁, l₂, whole, rest, before⟩ := List.mergeSort_cons trans total a l
  have sorted : (l₁ ++ a :: l₂).Pairwise fun x y => le x y := by
    rw [← whole]
    exact List.pairwise_mergeSort trans total (a :: l)
  have after : ∀ b ∈ l₂, le a b = true := by
    rw [List.pairwise_append, List.pairwise_cons] at sorted
    exact sorted.2.1.1
  rw [whole, rest]
  by_cases hp : p a = true
  · rw [if_pos hp, List.find?_append, List.find?_append, List.find?_cons_of_pos hp]
    cases h₁ : l₁.find? p with
    | some b =>
      have := before b (List.mem_of_find?_eq_some h₁)
      simp_all
    | none =>
      cases h₂ : l₂.find? p with
      | some b => simp [after b (List.mem_of_find?_eq_some h₂)]
      | none => rfl
  · rw [if_neg hp, List.find?_append, List.find?_append, List.find?_cons_of_neg hp]

/-- The first match of a sorted list is the first best element of the list that was sorted. -/
theorem find?_mergeSort_isFirstBest (trans : ∀ a b c, le a b → le b c → le a c)
    (total : ∀ a b, le a b || le b a) {l : List α} {c : α}
    (h : (l.mergeSort le).find? p = some c) : ∃ index, IsFirstBest le p l index c := by
  induction l generalizing c with
  | nil => simp at h
  | cons a l ih =>
    rw [find?_mergeSort_cons trans total] at h
    by_cases hp : p a = true
    · have self : le a a = true := by simpa using total a a
      rw [if_pos hp] at h
      cases found : (l.mergeSort le).find? p with
      | none =>
        obtain rfl : a = c := by simpa [found] using h
        refine ⟨0, isFirstBest_head self hp fun b hb hpb => ?_⟩
        have := List.find?_eq_none.1 found b (List.mem_mergeSort.2 hb)
        exact absurd hpb this
      | some b =>
        obtain ⟨i, best⟩ := ih found
        by_cases hle : le a b = true
        · obtain rfl : a = c := by simpa [found, hle] using h
          refine ⟨0, isFirstBest_head self hp fun other hother hpo => ?_⟩
          obtain ⟨j, hj⟩ := List.getElem?_of_mem hother
          exact trans a b other hle (best.2.2 j other hj hpo).1
        · obtain rfl : b = c := by simpa [found, hle] using h
          have hba : le b a = true := by
            have := total a b
            simp_all
          exact ⟨i + 1, best.cons fun _ => ⟨hba, by simpa using hle⟩⟩
    · rw [if_neg hp] at h
      obtain ⟨i, best⟩ := ih h
      exact ⟨i + 1, best.cons fun h => absurd h hp⟩

end Sorted

/-! ## The rule that decides -/

/-- A rule of a policy, by its index, decides a request: it matches, no matching rule has a higher
priority, and no matching rule of the same priority is declared earlier. -/
structure Policy.Decides (policy : Policy) (request : Request) (index : Nat) (rule : Rule) :
    Prop where
  declared : policy.rules[index]? = some rule
  matching : request.Matches rule
  highest : ∀ (j : Nat) (other : Rule), policy.rules[j]? = some other → request.Matches other →
    other.priority ≤ rule.priority
  first : ∀ (j : Nat) (other : Rule), policy.rules[j]? = some other → request.Matches other →
    other.priority = rule.priority → index ≤ j

/-- At most one rule decides. -/
theorem Policy.Decides.unique {policy : Policy} {request : Request} {i j : Nat} {a b : Rule}
    (ha : policy.Decides request i a) (hb : policy.Decides request j b) : i = j ∧ a = b := by
  have same : a.priority = b.priority :=
    UInt32.le_antisymm (hb.highest i a ha.declared ha.matching)
      (ha.highest j b hb.declared hb.matching)
  have index : i = j := Nat.le_antisymm (ha.first j b hb.declared hb.matching same.symm)
    (hb.first i a ha.declared ha.matching same)
  subst index
  exact ⟨rfl, Option.some.inj (ha.declared.symm.trans hb.declared)⟩

namespace Evaluator

theorem mayPrecede_trans (a b c : Rule) (hab : mayPrecede a b) (hbc : mayPrecede b c) :
    mayPrecede a c := by
  simp only [mayPrecede, decide_eq_true_eq] at *
  exact UInt32.le_trans hbc hab

theorem mayPrecede_total (a b : Rule) : mayPrecede a b || mayPrecede b a := by
  simp only [mayPrecede, Bool.or_eq_true, decide_eq_true_eq]
  exact UInt32.le_total b.priority a.priority

theorem decides_of_isFirstBest {policy : Policy} {request : Request} {index : Nat} {rule : Rule}
    (h : IsFirstBest mayPrecede (·.matches request) policy.rules index rule) :
    policy.Decides request index rule := by
  obtain ⟨declared, matching, best⟩ := h
  refine ⟨declared, (rule.matches_iff request).1 matching, fun j other hj hother => ?_,
    fun j other hj hother same => ?_⟩
  · have := (best j other hj ((other.matches_iff request).2 hother)).1
    simpa [mayPrecede] using this
  · refine (best j other hj ((other.matches_iff request).2 hother)).2 ?_
    simp [mayPrecede, same]

/-- The rule that an evaluator finds is the one that decides. -/
theorem decides_of_firstMatch? {policy : Policy} {request : Request} {rule : Rule}
    (h : (ofPolicy policy).firstMatch? request = some rule) :
    ∃ index, policy.Decides request index rule := by
  obtain ⟨index, best⟩ := find?_mergeSort_isFirstBest mayPrecede_trans mayPrecede_total h
  exact ⟨index, decides_of_isFirstBest best⟩

/-- An evaluator finds no rule exactly when none matches. -/
theorem firstMatch?_ofPolicy_eq_none_iff {policy : Policy} {request : Request} :
    (ofPolicy policy).firstMatch? request = none ↔
      ∀ rule ∈ policy.rules, ¬ request.Matches rule := by
  simp only [firstMatch?, ofPolicy, List.find?_eq_none, List.mem_mergeSort, Rule.matches_iff]

/-- The decision does not depend on whether its ground is asked for. -/
theorem decide_eq_decision_explain (evaluator : Evaluator) (request : Request) :
    evaluator.decide request = (evaluator.explain request).decision := by
  rw [decide, explain]
  cases evaluator.firstMatch? request <;> rfl

end Evaluator

/-- The answer of a policy: that of the rule that decides, or the default effect if no rule
matches. -/
theorem explain_ofPolicy (policy : Policy) (request : Request) :
    let evaluator := Evaluator.ofPolicy policy
    let answer := evaluator.explain request
    ((¬ ∃ rule ∈ policy.rules, request.Matches rule) ∧
        answer.effect = policy.defaultEffect ∧ answer.matchedRule = none ∨
      ∃ index rule, policy.Decides request index rule ∧ answer.effect = rule.effect ∧
        answer.matchedRule = some rule.name ∧
        answer.reason = s!"Matched rule '{rule.name}' (priority {rule.priority.toNat})") ∧
      evaluator.decide request = answer.decision ∧
      policy.evaluate request = answer := by
  intro evaluator answer
  refine ⟨?_, evaluator.decide_eq_decision_explain request, rfl⟩
  cases found : evaluator.firstMatch? request with
  | none =>
    have unmatched := Evaluator.firstMatch?_ofPolicy_eq_none_iff.1 found
    have given : answer = .byDefault policy.defaultEffect := by
      simp only [answer, Evaluator.explain, found]
      rfl
    rw [given]
    exact .inl ⟨fun ⟨rule, declared, matching⟩ => unmatched rule declared matching, rfl, rfl⟩
  | some rule =>
    obtain ⟨index, decides⟩ := Evaluator.decides_of_firstMatch? found
    have given : answer = .byRule rule := by simp only [answer, Evaluator.explain, found]
    rw [given]
    exact .inr ⟨index, rule, decides, rfl, rfl, rfl⟩

end AccessStream
