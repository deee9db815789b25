import AccessStream.Policy.Validation
import Mathlib.Logic.Basic

/-!
# The parts of a condition

What a condition is made of: the conditions that occur in it (`Condition.OccursIn`), its tests from
left to right (`Condition.tests`), and the number of levels on which it is nested
(`Condition.NestsWithin`). The depth that is computed for a condition is the least such number
(`Condition.depth_le_iff`), and the empty pattern that is found in it belongs to the first of its
tests that looks for one (`Condition.emptyPattern?_eq_firstEmpty?`).
-/

namespace AccessStream.Condition

/-- A condition occurs in another if it is that condition, or occurs in one that is joined or
negated there. -/
inductive OccursIn (part : Condition) : Condition → Prop
  | self : OccursIn part part
  | all {conditions : List Condition} {condition : Condition} :
      condition ∈ conditions → OccursIn part condition → OccursIn part (.all conditions)
  | any {conditions : List Condition} {condition : Condition} :
      condition ∈ conditions → OccursIn part condition → OccursIn part (.any conditions)
  | not {condition : Condition} : OccursIn part condition → OccursIn part (.not condition)

/-- A condition is nested on at most some number of levels: a test and a join of nothing need one
level, a join and a negation one more than what stands inside. -/
inductive NestsWithin : Nat → Condition → Prop
  | test {levels : Nat} {comparison : Comparison} {a : Attribute} {text : String} :
      NestsWithin (levels + 1) (.test comparison a text)
  | all {levels : Nat} {conditions : List Condition} :
      (∀ condition ∈ conditions, NestsWithin levels condition) →
        NestsWithin (levels + 1) (.all conditions)
  | any {levels : Nat} {conditions : List Condition} :
      (∀ condition ∈ conditions, NestsWithin levels condition) →
        NestsWithin (levels + 1) (.any conditions)
  | not {levels : Nat} {condition : Condition} :
      NestsWithin levels condition → NestsWithin (levels + 1) (.not condition)

mutual

/-- The tests of a condition, from left to right. -/
def tests : Condition → List (Comparison × Attribute × String)
  | test comparison a text => [(comparison, a, text)]
  | all conditions => testsOfList conditions
  | any conditions => testsOfList conditions
  | not condition => tests condition

/-- The tests of some conditions, from left to right. -/
def testsOfList : List Condition → List (Comparison × Attribute × String)
  | [] => []
  | condition :: conditions => tests condition ++ testsOfList conditions

end

/-- A test looks for the empty text inside a value or at its end. -/
def LooksForNothing (test : Comparison × Attribute × String) : Prop :=
  test.1 ≠ .equals ∧ test.2.2 = ""

instance (test : Comparison × Attribute × String) : Decidable (LooksForNothing test) :=
  inferInstanceAs (Decidable (_ ∧ _))

/-! ## Depth -/

section Depth

variable {levels : Nat} {condition : Condition} {conditions : List Condition}

theorem not_nestsWithin_zero : ¬ condition.NestsWithin 0 := by
  intro h
  cases h

theorem nestsWithin_all_iff :
    (all conditions).NestsWithin (levels + 1) ↔ ∀ c ∈ conditions, c.NestsWithin levels := by
  constructor
  · intro h
    cases h with
    | all inside => exact inside
  · exact NestsWithin.all

theorem nestsWithin_any_iff :
    (any conditions).NestsWithin (levels + 1) ↔ ∀ c ∈ conditions, c.NestsWithin levels := by
  constructor
  · intro h
    cases h with
    | any inside => exact inside
  · exact NestsWithin.any

theorem nestsWithin_not_iff :
    (not condition).NestsWithin (levels + 1) ↔ condition.NestsWithin levels := by
  constructor
  · intro h
    cases h with
    | not inside => exact inside
  · exact NestsWithin.not

theorem depthOfList_le_iff :
    depthOfList conditions ≤ levels ↔ ∀ c ∈ conditions, c.depth ≤ levels := by
  induction conditions with
  | nil => simp [depthOfList]
  | cons first others ih => rw [depthOfList, Nat.max_le, ih, List.forall_mem_cons]

theorem depth_le_depthOfList (h : condition ∈ conditions) :
    condition.depth ≤ depthOfList conditions := by
  have all := depthOfList_le_iff.1 (Nat.le_refl (depthOfList conditions))
  exact all condition h

theorem depth_pos (condition : Condition) : 0 < condition.depth := by
  cases condition <;> rw [depth] <;> omega

theorem depth_le_zero_iff : condition.depth ≤ 0 ↔ condition.NestsWithin 0 := by
  have pos := condition.depth_pos
  exact iff_of_false (by omega) not_nestsWithin_zero

/-- The depth of a condition is the least number of levels on which it is nested. -/
theorem depth_le_iff : condition.depth ≤ levels ↔ condition.NestsWithin levels := by
  -- One level is used up on the way to the parts, so the statement is for any number of levels.
  induction condition generalizing levels with
  | test comparison a text =>
    cases levels with
    | zero => exact depth_le_zero_iff
    | succ levels =>
      rw [depth]
      exact iff_of_true (by omega) .test
  | all conditions ih =>
    cases levels with
    | zero => exact depth_le_zero_iff
    | succ levels =>
      rw [depth, Nat.add_comm, Nat.add_le_add_iff_right, depthOfList_le_iff, nestsWithin_all_iff]
      exact forall₂_congr fun c hc => ih c hc
  | any conditions ih =>
    cases levels with
    | zero => exact depth_le_zero_iff
    | succ levels =>
      rw [depth, Nat.add_comm, Nat.add_le_add_iff_right, depthOfList_le_iff, nestsWithin_any_iff]
      exact forall₂_congr fun c hc => ih c hc
  | not condition ih =>
    cases levels with
    | zero => exact depth_le_zero_iff
    | succ levels => rw [depth, Nat.add_comm, Nat.add_le_add_iff_right, ih, nestsWithin_not_iff]

end Depth

/-! ## Tests -/

section Tests

variable {condition : Condition} {conditions : List Condition}

theorem mem_testsOfList_iff {test : Comparison × Attribute × String} :
    test ∈ testsOfList conditions ↔ ∃ c ∈ conditions, test ∈ c.tests := by
  induction conditions with
  | nil => simp [testsOfList]
  | cons first others ih => simp only [testsOfList, List.mem_append, ih, List.mem_cons, exists_eq_or_imp]

/-- The tests of a condition are those that occur in it. -/
theorem mem_tests_iff {comparison : Comparison} {a : Attribute} {text : String} :
    (comparison, a, text) ∈ condition.tests ↔ (test comparison a text).OccursIn condition := by
  induction condition with
  | test other b pattern =>
    rw [tests, List.mem_singleton]
    constructor
    · rintro ⟨⟩
      exact .self
    · intro h
      cases h
      rfl
  | all conditions ih =>
    rw [tests, mem_testsOfList_iff]
    constructor
    · rintro ⟨c, hc, found⟩
      exact .all hc ((ih c hc).1 found)
    · intro h
      cases h with
      | all hc found => exact ⟨_, hc, (ih _ hc).2 found⟩
  | any conditions ih =>
    rw [tests, mem_testsOfList_iff]
    constructor
    · rintro ⟨c, hc, found⟩
      exact .any hc ((ih c hc).1 found)
    · intro h
      cases h with
      | any hc found => exact ⟨_, hc, (ih _ hc).2 found⟩
  | not condition ih =>
    rw [tests, ih]
    constructor
    · exact .not
    · intro h
      cases h with
      | not found => exact found

/-- The first of some tests that looks for nothing, without its text. -/
def firstEmpty? (tests : List (Comparison × Attribute × String)) : Option (Comparison × Attribute) :=
  (tests.find? fun test => LooksForNothing test).map fun test => (test.1, test.2.1)

theorem firstEmpty?_append (tests more : List (Comparison × Attribute × String)) :
    firstEmpty? (tests ++ more) = (firstEmpty? tests).or (firstEmpty? more) := by
  rw [firstEmpty?, List.find?_append, Option.map_or]
  rfl

theorem emptyPatternOfList?_eq
    (h : ∀ c ∈ conditions, c.emptyPattern? = firstEmpty? c.tests) :
    emptyPatternOfList? conditions = firstEmpty? (testsOfList conditions) := by
  induction conditions with
  | nil => rfl
  | cons first others ih =>
    rw [List.forall_mem_cons] at h
    rw [emptyPatternOfList?, testsOfList, firstEmpty?_append, h.1, ih h.2]

/-- The empty pattern that is found in a condition is the first in the order of its tests. -/
theorem emptyPattern?_eq_firstEmpty? (condition : Condition) :
    condition.emptyPattern? = firstEmpty? condition.tests := by
  induction condition with
  | test comparison a text =>
    by_cases empty : text = ""
    · subst empty
      cases comparison <;> rfl
    · cases comparison <;> simp [emptyPattern?, tests, firstEmpty?, LooksForNothing, empty]
  | all conditions ih => rw [emptyPattern?, tests, emptyPatternOfList?_eq ih]
  | any conditions ih => rw [emptyPattern?, tests, emptyPatternOfList?_eq ih]
  | not condition ih => rw [emptyPattern?, tests, ih]

theorem emptyPattern?_eq_none_iff :
    condition.emptyPattern? = none ↔
      ∀ comparison a, (test comparison a "").OccursIn condition → comparison = .equals := by
  rw [emptyPattern?_eq_firstEmpty?, firstEmpty?, Option.map_eq_none_iff, List.find?_eq_none]
  simp only [decide_eq_true_eq, Prod.forall, mem_tests_iff]
  constructor
  · intro h comparison a found
    refine Decidable.byContradiction fun other => ?_
    exact h comparison a "" found ⟨other, rfl⟩
  · rintro h comparison a _ found ⟨other, rfl⟩
    exact other (h comparison a found)

theorem emptyPattern?_eq_some_iff {comparison : Comparison} {a : Attribute} :
    condition.emptyPattern? = some (comparison, a) ↔
      ∃ before after, condition.tests = before ++ (comparison, a, "") :: after ∧
        comparison ≠ .equals ∧ ∀ test ∈ before, ¬ LooksForNothing test := by
  rw [emptyPattern?_eq_firstEmpty?, firstEmpty?, Option.map_eq_some_iff]
  simp only [List.find?_eq_some_iff_append, decide_eq_true_eq]
  constructor
  · rintro ⟨⟨_, _, _⟩, ⟨⟨pattern, rfl⟩, before, after, split, first⟩, ⟨⟩⟩
    exact ⟨before, after, split, pattern, by simpa using first⟩
  · rintro ⟨before, after, split, pattern, first⟩
    exact ⟨(comparison, a, ""), ⟨⟨pattern, rfl⟩, before, after, split, by simpa using first⟩, rfl⟩

end Tests

end AccessStream.Condition
