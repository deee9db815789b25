import AccessStream.Attribute
import AccessStream.Decision

/-!
# Policies

A policy is a list of rules and an effect for the requests that no rule matches. A rule applies when
all its conditions hold. A condition tests one attribute, or joins other conditions. The meaning of
conditions and the choice of a rule are in `AccessStream.Evaluation`.
-/

namespace AccessStream

/-- How the value of an attribute is compared with a text. All comparisons are exact. -/
inductive Comparison where
  /-- The attribute is present and has the value. -/
  | equals
  /-- The value of the attribute has the text somewhere inside. -/
  | contains
  /-- The value of the attribute ends with the text. -/
  | endsWith
  deriving DecidableEq, Repr

/-- The word for a comparison in policy documents. -/
def Comparison.name : Comparison → String
  | equals => "equals"
  | contains => "contains"
  | endsWith => "ends_with"

/-- The comparison with the given name. -/
def Comparison.ofName? (name : String) : Option Comparison :=
  [equals, contains, endsWith].find? (·.name == name)

@[simp] theorem Comparison.ofName?_name (comparison : Comparison) :
    ofName? comparison.name = some comparison := by
  cases comparison <;> decide

/-- A test on the attributes of a request. -/
inductive Condition where
  /-- The value of an attribute compares with a text. -/
  | test (comparison : Comparison) (a : Attribute) (text : String)
  /-- All of the conditions hold. -/
  | all (conditions : List Condition)
  /-- At least one of the conditions holds. -/
  | any (conditions : List Condition)
  /-- The condition does not hold. -/
  | not (condition : Condition)
  deriving Repr

/-- What holds of tests, of joins of conditions of which it holds, and of the negation of such a
condition holds of every condition. -/
@[induction_eliminator]
theorem Condition.induction {motive : Condition → Prop}
    (test : ∀ comparison a text, motive (.test comparison a text))
    (all : ∀ conditions, (∀ condition ∈ conditions, motive condition) → motive (.all conditions))
    (any : ∀ conditions, (∀ condition ∈ conditions, motive condition) → motive (.any conditions))
    (not : ∀ condition, motive condition → motive (.not condition)) (condition : Condition) :
    motive condition := by
  refine @Condition.rec motive (fun conditions => ∀ condition ∈ conditions, motive condition)
    test all any not ?_ ?_ condition
  · exact fun _ h => absurd h List.not_mem_nil
  · exact fun first others h hs => List.forall_mem_cons.2 ⟨h, hs⟩

/-- A rule of a policy. -/
structure Rule where
  /-- The name of the rule in explanations. -/
  name : String
  /-- What the rule does with the requests that it matches. -/
  effect : Effect
  /-- The conditions, which must all hold; a rule without conditions matches every request. -/
  conditions : List Condition := []
  /-- The rank of the rule: rules of higher priority are asked first. -/
  priority : UInt32 := 0
  deriving Repr

/-- A policy. -/
structure Policy where
  /-- What happens to a request that no rule matches. -/
  defaultEffect : Effect := .deny
  /-- The rules, in the order of their declaration. -/
  rules : List Rule := []
  deriving Repr

namespace Condition

mutual

/-- Whether two conditions are the same. -/
def beq : Condition → Condition → Bool
  | test x a v, test y b w => x = y && a = b && v = w
  | all c, all d => beqList c d
  | any c, any d => beqList c d
  | not c, not d => beq c d
  | _, _ => false

/-- Whether two lists of conditions are the same. -/
def beqList : List Condition → List Condition → Bool
  | [], [] => true
  | c :: cs, d :: ds => beq c d && beqList cs ds
  | _, _ => false

end

mutual

theorem eq_of_beq {c d : Condition} (h : beq c d = true) : c = d := by
  match c, d with
  | .test .., .test .. => simp_all [beq]
  | .all cs, .all ds =>
    have same : beqList cs ds = true := by simpa only [beq] using h
    rw [eq_of_beqList same]
  | .any cs, .any ds =>
    have same : beqList cs ds = true := by simpa only [beq] using h
    rw [eq_of_beqList same]
  | .not c, .not d =>
    have same : beq c d = true := by simpa only [beq] using h
    rw [eq_of_beq same]
  | .test .., .all _ | .test .., .any _ | .test .., .not _ | .all _, .test .. | .all _, .any _
  | .all _, .not _ | .any _, .test .. | .any _, .all _ | .any _, .not _ | .not _, .test ..
  | .not _, .all _ | .not _, .any _ => simp [beq] at h

theorem eq_of_beqList {cs ds : List Condition} (h : beqList cs ds = true) : cs = ds := by
  match cs, ds with
  | [], [] => rfl
  | _ :: _, _ :: _ =>
    simp only [beqList, Bool.and_eq_true] at h
    rw [eq_of_beq h.1, eq_of_beqList h.2]
  | [], _ :: _ | _ :: _, [] => simp [beqList] at h

end

mutual

theorem beq_self (c : Condition) : beq c c = true := by
  match c with
  | .test .. => simp [beq]
  | .all cs | .any cs => simp [beq, beqList_self cs]
  | .not c => simp [beq, beq_self c]

theorem beqList_self (cs : List Condition) : beqList cs cs = true := by
  match cs with
  | [] => simp [beqList]
  | c :: cs => simp [beqList, beq_self c, beqList_self cs]

end

instance : DecidableEq Condition := fun c d =>
  decidable_of_iff (beq c d = true) ⟨eq_of_beq, fun h => h ▸ beq_self c⟩

end Condition

deriving instance DecidableEq for Rule
deriving instance DecidableEq for Policy

namespace Policy

/-- The policy with one more rule, declared last. -/
def withRule (policy : Policy) (rule : Rule) : Policy :=
  { policy with rules := policy.rules ++ [rule] }

/-- The policy that is in force when none is configured: nobody who is not authenticated gets in;
administrators do, and so do the developers of the department Engineering (the group is looked for
anywhere inside the groups) and users with an address that ends with `@example.com`. -/
def standard : Policy where
  defaultEffect := .deny
  rules :=
    [ { name := "authentication-gate", effect := .deny, priority := 400
        conditions := [.not (.test .equals .authenticated "true")] },
      { name := "admin-override", effect := .allow, priority := 300
        conditions := [.test .equals .role "admin"] },
      { name := "engineering-developers", effect := .allow, priority := 200
        conditions :=
          [.test .equals .department "Engineering", .test .contains .groups "developers"] },
      { name := "example-domain-users", effect := .allow, priority := 100
        conditions := [.test .equals .role "user", .test .endsWith .email "@example.com"] } ]

end Policy

end AccessStream
