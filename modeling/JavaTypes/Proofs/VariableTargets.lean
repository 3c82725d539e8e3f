import JavaTypes.Proofs.Acceptance
import Mathlib.Data.Nat.Find
import Mathlib.Logic.Relation

/-!
# A type variable as the target of an assignment

A type variable accepts nothing through its own bound.  It accepts a source only
if that is a variable whose declared bounds, each of them a bare variable, lead
to it in some number of steps.

The check follows the bounds of the source and refuses a variable that it met
before, so a walk around a cycle is cut off.  A shortest walk to the target meets
no variable twice, and nothing is lost.  What the check keeps on a shortest walk
is that every variable met before is farther from the target than the walk has
still to go.
-/

namespace JavaTypes

namespace Env

/-- The declared bound of the first variable is the second one. -/
def BoundedBy (env : Env) (low high : TypeVarId) : Prop :=
  env.DeclaresBound low (.typeVar high)

/-! ## One step of the walk -/

section

variable {env : Env} {guard : List TypeVarId} {position : Position}

theorem bound_eq_typeVar_iff {low high : TypeVarId} :
    env.bound low = .typeVar high ↔ env.BoundedBy low high := by
  rw [BoundedBy, ← declaredBound?_eq_some_iff, bound]
  cases env.declaredBound? low with
  | none => simp [rootTy]
  | some bound => simp

/-- A variable accepts another one that has not been expanded yet and is bounded
by a variable that it accepts. -/
theorem accepts_typeVar_typeVar_iff {goal var : TypeVarId} :
    env.accepts guard position (.typeVar goal) (.typeVar var) = true ↔
      var = goal ∨
        var ∉ guard ∧ ∃ next, env.BoundedBy var next ∧
          env.accepts (var :: guard) position (.typeVar goal)
            (.typeVar next) = true := by
  by_cases same : var = goal
  · simp [same, accepts_self]
  have differs : Ty.typeVar goal ≠ .typeVar var := by
    intro equal
    exact same (Ty.typeVar.inj equal).symm
  rw [accepts_typeVar differs rfl (by simp [rootTy])]
  by_cases guarded : var ∈ guard
  · simp [same, guarded]
  rw [if_neg guarded]
  constructor
  · intro accepted
    by_cases isVariable : ∃ next, env.bound var = .typeVar next
    · obtain ⟨next, boundEq⟩ := isVariable
      rw [boundEq] at accepted
      exact Or.inr ⟨guarded, next, bound_eq_typeVar_iff.mp boundEq, accepted⟩
    · rw [accepts_of_typeVar (not_exists.mp isVariable)] at accepted
      cases accepted
  · rintro (equal | ⟨_, next, bounded, accepted⟩)
    · exact absurd equal same
    · rwa [bound_eq_typeVar_iff.mpr bounded]

/-! ## Walks -/

/-- The walk of the check is a chain of bounds. -/
theorem reaches_of_accepts
    (guard : List TypeVarId) (target source : Ty) {goal var : TypeVarId}
    (isGoal : target = .typeVar goal) (isVar : source = .typeVar var)
    (accepted : env.accepts guard position target source = true) :
    Relation.ReflTransGen env.BoundedBy var goal := by
  induction guard, target, source using env.accepts_induction
    generalizing var with
  | step guard target source ofBound _ _ =>
      subst isGoal isVar
      rcases accepts_typeVar_typeVar_iff.mp accepted with
        rfl | ⟨fresh, next, bounded, nextAccepted⟩
      · exact .refl
      · have boundEq := bound_eq_typeVar_iff.mpr bounded
        rw [← boundEq] at nextAccepted
        exact .head bounded (ofBound var rfl fresh rfl boundEq nextAccepted)

/-- A chain of bounds with its number of steps. -/
inductive Climbs (env : Env) : Nat → TypeVarId → TypeVarId → Prop where
  | here (var : TypeVarId) : Climbs env 0 var var
  | up {steps : Nat} {var next goal : TypeVarId}
      (bounded : env.BoundedBy var next) (rest : Climbs env steps next goal) :
      Climbs env (steps + 1) var goal

private theorem exists_climbs_of_reaches
    {var goal : TypeVarId}
    (reaches : Relation.ReflTransGen env.BoundedBy var goal) :
    ∃ steps, env.Climbs steps var goal := by
  induction reaches using Relation.ReflTransGen.head_induction_on with
  | refl => exact ⟨0, .here goal⟩
  | head bounded _ inductionHypothesis =>
      obtain ⟨steps, climbs⟩ := inductionHypothesis
      exact ⟨steps + 1, .up bounded climbs⟩

/-- A shortest chain is followed to its end when the guard holds only variables
that are farther from the end. -/
private theorem accepts_of_climbs
    {steps : Nat} {var goal : TypeVarId} (climbs : env.Climbs steps var goal)
    (shortest : ∀ fewer < steps, ¬ env.Climbs fewer var goal)
    (farther : ∀ met ∈ guard, ∀ fewer ≤ steps, ¬ env.Climbs fewer met goal) :
    env.accepts guard position (.typeVar goal) (.typeVar var) = true := by
  induction climbs generalizing guard with
  | here var => exact accepts_self env guard position (.typeVar var)
  | @up steps var next goal bounded rest inductionHypothesis =>
      have fresh : var ∉ guard := fun guarded =>
        farther var guarded (steps + 1) (Nat.le_refl _) (.up bounded rest)
      refine accepts_typeVar_typeVar_iff.mpr
        (Or.inr ⟨fresh, next, bounded, inductionHypothesis ?_ ?_⟩)
      · intro fewer less shorter
        exact shortest (fewer + 1) (by omega) (.up bounded shorter)
      · intro met member fewer atMost shorter
        rcases List.mem_cons.mp member with rfl | guarded
        · exact shortest fewer (by omega) shorter
        · exact farther met guarded fewer (by omega) shorter

theorem isAssignable_of_reaches
    {var goal : TypeVarId}
    (reaches : Relation.ReflTransGen env.BoundedBy var goal) :
    env.isAssignable (.typeVar goal) (.typeVar var) = true := by
  classical
  have climbs := exists_climbs_of_reaches reaches
  exact accepts_of_climbs (Nat.find_spec climbs)
    (fun _ less => Nat.find_min climbs less) (by simp)

end

/-- A type variable accepts exactly the variables from which declared bounds
that are bare variables lead to it, in zero or more steps. -/
theorem isAssignable_to_typeVar_iff (env : Env) (goal : TypeVarId)
    (source : Ty) :
    env.isAssignable (.typeVar goal) source = true ↔
      ∃ var, source = .typeVar var ∧
        Relation.ReflTransGen env.BoundedBy var goal := by
  constructor
  · intro accepted
    by_cases isVariable : ∃ var, source = .typeVar var
    · obtain ⟨var, rfl⟩ := isVariable
      exact ⟨var, rfl, reaches_of_accepts [] _ _ rfl rfl accepted⟩
    · rw [isAssignable, accepts_of_typeVar (not_exists.mp isVariable)] at accepted
      cases accepted
  · rintro ⟨var, rfl, reaches⟩
    exact isAssignable_of_reaches reaches

end Env

end JavaTypes
