import JavaTypes.Proofs.Containment
import Mathlib.Logic.Relation

/-!
# Where raw conversion makes a difference

Unchecked raw conversion is a choice of the environment.  It adds the pairs of a
parameterized type and its raw class, and those that lead there by two kinds of
steps: from two arrays to their elements, and from a variable on the source side
to its bound, each variable once.  Nothing inside a type argument is reached by
such steps, and there the choice changes no answer.
-/

namespace JavaTypes

/-- A target and a source, and the variables expanded on the way to them. -/
structure Comparison where
  expanded : List TypeVarId
  target : Ty
  source : Ty

/-- A parameterized type meets its own raw class. -/
def Comparison.IsRaw (comparison : Comparison) : Prop :=
  ∃ id args, comparison.target = .parameterized id args ∧
    comparison.source = .cls id

/-- The type is an array or a parameterized type. -/
def Ty.isComposite : Ty → Bool
  | .array _ => true
  | .parameterized _ _ => true
  | _ => false

namespace Env

/-- The environment that converts raw classes at the top level. -/
def withRaw (env : Env) : Env :=
  { env with uncheckedRaw := true }

/-- One step from a comparison to the next. -/
inductive Reduces (env : Env) : Comparison → Comparison → Prop where
  /-- Strip one array level from both sides. -/
  | element (expanded : List TypeVarId) (element element' : Ty) :
      Reduces env ⟨expanded, .array element, .array element'⟩
        ⟨expanded, element, element'⟩
  /-- Replace a variable on the source side, not expanded yet, by its bound. -/
  | bound {expanded : List TypeVarId} {var : TypeVarId} {bound : Ty}
      (target : Ty) (fresh : var ∉ expanded)
      (bounded : env.HasBound var bound) :
      Reduces env ⟨expanded, target, .typeVar var⟩
        ⟨var :: expanded, target, bound⟩

/-- Some steps lead from a comparison to a parameterized type and its raw
class. -/
def LeadsToRaw (env : Env) (comparison : Comparison) : Prop :=
  ∃ last, Relation.ReflTransGen env.Reduces comparison last ∧ last.IsRaw

theorem LeadsToRaw.head
    {env : Env} {comparison next : Comparison}
    (step : env.Reduces comparison next) (rest : env.LeadsToRaw next) :
    env.LeadsToRaw comparison := by
  obtain ⟨last, steps, isRaw⟩ := rest
  exact ⟨last, .head step steps, isRaw⟩

/-! ## Inside type arguments -/

/-- Nested comparisons do not depend on the choice. -/
private theorem accepts_nested_withRaw (env : Env) (guard : List TypeVarId)
    (target source : Ty) :
    env.withRaw.accepts guard .nested target source =
      env.withoutRaw.accepts guard .nested target source := by
  rw [accepts_nested_eq_withoutRaw env.withRaw,
    accepts_nested_eq_withoutRaw env.withoutRaw]
  rfl

private theorem contains_withRaw (env : Env) (guard : List TypeVarId)
    (target source : Ty) :
    env.withRaw.contains guard target source =
      env.withoutRaw.contains guard target source := by
  rw [Bool.eq_iff_iff, contains_eq_true_iff, contains_eq_true_iff]
  simp only [accepts_nested_withRaw]
  rfl

/-! ## Conversion adds no other pairs -/

private theorem accepts_withoutRaw_or_leadsToRaw
    {env : Env} (guard : List TypeVarId) (target source : Ty)
    (accepted : env.withRaw.accepts guard .topLevel target source = true) :
    env.withoutRaw.accepts guard .topLevel target source = true ∨
      env.LeadsToRaw ⟨guard, target, source⟩ := by
  have sameRoot : env.withRaw.root = env.withoutRaw.root := rfl
  induction guard, target, source using env.withRaw.accepts_induction with
  | step guard target source ofBound ofElements ofContents =>
      cases via_of_accepts accepted with
      | same => exact Or.inl (accepts_self _ guard .topLevel target)
      | root reference =>
          exact Or.inl (accepts_root env.withoutRaw guard .topLevel reference)
      | @typeVar _ var differs reference notRoot expanded =>
          obtain ⟨fresh, boundAccepted⟩ := expanded
          rcases ofBound var rfl fresh boundAccepted with plain | leads
          · exact Or.inl <| accepts_of_via <|
              .typeVar differs reference notRoot ⟨fresh, plain⟩
          · have bounded : env.HasBound var (env.withRaw.bound var) :=
              env.hasBound_bound var
            exact Or.inr (leads.head (.bound target fresh bounded))
      | @array first second elements =>
          rcases ofElements first second rfl rfl elements with plain | leads
          · exact Or.inl (accepts_of_via (.array plain))
          · exact Or.inr (leads.head (.element guard first second))
      | cls sourceClass subclass =>
          have sameParents : env.withRaw.parents = env.withoutRaw.parents := rfl
          rw [isSubclass_congr sameRoot sameParents] at subclass
          exact Or.inl (accepts_of_via (.cls sourceClass subclass))
      | @raw erasure args _ =>
          exact Or.inr ⟨_, .refl, erasure, args, rfl, rfl⟩
      | args contained =>
          simp only [accepts_nested_withRaw, containsArgs_congr sameRoot]
            at contained
          exact Or.inl (accepts_of_via (.args contained))

/-! ## Conversion adds these pairs -/

private theorem accepts_withRaw_of_withoutRaw
    {env : Env} {guard : List TypeVarId} {position : Position}
    {target source : Ty}
    (accepted : env.withoutRaw.accepts guard position target source = true) :
    env.withRaw.accepts guard position target source = true := by
  have simulation : Simulation env.withoutRaw env.withRaw _ :=
    simulation_of_uncheckedRaw rfl rfl rfl
  refine simulation.accepts guard target source rfl ?_ accepted
  simp [convertsRaw, withoutRaw]

/-- A step keeps a composite target composite when it is undone, and the target
then accepts the source it came from. -/
theorem Reduces.accepts
    {env : Env} {comparison next : Comparison}
    (step : env.Reduces comparison next)
    (composite : next.target.isComposite = true)
    (accepted : env.withRaw.accepts next.expanded .topLevel next.target
      next.source = true) :
    comparison.target.isComposite = true ∧
      env.withRaw.accepts comparison.expanded .topLevel comparison.target
        comparison.source = true := by
  cases step with
  | element expanded element element' =>
      refine ⟨rfl, ?_⟩
      rw [accepts_array_array]
      exact accepted
  | @bound expanded var bound target fresh bounded =>
      obtain rfl := hasBound_iff.mp bounded
      refine ⟨composite, ?_⟩
      have differs : target ≠ .typeVar var := by
        rintro rfl
        cases composite
      have notRoot : target ≠ env.withRaw.rootTy := by
        rintro rfl
        cases composite
      have reference : target.isReference = true := by
        cases target <;> simp_all [Ty.isComposite, Ty.isReference]
      rw [accepts_typeVar differs reference notRoot, if_neg fresh]
      exact accepted

private theorem accepts_of_leadsToRaw
    {env : Env} {comparison : Comparison}
    (leads : env.LeadsToRaw comparison) :
    env.withRaw.accepts comparison.expanded .topLevel comparison.target
      comparison.source = true := by
  obtain ⟨last, steps, isRaw⟩ := leads
  have accepted :
      comparison.target.isComposite = true ∧
        env.withRaw.accepts comparison.expanded .topLevel comparison.target
          comparison.source = true := by
    induction steps using Relation.ReflTransGen.head_induction_on with
    | refl =>
        obtain ⟨id, args, targetShape, sourceShape⟩ := isRaw
        rw [targetShape, sourceShape, accepts_parameterized_cls]
        exact ⟨rfl, by simp [withRaw]⟩
    | head step _ inductionHypothesis =>
        exact step.accepts inductionHypothesis.1 inductionHypothesis.2
  exact accepted.2

/-- Raw conversion adds to an environment exactly the pairs that lead to a
parameterized type and its raw class.  So it only adds answers, and it changes
none between type arguments or wildcard bounds. -/
theorem isAssignable_withRaw_iff (env : Env) (target source : Ty) :
    (env.withRaw.isAssignable target source = true ↔
        env.withoutRaw.isAssignable target source = true ∨
          env.LeadsToRaw ⟨[], target, source⟩) ∧
      (env.withoutRaw.isAssignable target source = true →
        env.withRaw.isAssignable target source = true) ∧
      ∀ guard,
        env.withRaw.contains guard target source =
            env.withoutRaw.contains guard target source ∧
          env.withRaw.accepts guard .nested target source =
            env.withoutRaw.accepts guard .nested target source := by
  have monotone :
      env.withoutRaw.isAssignable target source = true →
        env.withRaw.isAssignable target source = true :=
    accepts_withRaw_of_withoutRaw
  refine ⟨⟨?_, ?_⟩, monotone, ?_⟩
  · exact accepts_withoutRaw_or_leadsToRaw [] target source
  · rintro (plain | leads)
    · exact monotone plain
    · exact accepts_of_leadsToRaw leads
  · intro guard
    exact ⟨contains_withRaw env guard target source,
      accepts_nested_withRaw env guard target source⟩

end Env

end JavaTypes
