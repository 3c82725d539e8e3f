import JavaTypes.Proofs.Acceptance
import Mathlib.Algebra.Group.Nat.Even
import Mathlib.Logic.Function.Basic

/-!
# Parameterized types are compared argument by argument

Assignability of two parameterized types is a law about assignability itself:
the classes agree and each target argument contains its source argument, where
bounds are compared by assignability without unchecked raw conversion.

The position of a comparison is thus no more than the choice of the environment:
a nested comparison is a comparison at the top level of the environment that
never converts raw classes.  Invariance and the two variances follow at every
depth of nesting.
-/

namespace JavaTypes

/-- A type put `depth` times inside a class of one argument, each time wrapped
as an argument by `wrap`. -/
def Ty.nest (wrap : Ty → Ty) (id : ClassId) : Nat → Ty → Ty
  | 0, type => type
  | depth + 1, type => .parameterized id [wrap (nest wrap id depth type)]

namespace Env

/-- The environment that never converts a raw class to a parameterized type. -/
def withoutRaw (env : Env) : Env :=
  { env with uncheckedRaw := false }

/-- Containment of a source argument in a target argument, their bounds compared
by assignability without raw conversion. -/
def Contained (env : Env) : Ty → Ty → Prop :=
  env.ContainsArg fun first second =>
    env.withoutRaw.isAssignable first second = true

/-! ## The nested position -/

/-- Two environments that differ in raw conversion only ask the same
questions. -/
theorem simulation_of_uncheckedRaw
    {env other : Env}
    (sameRoot : env.root = other.root)
    (sameClasses : env.classDef? = other.classDef?)
    (sameVariables : env.typeVarDef? = other.typeVarDef?) :
    Simulation env other fun guard guard' _ _ => guard = guard' where
  sameRoot := sameRoot
  sameParents := by
    funext id
    simp only [parents, sameClasses]
  element same := same
  inner same := fun _ _ _ _ => ⟨same, same⟩
  expand := by
    rintro guard _ position target var rfl _ _ _ ⟨fresh, _⟩
    refine ⟨fresh, ?_, rfl⟩
    simp [bound, declaredBound?, rootTy, sameRoot, sameVariables]

/-- A nested comparison is one at the top level without raw conversion. -/
theorem accepts_nested_eq_withoutRaw (env : Env) (guard : List TypeVarId)
    (target source : Ty) :
    env.accepts guard .nested target source =
      env.withoutRaw.accepts guard .topLevel target source := by
  have forward : Simulation env env.withoutRaw _ :=
    simulation_of_uncheckedRaw rfl rfl rfl
  have backward : Simulation env.withoutRaw env _ :=
    simulation_of_uncheckedRaw rfl rfl rfl
  rw [Bool.eq_iff_iff]
  constructor
  · exact forward.accepts guard target source rfl (by simp [convertsRaw])
  · exact backward.accepts guard target source rfl
      (by simp [convertsRaw, withoutRaw])

/-- Assignability of parameterized types, in terms of assignability. -/
theorem isAssignable_parameterized (env : Env) (id id' : ClassId)
    (args args' : List Ty) :
    env.isAssignable (.parameterized id args) (.parameterized id' args') =
        true ↔
      id = id' ∧ List.Forall₂ env.Contained args args' := by
  have sameQuestions :
      (fun first second => env.accepts [] .nested first second = true) =
        fun first second => env.withoutRaw.isAssignable first second = true := by
    funext first second
    rw [accepts_nested_eq_withoutRaw, isAssignable]
  rw [isAssignable, accepts_parameterized_parameterized, Bool.and_eq_true,
    decide_eq_true_eq, acceptsArgs_eq_true_iff, sameQuestions]
  rfl

/-! ## One argument, nested to any depth -/

theorem isAssignable_singleton (env : Env) (id : ClassId) (target source : Ty) :
    env.isAssignable (.parameterized id [target]) (.parameterized id [source]) =
        true ↔
      env.Contained target source := by
  simp [isAssignable_parameterized]

/-- One level of nesting asks about the wrapped types below it. -/
private theorem isAssignable_nest_succ (env : Env) (wrap wrap' : Ty → Ty)
    (id : ClassId) (target source : Ty) (depth : Nat) :
    env.isAssignable (Ty.nest wrap id (depth + 1) target)
        (Ty.nest wrap' id (depth + 1) source) = true ↔
      env.Contained (wrap (Ty.nest wrap id depth target))
        (wrap' (Ty.nest wrap' id depth source)) :=
  isAssignable_singleton env id _ _

theorem contained_iff_eq
    {env : Env} {target source : Ty}
    (targetExact : target.isWildcard = false)
    (sourceExact : source.isWildcard = false) :
    env.Contained target source ↔ target = source := by
  rw [Contained, containsArg_iff,
    argument_eq_exact_iff.mpr ⟨rfl, targetExact⟩,
    argument_eq_exact_iff.mpr ⟨rfl, sourceExact⟩, Argument.Contains]

theorem contained_upperBounded_iff {env : Env} {bound bound' : Ty} :
    env.Contained (.upperBounded bound) (.upperBounded bound') ↔
      env.withoutRaw.isAssignable bound bound' = true :=
  containsArg_iff

theorem contained_lowerBounded_iff {env : Env} {bound bound' : Ty} :
    env.Contained (.lowerBounded bound) (.lowerBounded bound') ↔
      env.withoutRaw.isAssignable bound' bound = true :=
  containsArg_iff

private theorem isWildcard_nest
    {id : ClassId} {type : Ty} (plain : type.isWildcard = false) (depth : Nat) :
    (Ty.nest (fun inner => inner) id depth type).isWildcard = false := by
  cases depth with
  | zero => exact plain
  | succ depth => rfl

private theorem nest_injective (id : ClassId) (depth : Nat) :
    Function.Injective (Ty.nest (fun inner => inner) id depth) := by
  induction depth with
  | zero => exact Function.injective_id
  | succ depth inductionHypothesis =>
      intro first second same
      apply inductionHypothesis
      simpa [Ty.nest] using same

private theorem isAssignable_nest_exact
    {env : Env} {id : ClassId} {target source : Ty}
    (targetExact : target.isWildcard = false)
    (sourceExact : source.isWildcard = false) (depth : Nat) :
    env.isAssignable (Ty.nest (fun inner => inner) id (depth + 1) target)
        (Ty.nest (fun inner => inner) id (depth + 1) source) = true ↔
      target = source := by
  rw [isAssignable_nest_succ,
    contained_iff_eq (isWildcard_nest targetExact depth)
      (isWildcard_nest sourceExact depth)]
  exact (nest_injective id depth).eq_iff

private theorem isAssignable_nest_upper (env : Env) (id : ClassId)
    (target source : Ty) (depth : Nat) :
    env.isAssignable (Ty.nest .upperBounded id (depth + 1) target)
        (Ty.nest .upperBounded id (depth + 1) source) = true ↔
      env.withoutRaw.isAssignable target source = true := by
  induction depth generalizing env with
  | zero =>
      rw [isAssignable_nest_succ, contained_upperBounded_iff]
      rfl
  | succ depth inductionHypothesis =>
      rw [isAssignable_nest_succ, contained_upperBounded_iff]
      exact inductionHypothesis env.withoutRaw

/-- Each level of lower bounds turns the question around. -/
private theorem isAssignable_nest_lower (env : Env) (id : ClassId)
    (target source : Ty) (depth : Nat) :
    env.isAssignable (Ty.nest .lowerBounded id (depth + 1) target)
        (Ty.nest .lowerBounded id (depth + 1) source) = true ↔
      if Even depth then env.withoutRaw.isAssignable source target = true
      else env.withoutRaw.isAssignable target source = true := by
  induction depth generalizing env target source with
  | zero =>
      rw [isAssignable_nest_succ, contained_lowerBounded_iff]
      simp [Ty.nest]
  | succ depth inductionHypothesis =>
      rw [isAssignable_nest_succ, contained_lowerBounded_iff,
        inductionHypothesis env.withoutRaw source target]
      by_cases even : Even depth <;>
        simp [even, Nat.even_add_one, withoutRaw]

/-- Below upper bounds, opposite variances meet at the root only. -/
private theorem isAssignable_nest_opposite
    {env : Env} {id : ClassId} {target source bound bound' : Ty}
    (opposite : ∀ env' : Env, env'.root = env.root →
      (env'.Contained target source ↔
        bound = env.rootTy ∧ bound' = env.rootTy)) (depth : Nat) :
    env.isAssignable
        (Ty.nest .upperBounded id depth (.parameterized id [target]))
        (Ty.nest .upperBounded id depth (.parameterized id [source])) = true ↔
      bound = env.rootTy ∧ bound' = env.rootTy := by
  cases depth with
  | zero =>
      rw [Ty.nest, Ty.nest, isAssignable_singleton]
      exact opposite env rfl
  | succ depth =>
      rw [isAssignable_nest_upper, isAssignable_singleton]
      exact opposite env.withoutRaw rfl

/-- Two parameterized types are compared class by class and argument by
argument; nested bounds are compared as types are, without raw conversion.  So
plain arguments are invariant, upper bounds covariant, lower bounds
contravariant, and opposite variances exclude each other, at every depth. -/
theorem isAssignable_parameterized_iff (env : Env) (target source : ClassId)
    (targets sources : List Ty) :
    (env.isAssignable (.parameterized target targets)
          (.parameterized source sources) = true ↔
        target = source ∧ targets.length = sources.length ∧
          ∀ (index : Nat) (first second : Ty),
            targets[index]? = some first → sources[index]? = some second →
              env.Contained first second) ∧
      ∀ (depth : Nat) (first second : Ty),
        (first.isWildcard = false → second.isWildcard = false →
          (env.isAssignable
                (Ty.nest (fun inner => inner) target (depth + 1) first)
                (Ty.nest (fun inner => inner) target (depth + 1) second) =
              true ↔
            first = second)) ∧
        (env.isAssignable (Ty.nest .upperBounded target (depth + 1) first)
              (Ty.nest .upperBounded target (depth + 1) second) = true ↔
          env.withoutRaw.isAssignable first second = true) ∧
        (env.isAssignable (Ty.nest .lowerBounded target (depth + 1) first)
              (Ty.nest .lowerBounded target (depth + 1) second) = true ↔
          if Even depth then env.withoutRaw.isAssignable second first = true
          else env.withoutRaw.isAssignable first second = true) ∧
        (env.isAssignable
              (Ty.nest .upperBounded target depth
                (.parameterized target [.upperBounded first]))
              (Ty.nest .upperBounded target depth
                (.parameterized target [.lowerBounded second])) = true ↔
          first = env.rootTy ∧ second = env.rootTy) ∧
        (env.isAssignable
              (Ty.nest .upperBounded target depth
                (.parameterized target [.lowerBounded first]))
              (Ty.nest .upperBounded target depth
                (.parameterized target [.upperBounded second])) = true ↔
          first = env.rootTy ∧ second = env.rootTy) := by
  refine ⟨?_, fun depth first second => ⟨?_, ?_, ?_, ?_, ?_⟩⟩
  · rw [isAssignable_parameterized, List.forall₂_iff_get]
    refine and_congr_right fun _ => and_congr_right fun sameLength => ?_
    constructor
    · intro contained index first second atFirst atSecond
      obtain ⟨inside, rfl⟩ := List.getElem?_eq_some_iff.mp atFirst
      obtain ⟨inside', rfl⟩ := List.getElem?_eq_some_iff.mp atSecond
      exact contained index inside inside'
    · intro contained index inside inside'
      exact contained index _ _ (List.getElem?_eq_getElem inside)
        (List.getElem?_eq_getElem inside')
  · intro firstExact secondExact
    exact isAssignable_nest_exact firstExact secondExact depth
  · exact isAssignable_nest_upper env target first second depth
  · exact isAssignable_nest_lower env target first second depth
  · refine isAssignable_nest_opposite (fun other sameRoot => ?_) depth
    simp [Contained, containsArg_iff, argument, Argument.Contains, rootTy,
      sameRoot]
  · refine isAssignable_nest_opposite (fun other sameRoot => ?_) depth
    simp [Contained, containsArg_iff, argument, Argument.Contains, rootTy,
      sameRoot]

end Env

end JavaTypes
