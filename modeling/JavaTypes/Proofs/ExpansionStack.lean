import JavaTypes.Proofs.Termination
import JavaTypes.Proofs.VariableBounds

/-!
# The stack of variables under expansion

The check is told with each question which variables are under expansion.  It
may as well keep them on one stack: a variable is pushed before its bound is
looked at and popped afterwards, and each question starts with the stack that
the question before it left behind.

This is the same check.  Whatever follows the code with a stack gives the
answers of `Env.accepts` for the stack that it starts with, and leaves that
stack behind.

The stack matters in one direction only.  With fewer variables on it the check
accepts no less, also where a lower bound turns the question around, because
both sides of a question are looked at with the same stack.
-/

namespace JavaTypes

/-- A question that the check asks, without the variables under expansion. -/
inductive Question where
  | accepts (position : Position) (target source : Ty)
  | acceptsArgs (targets sources : List Ty)
  | contains (target source : Ty)

/-- The question, asked while the variables of a guard are under expansion. -/
def Question.under (guard : List TypeVarId) : Question → Call
  | .accepts position target source => .accepts guard position target source
  | .acceptsArgs targets sources => .acceptsArgs guard targets sources
  | .contains target source => .contains guard target source

/-- A check that keeps the variables under expansion on a stack: it is started
with a stack, and gives its answer together with the stack it leaves behind. -/
abbrev StackCheck : Type :=
  Question → List TypeVarId → Bool × List TypeVarId

namespace Env

/-- Compare two types.  A variable is on the stack while its bound is looked
at. -/
def stackAccepts (env : Env) (check : StackCheck) (position : Position)
    (target source : Ty) (stack : List TypeVarId) : Bool × List TypeVarId :=
  if target = source then (true, stack)
  else if target.isWildcard || source.isWildcard then (false, stack)
  else if target.isPrimitive || source.isPrimitive then (false, stack)
  else if target = env.rootTy then (true, stack)
  else
    match target, source with
    | target, .typeVar var =>
        if var ∈ stack then (false, stack)
        else
          let (result, after) :=
            check (.accepts position target (env.bound var)) (var :: stack)
          (result, after.tail)
    | .array element, .array element' =>
        check (.accepts position element element') stack
    | .cls sup, .cls sub => (env.isSubclass sub sup, stack)
    | .cls sup, .parameterized sub _ => (env.isSubclass sub sup, stack)
    | .parameterized erasure _, .cls id =>
        (position = .topLevel && env.uncheckedRaw && erasure = id, stack)
    | .parameterized erasure args, .parameterized erasure' args' =>
        if erasure = erasure' ∧ args.length = args'.length then
          check (.acceptsArgs args args') stack
        else (false, stack)
    | _, _ => (false, stack)

/-- Compare two argument lists, up to the first arguments that do not match. -/
def stackAcceptsArgs (check : StackCheck) :
    List Ty → List Ty → List TypeVarId → Bool × List TypeVarId
  | [], [], stack => (true, stack)
  | target :: targets, source :: sources, stack =>
      match check (.contains target source) stack with
      | (true, after) => check (.acceptsArgs targets sources) after
      | (false, after) => (false, after)
  | _, _, stack => (false, stack)

/-- Compare two type arguments through their variance. -/
def stackContains (env : Env) (check : StackCheck) (stack : List TypeVarId) :
    Argument → Argument → Bool × List TypeVarId
  | .exact type, .exact type' => (type = type', stack)
  | .exact _, _ => (false, stack)
  | .upper bound, .exact type => check (.accepts .nested bound type) stack
  | .upper bound, .upper bound' => check (.accepts .nested bound bound') stack
  | .lower bound, .exact type => check (.accepts .nested type bound) stack
  | .lower bound, .lower bound' => check (.accepts .nested bound' bound) stack
  | .upper bound, .lower bound' =>
      (bound = env.rootTy && bound' = env.rootTy, stack)
  | .lower bound, .upper bound' =>
      (bound = env.rootTy && bound' = env.rootTy, stack)

/-- The code of the check, with another check for the questions it asks. -/
def stackCode (env : Env) (check : StackCheck) : StackCheck
  | .accepts position target source, stack =>
      env.stackAccepts check position target source stack
  | .acceptsArgs targets sources, stack =>
      stackAcceptsArgs check targets sources stack
  | .contains target source, stack =>
      env.stackContains check stack (env.argument target) (env.argument source)

/-- The check asks its questions of itself. -/
def FollowsStackCode (env : Env) (check : StackCheck) : Prop :=
  ∀ question stack, check question stack = env.stackCode check question stack

/-- The check answers a question for the variables on the stack, and leaves the
stack as it was. -/
def Settles (env : Env) (check : StackCheck) (question : Question)
    (stack : List TypeVarId) : Prop :=
  check question stack = (env.answer (question.under stack), stack)

/-! ## One activation -/

private theorem acceptsArgs_of_length_ne
    {env : Env} {guard : List TypeVarId} {args args' : List Ty}
    (differ : args.length ≠ args'.length) :
    env.acceptsArgs guard args args' = false := by
  have refused : ¬ env.acceptsArgs guard args args' = true := by
    rw [acceptsArgs_eq_true_iff]
    intro contained
    exact differ contained.length_eq
  simpa using refused

private theorem stackAccepts_eq
    {env : Env} {check : StackCheck} {position : Position} {target source : Ty}
    {stack : List TypeVarId}
    (settled : ∀ next stack',
      env.Calls (.accepts stack position target source) (next.under stack') →
        env.Settles check next stack') :
    env.stackAccepts check position target source stack =
      (env.accepts stack position target source, stack) := by
  rw [accepts_eq_run]
  simp only [Calls, activation] at settled
  unfold acceptsActivation at settled ⊢
  unfold stackAccepts
  by_cases same : target = source
  · simp only [if_pos same]
    rfl
  simp only [if_neg same] at settled ⊢
  by_cases wildcard : (target.isWildcard || source.isWildcard) = true
  · simp only [if_pos wildcard]
    rfl
  simp only [if_neg wildcard] at settled ⊢
  by_cases primitive : (target.isPrimitive || source.isPrimitive) = true
  · simp only [if_pos primitive]
    rfl
  simp only [if_neg primitive] at settled ⊢
  by_cases atRoot : target = env.rootTy
  · simp only [if_pos atRoot]
    rfl
  simp only [if_neg atRoot] at settled ⊢
  split
  · rename_i var
    by_cases guarded : var ∈ stack
    · simp [guarded, Activation.run]
    · have expanded : env.Settles check
          (.accepts position target (env.bound var)) (var :: stack) := by
        apply settled
        simp [guarded, Question.under]
      unfold Settles at expanded
      -- What was pushed is on top again when the bound has been looked at.
      simp [guarded, expanded, Activation.run, Question.under]
  · rename_i element element'
    exact settled (.accepts position element element') stack (Or.inl rfl)
  · rfl
  · rfl
  · rfl
  · rename_i erasure args erasure' args'
    by_cases sameErasure : erasure = erasure'
    · by_cases sameLength : args.length = args'.length
      · have compared : env.Settles check (.acceptsArgs args args') stack := by
          apply settled
          simp [sameErasure, Question.under]
        unfold Settles at compared
        simp [sameErasure, sameLength, compared, Activation.run,
          Question.under]
      · simp [sameErasure, sameLength, Activation.run, answer,
          acceptsArgs_of_length_ne]
    · simp [sameErasure, Activation.run]
  · simp_all [Activation.run]

private theorem stackAcceptsArgs_eq
    {env : Env} {check : StackCheck} {targets sources : List Ty}
    {stack : List TypeVarId}
    (settled : ∀ next stack',
      env.Calls (.acceptsArgs stack targets sources) (next.under stack') →
        env.Settles check next stack') :
    stackAcceptsArgs check targets sources stack =
      (env.acceptsArgs stack targets sources, stack) := by
  rw [acceptsArgs_eq_run]
  cases targets with
  | nil => cases sources <;> rfl
  | cons target targets =>
      cases sources with
      | nil => rfl
      | cons source sources =>
          have first : check (.contains target source) stack =
              (env.contains stack target source, stack) :=
            settled (.contains target source) stack (Or.inl rfl)
          have rest : check (.acceptsArgs targets sources) stack =
              (env.acceptsArgs stack targets sources, stack) :=
            settled (.acceptsArgs targets sources) stack
              (Or.inr ⟨true, Or.inl rfl⟩)
          cases contained : env.contains stack target source with
          | false =>
              simp [stackAcceptsArgs, first, contained, acceptsArgsActivation,
                Activation.run, answer]
          | true =>
              simp [stackAcceptsArgs, first, rest, contained,
                acceptsArgsActivation, Activation.run, answer]

private theorem stackContains_eq
    {env : Env} {check : StackCheck} {target source : Argument}
    {stack : List TypeVarId}
    (settled : ∀ next stack',
      (env.containsActivation stack target source).Makes (next.under stack') →
        env.Settles check next stack') :
    env.stackContains check stack target source =
      ((env.containsActivation stack target source).run env.answer, stack) := by
  cases target with
  | exact type => cases source <;> rfl
  | upper bound =>
      cases source with
      | exact type => exact settled (.accepts .nested bound type) stack (Or.inl rfl)
      | upper bound' =>
          exact settled (.accepts .nested bound bound') stack (Or.inl rfl)
      | lower bound' => rfl
  | lower bound =>
      cases source with
      | exact type => exact settled (.accepts .nested type bound) stack (Or.inl rfl)
      | upper bound' => rfl
      | lower bound' =>
          exact settled (.accepts .nested bound' bound) stack (Or.inl rfl)

/-- The code of the check settles a question when the check that it asks settles
the questions of the code. -/
private theorem settles_stackCode
    {env : Env} {check : StackCheck} {question : Question}
    {stack : List TypeVarId}
    (settled : ∀ next stack',
      env.Calls (question.under stack) (next.under stack') →
        env.Settles check next stack') :
    env.Settles (env.stackCode check) question stack := by
  cases question with
  | accepts position target source => exact stackAccepts_eq settled
  | acceptsArgs targets sources => exact stackAcceptsArgs_eq settled
  | contains target source =>
      have byVariance := stackContains_eq settled
      rwa [← contains_eq_run] at byVariance

/-! ## Whole checks -/

private theorem FollowsStackCode.settles
    {env : Env} {check : StackCheck} (follows : env.FollowsStackCode check)
    (question : Question) (stack : List TypeVarId) :
    env.Settles check question stack := by
  -- The stack of a question decides what is asked next, so the induction is on
  -- the two together, as one call.
  generalize asked : question.under stack = call
  induction call using env.wellFounded_calls.induction
    generalizing question stack with
  | h call inductionHypothesis =>
      subst asked
      rw [Settles, follows question stack]
      apply settles_stackCode
      intro next stack' made
      exact inductionHypothesis _ made next stack' rfl

theorem followsStackCode_iff (env : Env) (check : StackCheck) :
    env.FollowsStackCode check ↔
      ∀ question stack, env.Settles check question stack := by
  constructor
  · exact FollowsStackCode.settles
  · intro settled question stack
    have byCode : env.Settles (env.stackCode check) question stack :=
      settles_stackCode fun next stack' _ => settled next stack'
    rw [settled question stack, byCode]

/-! ## Fewer variables on the stack -/

private theorem answer_of_subset
    {env : Env} {guard guard' : List TypeVarId} (subset : guard ⊆ guard')
    {question : Question}
    (accepted : env.answer (question.under guard') = true) :
    env.answer (question.under guard) = true := by
  have bounds {first second : Ty}
      (bound : env.accepts guard' .nested first second = true) :
      env.accepts guard .nested first second = true :=
    accepts_of_subset subset bound
  cases question with
  | accepts position target source => exact accepts_of_subset subset accepted
  | acceptsArgs targets sources =>
      apply (env.acceptsArgs_eq_true_iff guard targets sources).mpr
      apply ((env.acceptsArgs_eq_true_iff guard' targets sources).mp
        accepted).mono
      intro first _ second _
      exact ⟨bounds, bounds⟩
  | contains target source =>
      apply (env.contains_eq_true_iff guard target source).mpr
      apply ((env.contains_eq_true_iff guard' target source).mp
        accepted).mono
      · exact bounds
      · exact bounds

private theorem isAssignable_declaredBound
    {env : Env} {var : TypeVarId} {bound target : Ty}
    (declared : env.declaredBound? var = some bound)
    (differs : target ≠ .typeVar var) (notRoot : target ≠ env.rootTy)
    (accepted : env.isAssignable target (.typeVar var) = true) :
    env.isAssignable target bound = true := by
  have boundEq : env.bound var = bound := by simp [Env.bound, declared]
  cases via_of_accepts accepted with
  | same => exact absurd rfl differs
  | root reference => exact absurd rfl notRoot
  | typeVar _ _ _ expanded =>
      rw [← boundEq]
      exact accepts_of_subset (List.nil_subset [var]) expanded.2
  | cls sourceClass subclass => cases sourceClass

/-- A check that follows the code with a stack is determined by it: it gives the
answers for the stack it starts with, and leaves that stack behind.  An answer
that is positive with some variables on the stack is positive with fewer.  So a
type that accepts a variable, and is neither the variable nor the root, accepts
its declared bound. -/
theorem stack_only_removes_answers (env : Env) :
    (∀ check : StackCheck, env.FollowsStackCode check ↔
      ∀ question stack, check question stack =
        (env.answer (question.under stack), stack)) ∧
    (∀ (question : Question) (guard guard' : List TypeVarId), guard ⊆ guard' →
      env.answer (question.under guard') = true →
        env.answer (question.under guard) = true) ∧
    ∀ var bound target, env.declaredBound? var = some bound →
      target ≠ .typeVar var → target ≠ env.rootTy →
        env.isAssignable target (.typeVar var) = true →
          env.isAssignable target bound = true := by
  refine ⟨env.followsStackCode_iff, ?_, ?_⟩
  · intro question guard guard' subset accepted
    exact answer_of_subset subset accepted
  · intro var bound target declared differs notRoot accepted
    exact isAssignable_declaredBound declared differs notRoot accepted

end Env

namespace Model

/-- The class `Node` accepts `N extends Node<N>` while another variable is under
expansion.  So it accepts `N` with an empty stack, and the bound of `N`. -/
theorem stack_only_removes_answers_selfBounded :
    selfBounded.env.declaredBound? (.ofNat 0) =
        some (.parameterized (.ofNat 1) [.typeVar (.ofNat 0)]) ∧
      selfBounded.env.accepts [.ofNat 1] .topLevel (.cls (.ofNat 1))
          (.typeVar (.ofNat 0)) = true ∧
        selfBounded.env.isAssignable (.cls (.ofNat 1)) (.typeVar (.ofNat 0)) =
            true ∧
          selfBounded.env.isAssignable (.cls (.ofNat 1))
            (.parameterized (.ofNat 1) [.typeVar (.ofNat 0)]) = true := by
  obtain ⟨declared, notRoot⟩ :
      selfBounded.env.declaredBound? (.ofNat 0) =
          some (.parameterized (.ofNat 1) [.typeVar (.ofNat 0)]) ∧
        Ty.cls (.ofNat 1) ≠ selfBounded.env.rootTy := by
    decide +kernel
  have accepted :
      selfBounded.env.accepts [.ofNat 1] .topLevel (.cls (.ofNat 1))
        (.typeVar (.ofNat 0)) = true := by
    rw [Env.accepts_typeVar (by simp) rfl notRoot, if_neg (by decide),
      Env.bound, declared, Option.getD_some, Env.accepts_cls_parameterized]
    simp [Env.isSubclass]
  obtain ⟨_, fewer, bounds⟩ :=
    Env.stack_only_removes_answers selfBounded.env
  have fromEmpty :=
    fewer (.accepts .topLevel (.cls (.ofNat 1)) (.typeVar (.ofNat 0))) []
      [.ofNat 1] (List.nil_subset _) accepted
  exact ⟨declared, accepted, fromEmpty,
    bounds _ _ _ declared (by simp) notRoot fromEmpty⟩

end Model

end JavaTypes
