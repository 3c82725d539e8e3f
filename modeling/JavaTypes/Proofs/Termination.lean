import JavaTypes.Assignable
import Mathlib.Data.Fintype.Powerset
import Mathlib.Order.CompletePartialOrder

/-!
# The recursion of the check ends

One activation of the check is written as a tree of the calls it makes, each
followed by what is done with its answer.  Which calls are made and which
equations the check obeys are both read off this tree.

A call that expands a declared variable uses that variable up.  Every other call
is about smaller types, where `?` counts as `? extends` the root.  The only
exception is a variable without a bound: the root stands in for the bound, and
no call is made about the root as a source.

So the calls are well founded, whatever cycles bounds and classes have, and the
equations of the check have one solution.
-/

namespace JavaTypes

/-! ## Sizes -/

mutual

/-- The number of nodes of a type as the check reads it: `?` counts as
`? extends` the root, and each cell of an argument list counts too. -/
def Ty.extent : Ty → Nat
  | .array element => extent element + 1
  | .parameterized _ args => extentList args + 1
  | .unbounded => 2
  | .upperBounded bound => extent bound + 1
  | .lowerBounded bound => extent bound + 1
  | _ => 1

def Ty.extentList : List Ty → Nat
  | [] => 0
  | head :: tail => extent head + extentList tail + 1

end

/-! ## Calls -/

/-- A call of one of the three functions of the check. -/
inductive Call where
  | accepts (guard : List TypeVarId) (position : Position) (target source : Ty)
  | acceptsArgs (guard : List TypeVarId) (targets sources : List Ty)
  | contains (guard : List TypeVarId) (target source : Ty)

namespace Call

/-- The variables under expansion when the call is made. -/
def guard : Call → List TypeVarId
  | .accepts guard _ _ _ => guard
  | .acceptsArgs guard _ _ => guard
  | .contains guard _ _ => guard

def extent : Call → Nat
  | .accepts _ _ target source => target.extent + source.extent
  | .acceptsArgs _ targets sources =>
      Ty.extentList targets + Ty.extentList sources
  | .contains _ target source => target.extent + source.extent

end Call

/-- An activation: an answer, or a call and what follows for each of its two
answers. -/
inductive Activation where
  | done (answer : Bool)
  | call (next : Call) (resume : Bool → Activation)

namespace Activation

/-- The outcome when the calls are answered by a function. -/
def run (answer : Call → Bool) : Activation → Bool
  | .done result => result
  | .call next resume => run answer (resume (answer next))

/-- A call that the activation makes, whatever its earlier calls answered. -/
def Makes : Activation → Call → Prop
  | .done _, _ => False
  | .call next resume, other =>
      other = next ∨ ∃ answer, Makes (resume answer) other

@[simp]
theorem makes_done (answer : Bool) (call : Call) :
    ¬ (done answer).Makes call :=
  id

@[simp]
private theorem makes_call_done (next call : Call) :
    (Activation.call next .done).Makes call ↔ call = next := by
  simp [Makes]

/-- The outcome depends only on the answers to the calls that are made. -/
private theorem run_congr
    {activation : Activation} {answer answer' : Call → Bool}
    (same : ∀ call, activation.Makes call → answer call = answer' call) :
    activation.run answer = activation.run answer' := by
  induction activation with
  | done result => rfl
  | call next resume inductionHypothesis =>
      have sameNext : answer next = answer' next := same next (Or.inl rfl)
      rw [run, run, sameNext]
      apply inductionHypothesis
      intro call made
      exact same call (Or.inr ⟨answer' next, made⟩)

end Activation

namespace Env

/-- What a comparison of two types does. -/
def acceptsActivation (env : Env) (guard : List TypeVarId)
    (position : Position) (target source : Ty) : Activation :=
  if target = source then .done true
  else if target.isWildcard || source.isWildcard then .done false
  else if target.isPrimitive || source.isPrimitive then .done false
  else if target = env.rootTy then .done true
  else
    match target, source with
    | target, .typeVar var =>
        if var ∈ guard then .done false
        else
          .call (.accepts (var :: guard) position target (env.bound var)) .done
    | .array element, .array element' =>
        .call (.accepts guard position element element') .done
    | .cls sup, .cls sub => .done (env.isSubclass sub sup)
    | .cls sup, .parameterized sub _ => .done (env.isSubclass sub sup)
    | .parameterized erasure _, .cls id =>
        .done (position = .topLevel && env.uncheckedRaw && erasure = id)
    | .parameterized erasure args, .parameterized erasure' args' =>
        if erasure = erasure' then .call (.acceptsArgs guard args args') .done
        else .done false
    | _, _ => .done false

/-- What a comparison of two argument lists does: the rest of the lists is
compared only after their heads match. -/
def acceptsArgsActivation (guard : List TypeVarId) :
    List Ty → List Ty → Activation
  | [], [] => .done true
  | target :: targets, source :: sources =>
      .call (.contains guard target source) fun contained =>
        if contained then .call (.acceptsArgs guard targets sources) .done
        else .done false
  | _, _ => .done false

/-- What a comparison of two type arguments does, seen through their variance;
a lower bound turns the question around. -/
def containsActivation (env : Env) (guard : List TypeVarId) :
    Argument → Argument → Activation
  | .exact type, .exact type' => .done (type = type')
  | .exact _, _ => .done false
  | .upper bound, .exact type => .call (.accepts guard .nested bound type) .done
  | .upper bound, .upper bound' =>
      .call (.accepts guard .nested bound bound') .done
  | .lower bound, .exact type => .call (.accepts guard .nested type bound) .done
  | .lower bound, .lower bound' =>
      .call (.accepts guard .nested bound' bound) .done
  | .upper bound, .lower bound' =>
      .done (bound = env.rootTy && bound' = env.rootTy)
  | .lower bound, .upper bound' =>
      .done (bound = env.rootTy && bound' = env.rootTy)

/-- What the functions of the check do when they are called. -/
def activation (env : Env) : Call → Activation
  | .accepts guard position target source =>
      env.acceptsActivation guard position target source
  | .acceptsArgs guard targets sources =>
      acceptsArgsActivation guard targets sources
  | .contains guard target source =>
      env.containsActivation guard (env.argument target) (env.argument source)

/-- The second call may be made while the first is answered. -/
def Calls (env : Env) (call next : Call) : Prop :=
  (env.activation call).Makes next

def answer (env : Env) : Call → Bool
  | .accepts guard position target source =>
      env.accepts guard position target source
  | .acceptsArgs guard targets sources => env.acceptsArgs guard targets sources
  | .contains guard target source => env.contains guard target source

/-- The declared variables that are not under expansion. -/
def waiting (env : Env) (guard : List TypeVarId) : Set TypeVarId :=
  {var | (env.typeVarDef? var).isSome = true ∧ var ∉ guard}

/-! ## The equations of the check -/

theorem accepts_eq_run (env : Env) (guard : List TypeVarId)
    (position : Position) (target source : Ty) :
    env.accepts guard position target source =
      (env.acceptsActivation guard position target source).run env.answer := by
  rw [accepts.eq_def, acceptsActivation.eq_def]
  split
  · rfl
  split
  · rfl
  split
  · rfl
  split
  · rfl
  split
  · rename_i var _ _ _
    by_cases guarded : var ∈ guard
    · simp [guarded, Activation.run]
    · simp [guarded, Activation.run, answer]
  · rfl
  · rfl
  · rfl
  · rfl
  · rename_i erasure args erasure' args' _ _ _ _
    by_cases same : erasure = erasure'
    · simp [same, Activation.run, answer]
    · simp [same, Activation.run]
  · simp_all [Activation.run]

theorem acceptsArgs_eq_run (env : Env) (guard : List TypeVarId)
    (targets sources : List Ty) :
    env.acceptsArgs guard targets sources =
      (acceptsArgsActivation guard targets sources).run env.answer := by
  rw [acceptsArgs.eq_def]
  cases targets with
  | nil => cases sources <;> rfl
  | cons target targets =>
      cases sources with
      | nil => rfl
      | cons source sources =>
          cases contained : env.contains guard target source <;>
            simp [acceptsArgsActivation, Activation.run, answer, contained]

theorem contains_eq_run (env : Env) (guard : List TypeVarId)
    (target source : Ty) :
    env.contains guard target source =
      (env.containsActivation guard (env.argument target)
        (env.argument source)).run env.answer := by
  rw [contains.eq_def]
  cases env.argument target <;> cases env.argument source <;> rfl

theorem answer_eq_run (env : Env) (call : Call) :
    env.answer call = (env.activation call).run env.answer := by
  cases call with
  | accepts guard position target source =>
      exact env.accepts_eq_run guard position target source
  | acceptsArgs guard targets sources =>
      exact env.acceptsArgs_eq_run guard targets sources
  | contains guard target source =>
      exact env.contains_eq_run guard target source

/-! ## The calls of each function -/

theorem calls_accepts
    {env : Env} {guard : List TypeVarId} {position : Position}
    {target source : Ty} {next : Call}
    (made : env.Calls (.accepts guard position target source) next) :
    (∃ var, source = .typeVar var ∧ var ∉ guard ∧
      next = .accepts (var :: guard) position target (env.bound var)) ∨
    (∃ element element', target = .array element ∧ source = .array element' ∧
      next = .accepts guard position element element') ∨
    (∃ erasure args args', target = .parameterized erasure args ∧
      source = .parameterized erasure args' ∧
        next = .acceptsArgs guard args args') := by
  -- Of all the arms only the three of the statement make a call.
  simp only [Calls, activation, acceptsActivation] at made
  split at made
  · cases made
  split at made
  · cases made
  split at made
  · cases made
  split at made
  · cases made
  split at made
  · split at made
    · cases made
    · rename_i var _ _ _ fresh
      have expands := (Activation.makes_call_done _ _).mp made
      exact Or.inl ⟨var, rfl, fresh, expands⟩
  · have elements := (Activation.makes_call_done _ _).mp made
    exact Or.inr (Or.inl ⟨_, _, rfl, rfl, elements⟩)
  · cases made
  · cases made
  · cases made
  · split at made
    · rename_i same
      subst same
      have arguments := (Activation.makes_call_done _ _).mp made
      exact Or.inr (Or.inr ⟨_, _, _, rfl, rfl, arguments⟩)
    · cases made
  · cases made

theorem calls_acceptsArgs
    {env : Env} {guard : List TypeVarId} {targets sources : List Ty}
    {next : Call}
    (made : env.Calls (.acceptsArgs guard targets sources) next) :
    ∃ target restTargets source restSources,
      targets = target :: restTargets ∧ sources = source :: restSources ∧
        (next = .contains guard target source ∨
          next = .acceptsArgs guard restTargets restSources) := by
  cases targets with
  | nil => cases sources <;> cases made
  | cons target targets =>
      cases sources with
      | nil => cases made
      | cons source sources =>
          refine ⟨target, targets, source, sources, rfl, rfl, ?_⟩
          rcases made with first | ⟨contained, later⟩
          · exact Or.inl first
          · cases contained with
            | false => cases later
            | true =>
                rcases later with second | ⟨_, nothing⟩
                · exact Or.inr second
                · cases nothing

private theorem extent_content_argument_le (env : Env) (type : Ty) :
    (env.argument type).content.extent ≤ type.extent := by
  cases type <;> simp [argument, Argument.content, Ty.extent, rootTy]

/-- What a wildcard holds is smaller than the wildcard. -/
private theorem extent_content_argument_lt
    {env : Env} {type : Ty}
    (wildcard : ∀ inner, env.argument type ≠ .exact inner) :
    (env.argument type).content.extent < type.extent := by
  cases type <;> simp_all [argument, Argument.content, Ty.extent, rootTy]

/-- Only a wildcard as the target leads to a call, which is about the two
contents in one of the two directions. -/
private theorem makes_containsActivation
    {env : Env} {guard : List TypeVarId} {target source : Argument}
    {next : Call}
    (made : (env.containsActivation guard target source).Makes next) :
    (∀ inner, target ≠ .exact inner) ∧
      (next = .accepts guard .nested target.content source.content ∨
        next = .accepts guard .nested source.content target.content) := by
  cases target <;> cases source <;>
    simp_all [containsActivation, Argument.content]

theorem calls_contains
    {env : Env} {guard : List TypeVarId} {target source : Ty} {next : Call}
    (made : env.Calls (.contains guard target source) next) :
    ∃ first second, next = .accepts guard .nested first second ∧
      first.extent + second.extent < target.extent + source.extent := by
  obtain ⟨wildcard, forward | backward⟩ := makes_containsActivation made
  all_goals
    have targetSize := extent_content_argument_lt wildcard
    have sourceSize := env.extent_content_argument_le source
  · exact ⟨_, _, forward, by omega⟩
  · exact ⟨_, _, backward, by omega⟩

/-! ## Descent -/

/-- The second call has fewer declared variables left, or the same and less to
compare. -/
def Descends (env : Env) (call next : Call) : Prop :=
  env.waiting next.guard ⊂ env.waiting call.guard ∨
    env.waiting next.guard = env.waiting call.guard ∧ next.extent < call.extent

/-- The first call expands a variable without a bound.  The second compares with
the root in its place, and makes no call itself. -/
def EndsAtRoot (env : Env) (call next : Call) : Prop :=
  ∃ guard position target var,
    call = .accepts guard position target (.typeVar var) ∧
      env.declaredBound? var = none ∧
        next = .accepts (var :: guard) position target env.rootTy ∧
          ∀ later, ¬ env.Calls next later

private theorem waiting_cons_ssubset
    {env : Env} {guard : List TypeVarId} {var : TypeVarId}
    (declared : (env.typeVarDef? var).isSome = true) (fresh : var ∉ guard) :
    env.waiting (var :: guard) ⊂ env.waiting guard := by
  refine ⟨?_, ?_⟩
  · rintro other ⟨known, notMet⟩
    exact ⟨known, fun guarded => notMet (List.mem_cons_of_mem var guarded)⟩
  · intro subset
    have stillWaiting : var ∈ env.waiting (var :: guard) :=
      subset ⟨declared, fresh⟩
    exact stillWaiting.2 List.mem_cons_self

private theorem not_calls_rootTy
    (env : Env) (guard : List TypeVarId) (position : Position) (target : Ty)
    (later : Call) :
    ¬ env.Calls (.accepts guard position target env.rootTy) later := by
  intro made
  rcases calls_accepts made with
    ⟨_, source, _⟩ | ⟨_, _, _, source, _⟩ | ⟨_, _, _, _, source, _⟩ <;>
    cases source

theorem descends_or_endsAtRoot
    {env : Env} {call next : Call} (made : env.Calls call next) :
    env.Descends call next ∨ env.EndsAtRoot call next := by
  cases call with
  | accepts guard position target source =>
      rcases calls_accepts made with
        ⟨var, rfl, fresh, rfl⟩ | ⟨element, element', rfl, rfl, rfl⟩ |
          ⟨erasure, args, args', rfl, rfl, rfl⟩
      · cases bounded : env.declaredBound? var with
        | none =>
            have boundEq : env.bound var = env.rootTy := by
              simp [bound, bounded]
            rw [boundEq]
            exact Or.inr ⟨guard, position, target, var, rfl, bounded, rfl,
              env.not_calls_rootTy _ _ _⟩
        | some bound =>
            obtain ⟨definition, declared, _⟩ :=
              Option.bind_eq_some_iff.mp bounded
            have shrinks : env.waiting (var :: guard) ⊂ env.waiting guard :=
              waiting_cons_ssubset (by simp [declared]) fresh
            exact Or.inl (Or.inl shrinks)
      -- In all other cases the guard stays, and parts of the types are compared.
      · refine Or.inl (Or.inr ⟨rfl, ?_⟩)
        simp only [Call.extent, Ty.extent]
        omega
      · refine Or.inl (Or.inr ⟨rfl, ?_⟩)
        simp only [Call.extent, Ty.extent]
        omega
  | acceptsArgs guard targets sources =>
      obtain ⟨target, targets, source, sources, rfl, rfl, rfl | rfl⟩ :=
        calls_acceptsArgs made
      all_goals
        refine Or.inl (Or.inr ⟨rfl, ?_⟩)
        simp only [Call.extent, Ty.extentList]
        omega
  | contains guard target source =>
      obtain ⟨first, second, rfl, smaller⟩ := calls_contains made
      exact Or.inl (Or.inr ⟨rfl, smaller⟩)

private theorem finite_typeVarId : Finite TypeVarId := by
  have bounded (var : TypeVarId) : var.toNat < UInt32.size := var.toNat_lt
  refine Finite.of_injective
    (fun var : TypeVarId => (⟨var.toNat, bounded var⟩ : Fin UInt32.size)) ?_
  intro first second same
  exact TypeVarId.toNat_inj.mp (Fin.mk.inj same)

theorem wellFounded_calls (env : Env) :
    WellFounded fun next call => env.Calls call next := by
  -- There are finitely many ids, so sets of variables cannot shrink forever.
  have finite := finite_typeVarId
  have lexWellFounded :
      WellFounded (InvImage
        (Prod.Lex (fun first second : Set TypeVarId => first ⊂ second)
          (fun first second : Nat => first < second))
        fun call : Call => (env.waiting call.guard, call.extent)) :=
    InvImage.wf _ (WellFounded.prod_lex wellFounded_lt wellFounded_lt)
  refine ⟨fun call => ?_⟩
  induction call using lexWellFounded.induction with
  | h call inductionHypothesis =>
      refine ⟨call, fun next made => ?_⟩
      rcases descends_or_endsAtRoot made with
        (shrinks | ⟨same, smaller⟩) | ⟨_, _, _, _, _, _, _, noCalls⟩
      · exact inductionHypothesis next (Prod.Lex.left _ _ shrinks)
      · apply inductionHypothesis next
        simp only [InvImage, same]
        exact Prod.Lex.right _ smaller
      · exact ⟨next, fun later made' => absurd made' (noCalls later)⟩

/-- Every call of the check uses up a declared variable or compares less, or is
the last one, about the root in place of a missing bound.  So the recursion is
well founded, and its equations determine the answers: the check is their only
solution. -/
theorem recursion_wellFounded (env : Env) :
    (∀ call next, env.Calls call next →
      env.Descends call next ∨ env.EndsAtRoot call next) ∧
    (WellFounded fun next call => env.Calls call next) ∧
    ∀ solution : Call → Bool,
      (∀ call, solution call = (env.activation call).run solution) ↔
        solution = env.answer := by
  refine ⟨fun _ _ => descends_or_endsAtRoot, env.wellFounded_calls,
    fun solution => ⟨?_, ?_⟩⟩
  · intro solves
    funext call
    induction call using env.wellFounded_calls.induction with
    | h call inductionHypothesis =>
        rw [solves call, env.answer_eq_run call]
        exact Activation.run_congr inductionHypothesis
  · rintro rfl
    exact env.answer_eq_run

end Env

end JavaTypes
