import JavaTypes.Assignable.Shapes
import JavaTypes.Proofs.Subclassing
import Mathlib.Data.List.Forall2

/-!
# One step of the acceptance check

`Env.accepts` is a recursive function with a fixed order of rules.  Here its
rules stand as a relation: `Env.AcceptsVia` says what one step of the check can
do, relative to the answers for the smaller questions it asks.  The function does
exactly that: `via_of_accepts` and `accepts_of_via` are the two directions.  Type
arguments have rules of their own, `Env.ContainsArg`, one for each pair of forms.

Two tools follow from it.  `accepts_induction` is induction along the questions
that a check asks, and `Simulation.accepts` carries an accepting check from one
environment and guard to another.
-/

namespace JavaTypes

/-- Containment of one type argument in another, relative to a relation between
bounds.  Opposite variances meet only when both bounds are the root. -/
def Argument.Contains (root : Ty) (relation : Ty → Ty → Prop) :
    Argument → Argument → Prop
  | .exact type, .exact type' => type = type'
  | .exact _, .upper _ => False
  | .exact _, .lower _ => False
  | .upper bound, .exact type => relation bound type
  | .upper bound, .upper bound' => relation bound bound'
  | .lower bound, .exact type => relation type bound
  | .lower bound, .lower bound' => relation bound' bound
  | .upper bound, .lower bound' => bound = root ∧ bound' = root
  | .lower bound, .upper bound' => bound = root ∧ bound' = root

/-- A containment asks its relation about the two contents only, in one of the
two directions. -/
theorem Argument.Contains.mono
    {root : Ty} {relation relation' : Ty → Ty → Prop}
    {target source : Argument}
    (contained : target.Contains root relation source)
    (forward : relation target.content source.content →
      relation' target.content source.content)
    (backward : relation source.content target.content →
      relation' source.content target.content) :
    target.Contains root relation' source := by
  cases target with
  | exact type =>
      cases source with
      | exact type' => exact contained
      | upper bound' => exact contained
      | lower bound' => exact contained
  | upper bound =>
      cases source with
      | exact type' => exact forward contained
      | upper bound' => exact forward contained
      | lower bound' => exact contained
  | lower bound =>
      cases source with
      | exact type' => exact backward contained
      | upper bound' => exact contained
      | lower bound' => exact backward contained

namespace Env

/-! ## Containment of type arguments -/

/-- The argument is bounded from above: it is written so, or it is `?`, whose
bound is the root. -/
def IsUpper (env : Env) (arg bound : Ty) : Prop :=
  arg = .upperBounded bound ∨ arg = .unbounded ∧ bound = env.rootTy

theorem argument_eq_exact_iff {env : Env} {arg type : Ty} :
    env.argument arg = .exact type ↔ arg = type ∧ type.isWildcard = false := by
  cases arg <;> simp [argument, Ty.isWildcard] <;> rintro rfl <;> simp

theorem argument_eq_upper_iff {env : Env} {arg bound : Ty} :
    env.argument arg = .upper bound ↔ env.IsUpper arg bound := by
  cases arg <;> simp [argument, IsUpper, eq_comm]

theorem argument_eq_lower_iff {env : Env} {arg bound : Ty} :
    env.argument arg = .lower bound ↔ arg = .lowerBounded bound := by
  cases arg <;> simp [argument]

/-- Containment of the second argument in the first, relative to a relation
between bounds: one rule for each pair of forms. -/
inductive ContainsArg (env : Env) (relation : Ty → Ty → Prop) :
    Ty → Ty → Prop where
  | exact {type : Ty} (plain : type.isWildcard = false) :
      ContainsArg env relation type type
  | upperExact {arg bound type : Ty} (upper : env.IsUpper arg bound)
      (plain : type.isWildcard = false) (related : relation bound type) :
      ContainsArg env relation arg type
  | upper {arg bound arg' bound' : Ty} (upper : env.IsUpper arg bound)
      (upper' : env.IsUpper arg' bound') (related : relation bound bound') :
      ContainsArg env relation arg arg'
  | lowerExact {bound type : Ty} (plain : type.isWildcard = false)
      (related : relation type bound) :
      ContainsArg env relation (.lowerBounded bound) type
  | lower {bound bound' : Ty} (related : relation bound' bound) :
      ContainsArg env relation (.lowerBounded bound) (.lowerBounded bound')
  | upperLower {arg : Ty} (upper : env.IsUpper arg env.rootTy) :
      ContainsArg env relation arg (.lowerBounded env.rootTy)
  | lowerUpper {arg : Ty} (upper : env.IsUpper arg env.rootTy) :
      ContainsArg env relation (.lowerBounded env.rootTy) arg

private theorem ContainsArg.contains
    {env : Env} {relation : Ty → Ty → Prop} {target source : Ty}
    (contained : env.ContainsArg relation target source) :
    (env.argument target).Contains env.rootTy relation
      (env.argument source) := by
  cases contained with
  | exact plain =>
      rw [argument_eq_exact_iff.mpr ⟨rfl, plain⟩]
      rfl
  | upperExact upper plain related =>
      rw [argument_eq_upper_iff.mpr upper,
        argument_eq_exact_iff.mpr ⟨rfl, plain⟩]
      exact related
  | upper upper upper' related =>
      rw [argument_eq_upper_iff.mpr upper, argument_eq_upper_iff.mpr upper']
      exact related
  | lowerExact plain related =>
      rw [argument_eq_lower_iff.mpr rfl, argument_eq_exact_iff.mpr ⟨rfl, plain⟩]
      exact related
  | lower related => exact related
  | upperLower upper =>
      rw [argument_eq_upper_iff.mpr upper]
      exact ⟨rfl, rfl⟩
  | lowerUpper upper =>
      rw [argument_eq_upper_iff.mpr upper]
      exact ⟨rfl, rfl⟩

private theorem containsArg_of_views
    {env : Env} {relation : Ty → Ty → Prop} {target source : Ty}
    {targetView sourceView : Argument}
    (seenTarget : env.argument target = targetView)
    (seenSource : env.argument source = sourceView)
    (contained : targetView.Contains env.rootTy relation sourceView) :
    env.ContainsArg relation target source := by
  cases targetView with
  | exact type =>
      obtain ⟨rfl, plain⟩ := argument_eq_exact_iff.mp seenTarget
      cases sourceView with
      | exact type' =>
          obtain ⟨rfl, _⟩ := argument_eq_exact_iff.mp seenSource
          cases contained
          exact .exact plain
      | upper bound' => cases contained
      | lower bound' => cases contained
  | upper bound =>
      have upper := argument_eq_upper_iff.mp seenTarget
      cases sourceView with
      | exact type' =>
          obtain ⟨rfl, plain⟩ := argument_eq_exact_iff.mp seenSource
          exact .upperExact upper plain contained
      | upper bound' =>
          exact .upper upper (argument_eq_upper_iff.mp seenSource) contained
      | lower bound' =>
          cases argument_eq_lower_iff.mp seenSource
          obtain ⟨rfl, rfl⟩ := contained
          exact .upperLower upper
  | lower bound =>
      cases argument_eq_lower_iff.mp seenTarget
      cases sourceView with
      | exact type' =>
          obtain ⟨rfl, plain⟩ := argument_eq_exact_iff.mp seenSource
          exact .lowerExact plain contained
      | upper bound' =>
          obtain ⟨rfl, rfl⟩ := contained
          exact .lowerUpper (argument_eq_upper_iff.mp seenSource)
      | lower bound' =>
          cases argument_eq_lower_iff.mp seenSource
          exact .lower contained

/-- The rules compare two arguments as they are seen through their variance. -/
theorem containsArg_iff
    {env : Env} {relation : Ty → Ty → Prop} {target source : Ty} :
    env.ContainsArg relation target source ↔
      (env.argument target).Contains env.rootTy relation
        (env.argument source) :=
  ⟨ContainsArg.contains, containsArg_of_views rfl rfl⟩

/-- Containment of each argument of one list in its counterpart in the other,
relative to a relation between bounds. -/
def ContainsArgs (env : Env) (relation : Ty → Ty → Prop) :
    List Ty → List Ty → Prop :=
  List.Forall₂ (env.ContainsArg relation)

theorem ContainsArgs.mono
    {env : Env} {relation relation' : Ty → Ty → Prop} {args args' : List Ty}
    (contained : env.ContainsArgs relation args args')
    (preserved : ∀ first ∈ args, ∀ second ∈ args',
      (relation (env.argument first).content (env.argument second).content →
        relation' (env.argument first).content (env.argument second).content) ∧
      (relation (env.argument second).content (env.argument first).content →
        relation' (env.argument second).content
          (env.argument first).content)) :
    env.ContainsArgs relation' args args' := by
  obtain ⟨sameLength, pairs⟩ := List.forall₂_iff_zip.mp contained
  refine List.forall₂_iff_zip.mpr ⟨sameLength, ?_⟩
  intro first second paired
  obtain ⟨firstMember, secondMember⟩ := List.of_mem_zip paired
  obtain ⟨forward, backward⟩ :=
    preserved first firstMember second secondMember
  have contents := containsArg_iff.mp (pairs paired)
  exact containsArg_iff.mpr (contents.mono forward backward)

/-! ## The rules of one step -/

/-- Whether a parameterized type accepts its raw class at a position. -/
def convertsRaw (env : Env) (position : Position) : Bool :=
  position = .topLevel && env.uncheckedRaw

/-- The rules of one step of the check.  The parameters answer the questions
that a step may ask: `raw` whether raw conversion applies, `expand` about a
target and the bound of a variable, `element` about the elements of two arrays,
and `inner` about what stands inside two type arguments. -/
inductive AcceptsVia (env : Env) (raw : Prop) (expand : TypeVarId → Ty → Prop)
    (element inner : Ty → Ty → Prop) : Ty → Ty → Prop where
  | same (type : Ty) : AcceptsVia env raw expand element inner type type
  | root {source : Ty} (reference : source.isReference = true) :
      AcceptsVia env raw expand element inner env.rootTy source
  | typeVar {target : Ty} {var : TypeVarId}
      (differs : target ≠ .typeVar var)
      (reference : target.isReference = true)
      (notRoot : target ≠ env.rootTy)
      (expanded : expand var target) :
      AcceptsVia env raw expand element inner target (.typeVar var)
  | array {first second : Ty} (elements : element first second) :
      AcceptsVia env raw expand element inner (.array first) (.array second)
  | cls {sup sub : ClassId} {source : Ty}
      (sourceClass : source.classId? = some sub)
      (subclass : env.isSubclass sub sup = true) :
      AcceptsVia env raw expand element inner (.cls sup) source
  | raw {erasure : ClassId} {args : List Ty} (converts : raw) :
      AcceptsVia env raw expand element inner
        (.parameterized erasure args) (.cls erasure)
  | args {erasure : ClassId} {args args' : List Ty}
      (contained : env.ContainsArgs inner args args') :
      AcceptsVia env raw expand element inner
        (.parameterized erasure args) (.parameterized erasure args')

/-! ## The function follows the rules -/

theorem contains_eq_true_iff (env : Env) (guard : List TypeVarId)
    (target source : Ty) :
    env.contains guard target source = true ↔
      (env.argument target).Contains env.rootTy
        (fun first second => env.accepts guard .nested first second = true)
        (env.argument source) := by
  rw [contains.eq_def]
  cases env.argument target <;> cases env.argument source <;>
    simp [Argument.Contains]

theorem acceptsArgs_eq_true_iff (env : Env) (guard : List TypeVarId)
    (targets sources : List Ty) :
    env.acceptsArgs guard targets sources = true ↔
      env.ContainsArgs
        (fun first second => env.accepts guard .nested first second = true)
        targets sources := by
  induction targets generalizing sources with
  | nil =>
      rw [acceptsArgs.eq_def]
      cases sources <;> simp [ContainsArgs]
  | cons target targets inductionHypothesis =>
      rw [acceptsArgs.eq_def]
      cases sources with
      | nil => simp [ContainsArgs]
      | cons source sources =>
          rw [Bool.and_eq_true, contains_eq_true_iff, inductionHypothesis]
          simp only [ContainsArgs, List.forall₂_cons, containsArg_iff]

/-- What the check asks when it expands a variable. -/
def expands (env : Env) (guard : List TypeVarId) (position : Position)
    (var : TypeVarId) (target : Ty) : Prop :=
  var ∉ guard ∧ env.accepts (var :: guard) position target (env.bound var) = true

theorem via_of_accepts
    {env : Env} {guard : List TypeVarId} {position : Position}
    {target source : Ty}
    (accepted : env.accepts guard position target source = true) :
    env.AcceptsVia (env.convertsRaw position = true)
      (env.expands guard position)
      (fun first second => env.accepts guard position first second = true)
      (fun first second => env.accepts guard .nested first second = true)
      target source := by
  by_cases same : target = source
  · exact same ▸ .same target
  by_cases wildcard : (target.isWildcard || source.isWildcard) = true
  · simp [accepts_of_isWildcard same wildcard] at accepted
  by_cases primitive : (target.isPrimitive || source.isPrimitive) = true
  · simp [accepts_of_isPrimitive same primitive] at accepted
  have targetReference : target.isReference = true := by
    cases target <;>
      simp_all [Ty.isReference, Ty.isWildcard, Ty.isPrimitive]
  have sourceReference : source.isReference = true := by
    cases source <;>
      simp_all [Ty.isReference, Ty.isWildcard, Ty.isPrimitive]
  by_cases atRoot : target = env.rootTy
  · exact atRoot ▸ .root sourceReference
  cases source with
  | typeVar var =>
      rw [accepts_typeVar same targetReference atRoot] at accepted
      refine .typeVar same targetReference atRoot ?_
      by_cases guarded : var ∈ guard
      · simp [guarded] at accepted
      · exact ⟨guarded, by simpa [guarded] using accepted⟩
  | cls sub =>
      cases target with
      | cls sup =>
          rw [accepts_cls_cls] at accepted
          exact .cls rfl accepted
      | array element => simp [accepts_array_of_ne] at accepted
      | typeVar var => simp [accepts_of_typeVar] at accepted
      | parameterized erasure args =>
          rw [accepts_parameterized_cls] at accepted
          simp only [Bool.and_eq_true, decide_eq_true_eq] at accepted
          obtain ⟨converts, rfl⟩ := accepted
          exact .raw (by simp [convertsRaw, converts])
      | _ => simp [Ty.isReference] at targetReference
  | array element' =>
      cases target with
      | array element =>
          rw [accepts_array_array] at accepted
          exact .array accepted
      | _ => simp [accepts_ne_of_array, atRoot] at accepted
  | parameterized erasure' args' =>
      cases target with
      | cls sup =>
          rw [accepts_cls_parameterized] at accepted
          exact .cls rfl accepted
      | array element => simp [accepts_array_of_ne] at accepted
      | typeVar var => simp [accepts_of_typeVar] at accepted
      | parameterized erasure args =>
          rw [accepts_parameterized_parameterized] at accepted
          simp only [Bool.and_eq_true, decide_eq_true_eq,
            acceptsArgs_eq_true_iff] at accepted
          obtain ⟨rfl, contained⟩ := accepted
          exact .args contained
      | _ => simp [Ty.isReference] at targetReference
  | _ => simp [Ty.isReference] at sourceReference

theorem accepts_of_via
    {env : Env} {guard : List TypeVarId} {position : Position}
    {target source : Ty}
    (step : env.AcceptsVia (env.convertsRaw position = true)
      (env.expands guard position)
      (fun first second => env.accepts guard position first second = true)
      (fun first second => env.accepts guard .nested first second = true)
      target source) :
    env.accepts guard position target source = true := by
  cases step with
  | same => exact accepts_self env guard position target
  | root reference => exact accepts_root env guard position reference
  | typeVar differs reference notRoot expanded =>
      rw [accepts_typeVar differs reference notRoot, if_neg expanded.1]
      exact expanded.2
  | array elements =>
      rw [accepts_array_array]
      exact elements
  | cls sourceClass subclass =>
      cases source with
      | cls sub' =>
          cases sourceClass
          rwa [accepts_cls_cls]
      | parameterized erasure args =>
          cases sourceClass
          rwa [accepts_cls_parameterized]
      | _ => cases sourceClass
  | raw converts =>
      rw [accepts_parameterized_cls]
      simpa [convertsRaw] using converts
  | args contained =>
      rw [accepts_parameterized_parameterized]
      simpa [acceptsArgs_eq_true_iff] using contained

/-! ## Induction along the questions of a check -/

/-- Induction along the questions that a check asks: about the bound of a
variable that is not expanded yet, about array elements, and about the contents
of type arguments in both directions. -/
theorem accepts_induction (env : Env)
    {motive : List TypeVarId → Ty → Ty → Prop}
    (step : ∀ guard target source,
      (∀ var, source = .typeVar var → var ∉ guard →
        motive (var :: guard) target (env.bound var)) →
      (∀ first second, target = .array first → source = .array second →
        motive guard first second) →
      (∀ erasure args erasure' args',
        target = .parameterized erasure args →
        source = .parameterized erasure' args' →
        ∀ first ∈ args, ∀ second ∈ args',
          motive guard (env.argument first).content
              (env.argument second).content ∧
            motive guard (env.argument second).content
              (env.argument first).content) →
      motive guard target source)
    (guard : List TypeVarId) (target source : Ty) :
    motive guard target source :=
  step guard target source
    (fun var _ _ =>
      accepts_induction env step (var :: guard) target (env.bound var))
    (fun first second _ _ => accepts_induction env step guard first second)
    (fun _ _ _ _ _ _ first _ second _ =>
      ⟨accepts_induction env step guard (env.argument first).content
          (env.argument second).content,
        accepts_induction env step guard (env.argument second).content
          (env.argument first).content⟩)
  termination_by (TypeVarId.unused guard, target.size + source.size)
  decreasing_by
    · apply Prod.Lex.left
      exact TypeVarId.unused_cons_lt (by assumption)
    · apply Prod.Lex.right
      subst_vars
      simp only [Ty.size]
      omega
    all_goals
      apply Prod.Lex.right
      subst_vars
      have firstSize := env.size_content_argument_le first
      have secondSize := env.size_content_argument_le second
      have firstPart := Ty.size_le_sizeList ‹first ∈ _›
      have secondPart := Ty.size_le_sizeList ‹second ∈ _›
      simp only [Ty.size]
      omega

/-! ## Simulation between environments -/

private theorem argument_congr
    {env other : Env} (sameRoot : env.root = other.root) :
    env.argument = other.argument := by
  funext type
  cases type <;> simp [argument, rootTy, sameRoot]

theorem containsArgs_congr
    {env other : Env} (sameRoot : env.root = other.root)
    (relation : Ty → Ty → Prop) :
    env.ContainsArgs relation = other.ContainsArgs relation := by
  have sameArg : env.ContainsArg relation = other.ContainsArg relation := by
    funext target source
    rw [eq_iff_iff, containsArg_iff, containsArg_iff, argument_congr sameRoot,
      rootTy, sameRoot, rootTy]
  rw [ContainsArgs, sameArg, ContainsArgs]

/-- One step of the check goes over to another environment when the answers to
the questions that it asks go over. -/
private theorem AcceptsVia.transfer
    {env other : Env} {raw raw' : Prop} {expand expand' : TypeVarId → Ty → Prop}
    {element element' inner inner' : Ty → Ty → Prop} {target source : Ty}
    (step : env.AcceptsVia raw expand element inner target source)
    (sameRoot : env.root = other.root)
    (ofRaw : raw → raw')
    (ofSubclass : ∀ sup sub, target = .cls sup → source.classId? = some sub →
      env.isSubclass sub sup = true → other.isSubclass sub sup = true)
    (ofExpand : ∀ var, source = .typeVar var → target ≠ .typeVar var →
      target.isReference = true → target ≠ env.rootTy →
        expand var target → expand' var target)
    (ofElement : ∀ first second, target = .array first →
      source = .array second → element first second → element' first second)
    (ofInner : ∀ erasure args args', target = .parameterized erasure args →
      source = .parameterized erasure args' →
        ∀ first ∈ args, ∀ second ∈ args',
          (inner (env.argument first).content (env.argument second).content →
            inner' (env.argument first).content
              (env.argument second).content) ∧
          (inner (env.argument second).content (env.argument first).content →
            inner' (env.argument second).content
              (env.argument first).content)) :
    other.AcceptsVia raw' expand' element' inner' target source := by
  have sameRootTy : env.rootTy = other.rootTy := by
    simp [rootTy, sameRoot]
  cases step with
  | same => exact .same target
  | root reference => exact sameRootTy ▸ .root reference
  | typeVar differs reference notRoot expanded =>
      exact .typeVar differs reference (sameRootTy ▸ notRoot)
        (ofExpand _ rfl differs reference notRoot expanded)
  | array elements => exact .array (ofElement _ _ rfl rfl elements)
  | cls sourceClass subclass =>
      exact .cls sourceClass (ofSubclass _ _ rfl sourceClass subclass)
  | raw converts => exact .raw (ofRaw converts)
  | args contained =>
      refine .args ?_
      rw [← containsArgs_congr sameRoot]
      exact contained.mono (ofInner _ _ _ rfl rfl)

/-- Two environments answer a question alike when they answer alike the
questions that the check asks next. -/
theorem accepts_congr
    {env other : Env} {guard : List TypeVarId} {position : Position}
    {target source : Ty}
    (sameRoot : env.root = other.root)
    (sameRaw : env.uncheckedRaw = other.uncheckedRaw)
    (sameSubclass : ∀ sup sub, source.classId? = some sub →
      other.isSubclass sub sup = env.isSubclass sub sup)
    (sameExpand : ∀ var, source = .typeVar var →
      (other.expands guard position var target ↔
        env.expands guard position var target))
    (sameElement : ∀ first second, target = .array first →
      source = .array second →
        other.accepts guard position first second =
          env.accepts guard position first second)
    (sameInner : ∀ erasure args args', target = .parameterized erasure args →
      source = .parameterized erasure args' →
        ∀ first ∈ args, ∀ second ∈ args',
          other.accepts guard .nested (env.argument first).content
              (env.argument second).content =
            env.accepts guard .nested (env.argument first).content
              (env.argument second).content ∧
          other.accepts guard .nested (env.argument second).content
              (env.argument first).content =
            env.accepts guard .nested (env.argument second).content
              (env.argument first).content) :
    other.accepts guard position target source =
      env.accepts guard position target source := by
  have sameConversion :
      env.convertsRaw position = other.convertsRaw position := by
    simp [convertsRaw, sameRaw]
  rw [Bool.eq_iff_iff]
  constructor
  · intro accepted
    apply accepts_of_via
    apply (via_of_accepts accepted).transfer sameRoot.symm
      (fun converts => sameConversion ▸ converts)
    · intro sup sub _ shape subclass
      rwa [← sameSubclass sup sub shape]
    · intro var shape _ _ _ expanded
      exact (sameExpand var shape).mp expanded
    · intro first second shape shape' elements
      rwa [← sameElement first second shape shape']
    · intro erasure args args' shape shape' first member second member'
      obtain ⟨forward, backward⟩ :=
        sameInner erasure args args' shape shape' first member second member'
      rw [argument_congr sameRoot.symm, forward, backward]
      exact ⟨fun inner => inner, fun inner => inner⟩
  · intro accepted
    apply accepts_of_via
    apply (via_of_accepts accepted).transfer sameRoot
      (fun converts => sameConversion ▸ converts)
    · intro sup sub _ shape subclass
      rwa [sameSubclass sup sub shape]
    · intro var shape _ _ _ expanded
      exact (sameExpand var shape).mpr expanded
    · intro first second shape shape' elements
      rwa [sameElement first second shape shape']
    · intro erasure args args' shape shape' first member second member'
      obtain ⟨forward, backward⟩ :=
        sameInner erasure args args' shape shape' first member second member'
      rw [forward, backward]
      exact ⟨fun inner => inner, fun inner => inner⟩

/-- A relation between the guards of two environments, for a pair of types, that
every question of an accepting check keeps. -/
structure Simulation (env other : Env)
    (related : List TypeVarId → List TypeVarId → Ty → Ty → Prop) : Prop where
  sameRoot : env.root = other.root
  sameParents : env.parents = other.parents
  element : ∀ {guard guard' first second},
    related guard guard' (.array first) (.array second) →
      related guard guard' first second
  inner : ∀ {guard guard' erasure args erasure' args'},
    related guard guard' (.parameterized erasure args)
        (.parameterized erasure' args') →
      ∀ first ∈ args, ∀ second ∈ args',
        related guard guard' (env.argument first).content
            (env.argument second).content ∧
          related guard guard' (env.argument second).content
            (env.argument first).content
  expand : ∀ {guard guard' position target var},
    related guard guard' target (.typeVar var) →
      target ≠ .typeVar var → target.isReference = true →
      target ≠ env.rootTy → env.expands guard position var target →
        var ∉ guard' ∧ other.bound var = env.bound var ∧
          related (var :: guard) (var :: guard') target (env.bound var)

/-- What one environment accepts, the other accepts too. -/
theorem Simulation.accepts
    {env other : Env}
    {related : List TypeVarId → List TypeVarId → Ty → Ty → Prop}
    (simulation : Simulation env other related)
    (guard : List TypeVarId) (target source : Ty) :
    ∀ {guard' : List TypeVarId} {position position' : Position},
      related guard guard' target source →
      (env.convertsRaw position = true → other.convertsRaw position' = true) →
      env.accepts guard position target source = true →
        other.accepts guard' position' target source = true := by
  induction guard, target, source using env.accepts_induction with
  | step guard target source ofBound ofElements ofContents =>
      intro guard' position position' start rawAllowed accepted
      apply accepts_of_via
      apply (via_of_accepts accepted).transfer simulation.sameRoot rawAllowed
      · intro sup sub _ _ subclass
        rwa [← isSubclass_congr simulation.sameRoot simulation.sameParents]
      · rintro var rfl differs reference notRoot expanded
        obtain ⟨fresh, sameBound, expandedStart⟩ :=
          simulation.expand start differs reference notRoot expanded
        refine ⟨fresh, ?_⟩
        rw [sameBound]
        exact ofBound var rfl expanded.1 expandedStart rawAllowed expanded.2
      · rintro first second rfl rfl elements
        exact ofElements _ _ rfl rfl (simulation.element start) rawAllowed
          elements
      · rintro erasure args args' rfl rfl first member second member'
        obtain ⟨forward, backward⟩ :=
          ofContents _ _ _ _ rfl rfl first member second member'
        obtain ⟨forwardStart, backwardStart⟩ :=
          simulation.inner start first member second member'
        -- Inside arguments raw conversion applies in neither environment.
        have noRaw :
            env.convertsRaw .nested = true →
              other.convertsRaw .nested = true := by
          simp [convertsRaw]
        exact ⟨forward forwardStart noRaw, backward backwardStart noRaw⟩

end Env

end JavaTypes
