import JavaTypes.Proofs.RawConversion

/-!
# Unbounded wildcards, spelled out

The argument `?` stands for the same types as `? extends` the root.  Spelling it
out changes the type as a piece of syntax, and the check compares types for
equality in several places.  Still no answer changes, on either side of the
check: the answer depends on the two types only through what they are spelled
out to.

Arguments that are no wildcards have to be equal to contain one another, so they
are left as they are, and so is a wildcard that is not an argument.
-/

namespace JavaTypes

namespace Env

mutual

/-- The type with its unbounded wildcard arguments written as `? extends` the
root, below array levels and in the bounds of wildcard arguments too. -/
def spellOut (env : Env) : Ty → Ty
  | .array element => .array (spellOut env element)
  | .parameterized erasure args => .parameterized erasure (spellOutArgs env args)
  | type => type

/-- A type argument, spelled out. -/
def spellOutArg (env : Env) : Ty → Ty
  | .unbounded => .upperBounded env.rootTy
  | .upperBounded bound => .upperBounded (spellOut env bound)
  | .lowerBounded bound => .lowerBounded (spellOut env bound)
  | type => type

/-- An argument list, spelled out. -/
def spellOutArgs (env : Env) : List Ty → List Ty
  | [] => []
  | head :: tail => spellOutArg env head :: spellOutArgs env tail

end

mutual

theorem spellOut_spellOut (env : Env) :
    (type : Ty) → env.spellOut (env.spellOut type) = env.spellOut type
  | .array element => by simp [spellOut, spellOut_spellOut env element]
  | .parameterized erasure args => by
      simp [spellOut, spellOutArgs_spellOutArgs env args]
  | .primitive _ | .cls _ | .typeVar _ => rfl
  | .unbounded | .upperBounded _ | .lowerBounded _ => rfl

theorem spellOutArg_spellOutArg (env : Env) :
    (arg : Ty) → env.spellOutArg (env.spellOutArg arg) = env.spellOutArg arg
  | .unbounded => rfl
  | .upperBounded bound => by
      simp [spellOutArg, spellOut_spellOut env bound]
  | .lowerBounded bound => by
      simp [spellOutArg, spellOut_spellOut env bound]
  | .primitive _ | .cls _ | .typeVar _ | .array _ | .parameterized _ _ => rfl

theorem spellOutArgs_spellOutArgs (env : Env) :
    (args : List Ty) →
      env.spellOutArgs (env.spellOutArgs args) = env.spellOutArgs args
  | [] => rfl
  | head :: tail => by
      simp [spellOutArgs, spellOutArg_spellOutArg env head,
        spellOutArgs_spellOutArgs env tail]

end

/-! ## Types that are spelled out the same -/

section

variable {env : Env}

private theorem exists_array_of_spellOut
    {element other : Ty}
    (same : env.spellOut (.array element) = env.spellOut other) :
    ∃ element', other = .array element' ∧
      env.spellOut element = env.spellOut element' := by
  cases other with
  | array element' => exact ⟨element', rfl, by simpa [spellOut] using same⟩
  | _ => simp [spellOut] at same

private theorem exists_parameterized_of_spellOut
    {erasure : ClassId} {args : List Ty} {other : Ty}
    (same : env.spellOut (.parameterized erasure args) = env.spellOut other) :
    ∃ args', other = .parameterized erasure args' ∧
      env.spellOutArgs args = env.spellOutArgs args' := by
  cases other with
  | parameterized erasure' args' =>
      simp only [spellOut, Ty.parameterized.injEq] at same
      obtain ⟨rfl, sameArgs⟩ := same
      exact ⟨args', rfl, sameArgs⟩
  | _ => simp [spellOut] at same

private theorem eq_of_spellOut
    {type other : Ty} (simple : type.isComposite = false)
    (same : env.spellOut type = env.spellOut other) : other = type := by
  cases type <;> cases other <;> simp_all [Ty.isComposite, spellOut]

private theorem eq_rootTy_iff_of_spellOut
    {bound bound' : Ty} (same : env.spellOut bound = env.spellOut bound') :
    bound = env.rootTy ↔ bound' = env.rootTy := by
  have isRoot (type : Ty) :
      type = env.rootTy ↔ env.spellOut type = env.rootTy := by
    cases type <;> simp [spellOut, rootTy]
  rw [isRoot bound, isRoot bound', same]

end

end Env

/-! ## Arguments -/

namespace Argument

/-- An argument seen through its variance, with its bound spelled out. -/
def spellOut (env : Env) : Argument → Argument
  | .exact type => .exact type
  | .upper bound => .upper (env.spellOut bound)
  | .lower bound => .lower (env.spellOut bound)

/-- The arguments have the same variance and are spelled out the same. -/
inductive Alike (env : Env) : Argument → Argument → Prop where
  | exact (type : Ty) : Alike env (.exact type) (.exact type)
  | upper {bound bound' : Ty} (same : env.spellOut bound = env.spellOut bound') :
      Alike env (.upper bound) (.upper bound')
  | lower {bound bound' : Ty} (same : env.spellOut bound = env.spellOut bound') :
      Alike env (.lower bound) (.lower bound')

private theorem alike_of_spellOut
    {env : Env} {first second : Argument}
    (same : first.spellOut env = second.spellOut env) :
    Alike env first second := by
  cases first with
  | exact type =>
      cases second with
      | exact type' =>
          have sameType : type = type' := by simpa [spellOut] using same
          exact sameType ▸ .exact type
      | _ => simp [spellOut] at same
  | upper bound =>
      cases second with
      | upper bound' => exact .upper (by simpa [spellOut] using same)
      | _ => simp [spellOut] at same
  | lower bound =>
      cases second with
      | lower bound' => exact .lower (by simpa [spellOut] using same)
      | _ => simp [spellOut] at same

/-- Containment compares the contents of two arguments by a relation, or both
with the root. -/
theorem Alike.contains_iff
    {env : Env} {relation : Ty → Ty → Prop}
    {target target' source source' : Argument}
    (sameTarget : Alike env target target')
    (sameSource : Alike env source source')
    (forward : ∀ first second,
      env.spellOut target.content = env.spellOut first →
      env.spellOut source.content = env.spellOut second →
        (relation target.content source.content ↔ relation first second))
    (backward : ∀ first second,
      env.spellOut target.content = env.spellOut first →
      env.spellOut source.content = env.spellOut second →
        (relation source.content target.content ↔ relation second first)) :
    target.Contains env.rootTy relation source ↔
      target'.Contains env.rootTy relation source' := by
  cases sameTarget with
  | exact type => cases sameSource <;> exact Iff.rfl
  | upper same =>
      cases sameSource with
      | exact type => exact forward _ _ same rfl
      | upper same' => exact forward _ _ same same'
      | lower same' =>
          exact and_congr (Env.eq_rootTy_iff_of_spellOut same)
            (Env.eq_rootTy_iff_of_spellOut same')
  | lower same =>
      cases sameSource with
      | exact type => exact backward _ _ same rfl
      | upper same' =>
          exact and_congr (Env.eq_rootTy_iff_of_spellOut same)
            (Env.eq_rootTy_iff_of_spellOut same')
      | lower same' => exact backward _ _ same same'

end Argument

namespace Env

private theorem argument_spellOutArg (env : Env) (arg : Ty) :
    env.argument (env.spellOutArg arg) = (env.argument arg).spellOut env := by
  cases arg <;> rfl

private theorem alike_argument
    {env : Env} {arg arg' : Ty}
    (same : env.spellOutArg arg = env.spellOutArg arg') :
    Argument.Alike env (env.argument arg) (env.argument arg') := by
  apply Argument.alike_of_spellOut
  rw [← argument_spellOutArg, same, argument_spellOutArg]

/-- The question is answered like every other one whose types are spelled out
the same. -/
def AnsweredAlike (env : Env) (guard : List TypeVarId) (position : Position)
    (target source : Ty) : Prop :=
  ∀ target' source', env.spellOut target = env.spellOut target' →
    env.spellOut source = env.spellOut source' →
      env.accepts guard position target source =
        env.accepts guard position target' source'

/-- What stands inside two arguments is compared alike, in both directions. -/
def ContentsAlike (env : Env) (guard : List TypeVarId) (first second : Ty) :
    Prop :=
  env.AnsweredAlike guard .nested (env.argument first).content
      (env.argument second).content ∧
    env.AnsweredAlike guard .nested (env.argument second).content
      (env.argument first).content

private theorem contains_of_spellOutArg
    {env : Env} {guard : List TypeVarId} {first second first' second' : Ty}
    (sameFirst : env.spellOutArg first = env.spellOutArg first')
    (sameSecond : env.spellOutArg second = env.spellOutArg second')
    (contents : env.ContentsAlike guard first second) :
    env.contains guard first second = env.contains guard first' second' := by
  obtain ⟨forward, backward⟩ := contents
  rw [Bool.eq_iff_iff, contains_eq_true_iff, contains_eq_true_iff]
  apply (alike_argument sameFirst).contains_iff (alike_argument sameSecond)
  · intro target source sameTarget sameSource
    rw [forward target source sameTarget sameSource]
  · intro target source sameTarget sameSource
    rw [backward source target sameSource sameTarget]

private theorem acceptsArgs_of_spellOutArgs
    {env : Env} {guard : List TypeVarId} {args args' others others' : List Ty}
    (sameArgs : env.spellOutArgs args = env.spellOutArgs others)
    (sameArgs' : env.spellOutArgs args' = env.spellOutArgs others')
    (contents : ∀ first ∈ args, ∀ second ∈ args',
      env.ContentsAlike guard first second) :
    env.acceptsArgs guard args args' = env.acceptsArgs guard others others' := by
  induction args generalizing args' others others' with
  | nil =>
      cases others with
      | cons other others => simp [spellOutArgs] at sameArgs
      | nil =>
          rw [acceptsArgs.eq_def, acceptsArgs.eq_def env guard [] others']
          cases args' <;> cases others' <;> simp_all [spellOutArgs]
  | cons first args inductionHypothesis =>
      cases others with
      | nil => simp [spellOutArgs] at sameArgs
      | cons other others =>
          rw [acceptsArgs.eq_def,
            acceptsArgs.eq_def env guard (other :: others) others']
          cases args' with
          | nil => cases others' <;> simp_all [spellOutArgs]
          | cons second args' =>
              cases others' with
              | nil => simp [spellOutArgs] at sameArgs'
              | cons other' others' =>
                  simp only [spellOutArgs, List.cons.injEq] at sameArgs sameArgs'
                  have here := contains_of_spellOutArg sameArgs.1 sameArgs'.1
                    (contents first List.mem_cons_self second
                      List.mem_cons_self)
                  have later := inductionHypothesis sameArgs.2 sameArgs'.2
                    fun arg member arg' member' =>
                      contents arg (List.mem_cons_of_mem first member) arg'
                        (List.mem_cons_of_mem second member')
                  simp only [here, later]

/-! ## Answers do not change -/

/-- A target that has no parts does not look into the parts of a source. -/
private theorem accepts_simple_target
    {env : Env} {guard : List TypeVarId} {position : Position}
    {target source source' : Ty} (simple : target.isComposite = false)
    (same : env.spellOut source = env.spellOut source') :
    env.accepts guard position target source =
      env.accepts guard position target source' := by
  cases source with
  | array element =>
      obtain ⟨element', rfl, _⟩ := exists_array_of_spellOut same
      by_cases atRoot : target = env.rootTy
      · rw [atRoot, accepts_root env guard position rfl,
          accepts_root env guard position rfl]
      · have notArray (inner : Ty) : target ≠ .array inner := by
          rintro rfl
          cases simple
        rw [accepts_ne_of_array notArray atRoot,
          accepts_ne_of_array notArray atRoot]
  | parameterized erasure args =>
      obtain ⟨args', rfl, _⟩ := exists_parameterized_of_spellOut same
      cases target with
      | cls sup => rw [accepts_cls_parameterized, accepts_cls_parameterized]
      | typeVar var =>
          rw [accepts_of_typeVar (by simp), accepts_of_typeVar (by simp)]
      | primitive kind =>
          rw [accepts_of_isPrimitive (by simp) rfl,
            accepts_of_isPrimitive (by simp) rfl]
      | unbounded | upperBounded bound | lowerBounded bound =>
          rw [accepts_of_isWildcard (by simp) rfl,
            accepts_of_isWildcard (by simp) rfl]
      | _ => cases simple
  | _ => rw [eq_of_spellOut rfl same]

/-- A source that has no parts and no bound does not lead into the parts of a
target. -/
private theorem accepts_simple_source
    {env : Env} {guard : List TypeVarId} {position : Position}
    {target target' source : Ty}
    (same : env.spellOut target = env.spellOut target')
    (simple : source.isComposite = false)
    (notVariable : ∀ var, source ≠ .typeVar var) :
    env.accepts guard position target source =
      env.accepts guard position target' source := by
  cases target with
  | array element =>
      obtain ⟨element', rfl, _⟩ := exists_array_of_spellOut same
      have notArray (inner : Ty) : source ≠ .array inner := by
        rintro rfl
        cases simple
      rw [accepts_array_of_ne notArray notVariable,
        accepts_array_of_ne notArray notVariable]
  | parameterized erasure args =>
      obtain ⟨args', rfl, _⟩ := exists_parameterized_of_spellOut same
      cases source with
      | cls id => rw [accepts_parameterized_cls, accepts_parameterized_cls]
      | typeVar var => exact absurd rfl (notVariable var)
      | primitive kind =>
          rw [accepts_of_isPrimitive (by simp) rfl,
            accepts_of_isPrimitive (by simp) rfl]
      | unbounded | upperBounded bound | lowerBounded bound =>
          rw [accepts_of_isWildcard (by simp) rfl,
            accepts_of_isWildcard (by simp) rfl]
      | _ => cases simple
  | _ => rw [eq_of_spellOut rfl same]

private theorem accepts_composite_typeVar
    {env : Env} {guard : List TypeVarId} {position : Position} {target : Ty}
    (composite : target.isComposite = true) (var : TypeVarId) :
    env.accepts guard position target (.typeVar var) =
      if var ∈ guard then false
      else env.accepts (var :: guard) position target (env.bound var) := by
  cases target with
  | array element => exact accepts_typeVar (by simp) rfl (by simp [rootTy])
  | parameterized erasure args =>
      exact accepts_typeVar (by simp) rfl (by simp [rootTy])
  | _ => cases composite

private theorem isComposite_spellOut (env : Env) (type : Ty) :
    (env.spellOut type).isComposite = type.isComposite := by
  cases type <;> rfl

theorem answeredAlike
    (env : Env) (guard : List TypeVarId) (target source : Ty) :
    ∀ position, env.AnsweredAlike guard position target source := by
  induction guard, target, source using env.accepts_induction with
  | step guard target source ofBound ofElements ofContents =>
      intro position target' source' sameTarget sameSource
      by_cases simple : target.isComposite = false
      · rw [eq_of_spellOut simple sameTarget]
        exact accepts_simple_target simple sameSource
      have composite : target.isComposite = true := by simpa using simple
      have composite' : target'.isComposite = true := by
        rwa [← isComposite_spellOut env, ← sameTarget, isComposite_spellOut]
      cases source with
      | typeVar var =>
          rw [eq_of_spellOut rfl sameSource, accepts_composite_typeVar composite,
            accepts_composite_typeVar composite']
          split
          · rfl
          · rename_i fresh
            exact ofBound var rfl fresh position _ _ sameTarget rfl
      | array second =>
          obtain ⟨second', rfl, sameSecond⟩ := exists_array_of_spellOut sameSource
          cases target with
          | array first =>
              obtain ⟨first', rfl, sameFirst⟩ :=
                exists_array_of_spellOut sameTarget
              rw [accepts_array_array, accepts_array_array]
              exact ofElements first second rfl rfl position _ _ sameFirst
                sameSecond
          | parameterized erasure args =>
              obtain ⟨args', rfl, _⟩ :=
                exists_parameterized_of_spellOut sameTarget
              rw [accepts_ne_of_array (by simp) (by simp [rootTy]),
                accepts_ne_of_array (by simp) (by simp [rootTy])]
          | _ => cases composite
      | parameterized erasure' sources =>
          obtain ⟨sources', rfl, sameSources⟩ :=
            exists_parameterized_of_spellOut sameSource
          cases target with
          | array first =>
              obtain ⟨first', rfl, _⟩ := exists_array_of_spellOut sameTarget
              rw [accepts_array_of_ne (by simp) (by simp),
                accepts_array_of_ne (by simp) (by simp)]
          | parameterized erasure targets =>
              obtain ⟨targets', rfl, sameTargets⟩ :=
                exists_parameterized_of_spellOut sameTarget
              rw [accepts_parameterized_parameterized,
                accepts_parameterized_parameterized,
                acceptsArgs_of_spellOutArgs sameTargets sameSources]
              intro first member second member'
              obtain ⟨forward, backward⟩ :=
                ofContents _ _ _ _ rfl rfl first member second member'
              exact ⟨forward .nested, backward .nested⟩
          | _ => cases composite
      | _ =>
          rw [eq_of_spellOut rfl sameSource]
          exact accepts_simple_source sameTarget rfl (by simp)

/-- An unbounded wildcard may be written as `? extends` the root, or the other
way round, in the target and in the source of an assignment. -/
theorem isAssignable_spellOut (env : Env) (target source : Ty) :
    env.isAssignable (env.spellOut target) source =
        env.isAssignable target source ∧
      env.isAssignable target (env.spellOut source) =
        env.isAssignable target source := by
  have alike := env.answeredAlike [] target source .topLevel
  constructor
  · exact (alike _ _ (env.spellOut_spellOut target).symm rfl).symm
  · exact (alike _ _ rfl (env.spellOut_spellOut source).symm).symm

end Env

end JavaTypes
