import JavaTypes.Subclass

/-!
# Assignability

Whether a value of one type may be assigned to a variable of another.  Type
arguments are invariant unless a wildcard relaxes them: `? extends` is
covariant and `? super` contravariant.  A raw class accepts each of its
parameterizations; the converse, unchecked raw conversion, is a choice of the
environment and never applies inside type arguments.

Arguments are not carried along the class hierarchy: two parameterized types
are compared only when they have the same erasure.

The bound of a type variable may mention the variable itself.  The check
therefore keeps a guard, the variables whose bounds it is expanding, and does
not expand a variable twice on one path.
-/

namespace JavaTypes

/-- Where two types are compared. -/
inductive Position where
  /-- As a whole, below array levels and variable bounds at most. -/
  | topLevel
  /-- As bounds or arguments inside a type argument. -/
  | nested
  deriving DecidableEq, Repr

/-- A type argument, seen through its variance. -/
inductive Argument where
  /-- Stands for itself only. -/
  | exact (type : Ty)
  /-- Stands for the types assignable to the bound. -/
  | upper (bound : Ty)
  /-- Stands for the types that the bound is assignable to. -/
  | lower (bound : Ty)

/-- The type that an argument holds. -/
def Argument.content : Argument → Ty
  | .exact type => type
  | .upper bound => bound
  | .lower bound => bound

namespace Env

/-- A type argument through its variance; `?` reads as `? extends` the root. -/
def argument (env : Env) : Ty → Argument
  | .unbounded => .upper env.rootTy
  | .upperBounded bound => .upper bound
  | .lowerBounded bound => .lower bound
  | type => .exact type

theorem size_content_argument_le (env : Env) (type : Ty) :
    (env.argument type).content.size ≤ type.size := by
  cases type <;> simp [argument, Argument.content, Ty.size, rootTy]

set_option linter.unusedVariables false in
mutual

/-- Whether `target` accepts `source`, with the variables of `guard` not to be
expanded again. -/
def accepts (env : Env) (guard : List TypeVarId) (position : Position)
    (target source : Ty) : Bool :=
  if target = source then true
  else if target.isWildcard || source.isWildcard then false
  else if target.isPrimitive || source.isPrimitive then false
  else if target = env.rootTy then true
  else
    match target, source with
    | target, .typeVar var =>
        if var ∈ guard then false
        else accepts env (var :: guard) position target (env.bound var)
    | .array element, .array element' =>
        accepts env guard position element element'
    | .cls sup, .cls sub => env.isSubclass sub sup
    | .cls sup, .parameterized sub _ => env.isSubclass sub sup
    | .parameterized erasure _, .cls id =>
        position = .topLevel && env.uncheckedRaw && erasure = id
    | .parameterized erasure args, .parameterized erasure' args' =>
        erasure = erasure' && acceptsArgs env guard args args'
    | _, _ => false
  termination_by (TypeVarId.unused guard, target.size + source.size, 0)
  decreasing_by
    · apply Prod.Lex.left
      exact TypeVarId.unused_cons_lt (by assumption)
    · apply Prod.Lex.right
      apply Prod.Lex.left
      simp only [Ty.size]
      omega
    · apply Prod.Lex.right
      apply Prod.Lex.left
      simp only [Ty.size]
      omega

/-- Whether each argument of one list contains its counterpart in the other;
lists of different lengths never match. -/
def acceptsArgs (env : Env) (guard : List TypeVarId)
    (targets sources : List Ty) : Bool :=
  match targets, sources with
  | [], [] => true
  | target :: targets, source :: sources =>
      contains env guard target source && acceptsArgs env guard targets sources
  | _, _ => false
  termination_by
    (TypeVarId.unused guard, Ty.sizeList targets + Ty.sizeList sources, 2)
  decreasing_by
    · apply Prod.Lex.right
      simp only [Ty.sizeList]
      rcases Nat.lt_or_eq_of_le
          (show target.size + source.size ≤
            target.size + Ty.sizeList targets +
              (source.size + Ty.sizeList sources) by omega) with less | same
      · exact Prod.Lex.left _ _ less
      · rw [same]
        exact Prod.Lex.right _ (by omega)
    · apply Prod.Lex.right
      apply Prod.Lex.left
      simp only [Ty.sizeList]
      have := target.size_pos
      omega

/-- Containment of one type argument in another.  Opposite variances meet only
when both bounds are the root. -/
def contains (env : Env) (guard : List TypeVarId) (target source : Ty) : Bool :=
  match targetView : env.argument target, sourceView : env.argument source with
  | .exact type, .exact type' => type = type'
  | .exact _, _ => false
  | .upper bound, .exact type => accepts env guard .nested bound type
  | .upper bound, .upper bound' => accepts env guard .nested bound bound'
  | .lower bound, .exact type => accepts env guard .nested type bound
  | .lower bound, .lower bound' => accepts env guard .nested bound' bound
  | .upper bound, .lower bound' => bound = env.rootTy && bound' = env.rootTy
  | .lower bound, .upper bound' => bound = env.rootTy && bound' = env.rootTy
  termination_by (TypeVarId.unused guard, target.size + source.size, 1)
  decreasing_by
    all_goals
      have targetSize := env.size_content_argument_le target
      have sourceSize := env.size_content_argument_le source
      simp only [targetView, sourceView, Argument.content] at targetSize sourceSize
      apply Prod.Lex.right
      apply Prod.lex_def.mpr
      simp only
      omega

end

/-- Whether a value of type `source` may be assigned to a variable of type
`target`. -/
def isAssignable (env : Env) (target source : Ty) : Bool :=
  env.accepts [] .topLevel target source

end Env

end JavaTypes
