import JavaTypes.Env
import JavaTypes.Unused

/-!
# Erasure

Erasure drops type arguments and replaces a type variable by the erasure of its
bound.  A variable without a bound, a variable met again while its own bound is
being erased, and a wildcard without an upper bound all become the root.
-/

namespace JavaTypes

namespace Env

/-- Erasure with the variables of `guard` taken for the root. -/
def erase (env : Env) (guard : List TypeVarId) (type : Ty) : Ty :=
  match type with
  | .typeVar var =>
      if var ∈ guard then env.rootTy
      else
        match env.declaredBound? var with
        | some bound => erase env (var :: guard) bound
        | none => env.rootTy
  | .array element => .array (erase env guard element)
  | .upperBounded bound => erase env guard bound
  | .unbounded => env.rootTy
  | .lowerBounded _ => env.rootTy
  | type => type.dropArgs
  termination_by (TypeVarId.unused guard, type.size)
  decreasing_by
    · apply Prod.Lex.left
      exact TypeVarId.unused_cons_lt (by assumption)
    · apply Prod.Lex.right
      simp [Ty.size]
    · apply Prod.Lex.right
      simp [Ty.size]

/-- The type a type has at run time: classes, primitives and arrays only. -/
def erasure (env : Env) (type : Ty) : Ty :=
  env.erase [] type

end Env

end JavaTypes
