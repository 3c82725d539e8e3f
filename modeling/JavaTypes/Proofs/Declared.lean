import JavaTypes.Env
import Mathlib.Logic.Relation

/-!
# What an environment declares

Supertypes and bounds, read off the tables of classes and type variables.  The
checks read the same tables through `Env.parents`, `Env.declaredBound?` and
`Env.bound`; here is what these find there.
-/

namespace JavaTypes

theorem Ty.classId?_eq_some_iff {type : Ty} {id : ClassId} :
    type.classId? = some id ↔
      type = .cls id ∨ ∃ args, type = .parameterized id args := by
  cases type <;> simp [classId?]

namespace Env

/-! ## Supertypes -/

/-- The first class is defined and names the second as its superclass or as one
of its interfaces, raw or applied to arguments. -/
def Declares (env : Env) (low high : ClassId) : Prop :=
  ∃ definition, env.classDef? low = some definition ∧
    ∃ type, (definition.superClass = some type ∨ type ∈ definition.interfaces) ∧
      (type = .cls high ∨ ∃ args, type = .parameterized high args)

theorem mem_parents_iff {env : Env} {low high : ClassId} :
    high ∈ env.parents low ↔ env.Declares low high := by
  unfold parents Declares
  cases declared : env.classDef? low with
  | none => simp
  | some definition =>
      simp [ClassDef.parents, ClassDef.supertypes, Ty.classId?_eq_some_iff,
        or_and_right, exists_or]

/-- A non-empty chain of declared supertypes leads from the first class to the
second. -/
abbrev Inherits (env : Env) : ClassId → ClassId → Prop :=
  Relation.TransGen env.Declares

/-! ## Bounds -/

/-- The type variable is defined with this upper bound. -/
def DeclaresBound (env : Env) (var : TypeVarId) (bound : Ty) : Prop :=
  ∃ definition, env.typeVarDef? var = some definition ∧
    definition.upperBound = some bound

theorem declaredBound?_eq_some_iff
    {env : Env} {var : TypeVarId} {bound : Ty} :
    env.declaredBound? var = some bound ↔ env.DeclaresBound var bound :=
  Option.bind_eq_some_iff

theorem declaredBound?_eq_none_iff {env : Env} {var : TypeVarId} :
    env.declaredBound? var = none ↔ ∀ bound, ¬ env.DeclaresBound var bound := by
  simp only [Option.eq_none_iff_forall_ne_some, ne_eq,
    declaredBound?_eq_some_iff]

/-- The type variable has this bound: the declared one, or the root if none is
declared. -/
def HasBound (env : Env) (var : TypeVarId) (bound : Ty) : Prop :=
  env.DeclaresBound var bound ∨
    (∀ other, ¬ env.DeclaresBound var other) ∧ bound = env.rootTy

theorem hasBound_iff {env : Env} {var : TypeVarId} {bound : Ty} :
    env.HasBound var bound ↔ bound = env.bound var := by
  simp only [HasBound, ← declaredBound?_eq_some_iff]
  unfold Env.bound
  cases env.declaredBound? var with
  | none => simp
  | some declared => simp [eq_comm]

theorem hasBound_bound (env : Env) (var : TypeVarId) :
    env.HasBound var (env.bound var) :=
  hasBound_iff.mpr rfl

end Env

end JavaTypes
