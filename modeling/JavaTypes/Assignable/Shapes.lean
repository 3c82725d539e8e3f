import JavaTypes.Assignable

/-!
# Assignability by the shapes of the types

`Env.accepts` tries its rules in a fixed order.  Here is what it comes to for
each pair of shapes: equal types accept each other, wildcards and primitive
types accept nothing else, the root accepts every reference type, and the other
shapes are compared part by part.
-/

namespace JavaTypes.Env

/-! ## Equal types -/

theorem accepts_self (env : Env) (guard : List TypeVarId) (position : Position)
    (type : Ty) : env.accepts guard position type type = true := by
  rw [accepts.eq_def]
  simp

theorem contains_self (env : Env) (guard : List TypeVarId) (type : Ty) :
    env.contains guard type type = true := by
  rw [contains.eq_def]
  cases type <;> simp [argument, accepts_self]

theorem acceptsArgs_self (env : Env) (guard : List TypeVarId)
    (types : List Ty) : env.acceptsArgs guard types types = true := by
  induction types with
  | nil => rw [acceptsArgs.eq_def]
  | cons head tail induction =>
      rw [acceptsArgs.eq_def]
      simp [contains_self, induction]

/-! ## Wildcards and primitive types -/

theorem accepts_of_isWildcard {env : Env} {guard : List TypeVarId}
    {position : Position} {target source : Ty}
    (differs : target ≠ source)
    (wildcard : (target.isWildcard || source.isWildcard) = true) :
    env.accepts guard position target source = false := by
  rw [accepts.eq_def, if_neg differs, if_pos wildcard]

theorem accepts_of_isPrimitive {env : Env} {guard : List TypeVarId}
    {position : Position} {target source : Ty}
    (differs : target ≠ source)
    (primitive : (target.isPrimitive || source.isPrimitive) = true) :
    env.accepts guard position target source = false := by
  by_cases wildcard : (target.isWildcard || source.isWildcard) = true
  · exact accepts_of_isWildcard differs wildcard
  · rw [accepts.eq_def, if_neg differs, if_neg wildcard, if_pos primitive]

/-! ## The root -/

theorem accepts_root (env : Env) (guard : List TypeVarId) (position : Position)
    {source : Ty} (reference : source.isReference = true) :
    env.accepts guard position env.rootTy source = true := by
  rw [accepts.eq_def]
  cases source <;>
    simp_all [Ty.isReference, Ty.isWildcard, Ty.isPrimitive, rootTy]

/-! ## Type variables -/

theorem accepts_typeVar {env : Env} {guard : List TypeVarId}
    {position : Position} {target : Ty} {var : TypeVarId}
    (differs : target ≠ .typeVar var)
    (reference : target.isReference = true)
    (notRoot : target ≠ env.rootTy) :
    env.accepts guard position target (.typeVar var) =
      if var ∈ guard then false
      else env.accepts (var :: guard) position target (env.bound var) := by
  rw [accepts.eq_def]
  cases target <;>
    simp_all [Ty.isReference, Ty.isWildcard, Ty.isPrimitive]

theorem accepts_of_typeVar {env : Env} {guard : List TypeVarId}
    {position : Position} {var : TypeVarId} {source : Ty}
    (notVariable : ∀ other, source ≠ .typeVar other) :
    env.accepts guard position (.typeVar var) source = false := by
  rw [accepts.eq_def]
  cases source <;>
    simp_all [Ty.isWildcard, Ty.isPrimitive, rootTy]

/-! ## Arrays, classes and parameterized types -/

theorem accepts_array_array (env : Env) (guard : List TypeVarId)
    (position : Position) (element element' : Ty) :
    env.accepts guard position (.array element) (.array element') =
      env.accepts guard position element element' := by
  by_cases same : element = element'
  · rw [same, accepts_self, accepts_self]
  · rw [accepts.eq_def]
    simp [same, Ty.isWildcard, Ty.isPrimitive, rootTy]

theorem accepts_array_of_ne {env : Env} {guard : List TypeVarId}
    {position : Position} {element source : Ty}
    (notArray : ∀ element', source ≠ .array element')
    (notVariable : ∀ var, source ≠ .typeVar var) :
    env.accepts guard position (.array element) source = false := by
  rw [accepts.eq_def]
  cases source <;>
    simp_all [Ty.isWildcard, Ty.isPrimitive, rootTy]

theorem accepts_ne_of_array {env : Env} {guard : List TypeVarId}
    {position : Position} {target element' : Ty}
    (notArray : ∀ element, target ≠ .array element)
    (notRoot : target ≠ env.rootTy) :
    env.accepts guard position target (.array element') = false := by
  rw [accepts.eq_def]
  cases target <;>
    simp_all [Ty.isWildcard, Ty.isPrimitive, rootTy]

theorem accepts_cls_cls (env : Env) (guard : List TypeVarId)
    (position : Position) (sup sub : ClassId) :
    env.accepts guard position (.cls sup) (.cls sub) =
      env.isSubclass sub sup := by
  rw [accepts.eq_def]
  by_cases same : sup = sub
  · simp [same, isSubclass]
  · by_cases root : sup = env.root <;>
      simp [same, root, isSubclass, Ty.isWildcard, Ty.isPrimitive, rootTy]

theorem accepts_cls_parameterized (env : Env) (guard : List TypeVarId)
    (position : Position) (sup sub : ClassId) (args : List Ty) :
    env.accepts guard position (.cls sup) (.parameterized sub args) =
      env.isSubclass sub sup := by
  rw [accepts.eq_def]
  by_cases root : sup = env.root <;>
    simp [root, isSubclass, Ty.isWildcard, Ty.isPrimitive, rootTy]

theorem accepts_parameterized_cls (env : Env) (guard : List TypeVarId)
    (position : Position) (erasure id : ClassId) (args : List Ty) :
    env.accepts guard position (.parameterized erasure args) (.cls id) =
      (position = .topLevel && env.uncheckedRaw && erasure = id) := by
  rw [accepts.eq_def]
  simp [Ty.isWildcard, Ty.isPrimitive, rootTy]

theorem accepts_parameterized_parameterized (env : Env)
    (guard : List TypeVarId) (position : Position) (erasure erasure' : ClassId)
    (args args' : List Ty) :
    env.accepts guard position (.parameterized erasure args)
        (.parameterized erasure' args') =
      (erasure = erasure' && env.acceptsArgs guard args args') := by
  by_cases same :
      Ty.parameterized erasure args = Ty.parameterized erasure' args'
  · obtain ⟨rfl, rfl⟩ := Ty.parameterized.inj same
    simp [accepts_self, acceptsArgs_self]
  · rw [accepts.eq_def, if_neg same]
    simp [Ty.isWildcard, Ty.isPrimitive, rootTy]

end JavaTypes.Env
