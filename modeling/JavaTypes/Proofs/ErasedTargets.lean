import JavaTypes.Erasure
import JavaTypes.Model.Operation
import JavaTypes.Proofs.Acceptance

/-!
# Erased types as targets

A type built from classes, primitive types and arrays cannot tell a type from
its erasure: it accepts the one exactly when it accepts the other.

Both the check and erasure follow the bounds of variables, and both stop at a
variable that they are expanding already.  They answer differently there: the
check refuses, and erasure takes the root.  The answers agree because the root
is refused by every erased type but the root itself, which accepts the variable
before its bound is looked at.
-/

namespace JavaTypes

namespace Ty

/-- The type is built from classes, primitive types and arrays. -/
def isErased : Ty → Bool
  | .primitive _ => true
  | .cls _ => true
  | .array element => isErased element
  | _ => false

/-- The type below all array levels. -/
def innermost : Ty → Ty
  | .array element => innermost element
  | type => type

end Ty

namespace Env

/-- The declared bounds are reference types, and none is an array of
wildcards. -/
def PlainBounds (env : Env) : Prop :=
  ∀ var bound, env.declaredBound? var = some bound →
    bound.isReference = true ∧ bound.innermost.isWildcard = false

private theorem PlainBounds.isReference_bound
    {env : Env} (plainBounds : env.PlainBounds) (var : TypeVarId) :
    (env.bound var).isReference = true := by
  unfold bound
  cases declared : env.declaredBound? var with
  | none => rfl
  | some bound => exact (plainBounds var bound declared).1

/-! ## Erasures -/

theorem isErased_erase (env : Env) (guard : List TypeVarId) (type : Ty) :
    (env.erase guard type).isErased = true := by
  fun_induction erase env guard type with
  | case1 guard var guarded => rfl
  | case2 guard var fresh bound declared inductionHypothesis =>
      exact inductionHypothesis
  | case3 guard var fresh undeclared => rfl
  | case4 guard element inductionHypothesis => exact inductionHypothesis
  | case5 guard bound inductionHypothesis => exact inductionHypothesis
  | case6 guard => rfl
  | case7 guard bound => rfl
  | case8 guard type => cases type <;> simp_all [Ty.dropArgs, Ty.isErased]

/-- The erasure of a reference type is a reference type. -/
private theorem PlainBounds.isReference_erase
    {env : Env} (plainBounds : env.PlainBounds) (guard : List TypeVarId)
    (type : Ty) (reference : type.isReference = true) :
    (env.erase guard type).isReference = true := by
  fun_induction erase env guard type with
  | case1 guard var guarded => rfl
  | case2 guard var fresh bound declared inductionHypothesis =>
      exact inductionHypothesis (plainBounds var bound declared).1
  | case3 guard var fresh undeclared => rfl
  | case4 guard element inductionHypothesis => rfl
  | case5 guard bound inductionHypothesis => cases reference
  | case6 guard => cases reference
  | case7 guard bound => cases reference
  | case8 guard type => cases type <;> simp_all [Ty.dropArgs, Ty.isReference]

/-! ## What an erased type accepts -/

section

variable {env : Env} {guard : List TypeVarId} {position : Position}
  {target : Ty}

private theorem accepts_primitive_source (kind : Primitive) :
    env.accepts guard position target (.primitive kind) =
      env.isAssignable target (.primitive kind) := by
  by_cases same : target = .primitive kind
  · rw [isAssignable, same, accepts_self, accepts_self]
  · have primitive :
        (target.isPrimitive || (Ty.primitive kind).isPrimitive) = true := by
      simp [Ty.isPrimitive]
    rw [isAssignable, accepts_of_isPrimitive same primitive,
      accepts_of_isPrimitive same primitive]

private theorem accepts_primitive_of_isReference
    {kind : Primitive} {source : Ty} (reference : source.isReference = true) :
    env.accepts guard position (.primitive kind) source = false := by
  apply accepts_of_isPrimitive
  · rintro rfl
    cases reference
  · rfl

/-- An erased type does not tell a class from its parameterizations. -/
private theorem accepts_class_of_isErased
    (erased : target.isErased = true) {source : Ty} {id : ClassId}
    (sourceClass : source.classId? = some id) :
    env.accepts guard position target source =
      env.isAssignable target (.cls id) := by
  have reference := Ty.isReference_of_classId? sourceClass
  cases target with
  | primitive kind =>
      rw [isAssignable, accepts_primitive_of_isReference reference,
        accepts_primitive_of_isReference rfl]
  | cls sup =>
      rw [isAssignable, accepts_cls_cls]
      cases source with
      | cls sub =>
          cases sourceClass
          rw [accepts_cls_cls]
      | parameterized erasure args =>
          cases sourceClass
          rw [accepts_cls_parameterized]
      | _ => cases sourceClass
  | array element =>
      have notArray (element' : Ty) : source ≠ .array element' := by
        rintro rfl
        cases sourceClass
      have notVariable (var : TypeVarId) : source ≠ .typeVar var := by
        rintro rfl
        cases sourceClass
      rw [isAssignable, accepts_array_of_ne notArray notVariable,
        accepts_array_of_ne (by simp) (by simp)]
  | _ => cases erased

/-- The root is refused by every erased type but itself. -/
private theorem accepts_rootTy_of_isErased
    (bare : env.parents env.root = []) (erased : target.isErased = true)
    (notRoot : target ≠ env.rootTy) :
    env.accepts guard position target env.rootTy = false := by
  cases target with
  | primitive kind => exact accepts_primitive_of_isReference rfl
  | cls sup =>
      have notAbove : ¬ env.isSubclass env.root sup = true := by
        intro subclass
        have atRoot : sup = env.root :=
          (isSubclass_root_iff bare sup).mp subclass
        exact notRoot (by rw [atRoot, rootTy])
      rw [rootTy, accepts_cls_cls]
      simpa using notAbove
  | array element =>
      exact accepts_array_of_ne (by simp [rootTy]) (by simp [rootTy])
  | _ => cases erased

/-- A variable is as good as a reference type that answers for its bound: the
root accepts both. -/
private theorem accepts_typeVar_of_isErased
    (plainBounds : env.PlainBounds) (erased : target.isErased = true)
    {var : TypeVarId} {erasure : Ty} (reference : erasure.isReference = true)
    (sameBelow : target ≠ env.rootTy →
      (if var ∈ guard then false
        else env.accepts (var :: guard) position target (env.bound var)) =
          env.isAssignable target erasure) :
    env.accepts guard position target (.typeVar var) =
      env.isAssignable target erasure := by
  by_cases atRoot : target = env.rootTy
  · rw [isAssignable, atRoot, accepts_root env guard position rfl,
      accepts_root env [] .topLevel reference]
  rw [← sameBelow atRoot]
  cases target with
  | primitive kind =>
      have boundReference := plainBounds.isReference_bound var
      rw [accepts_primitive_of_isReference rfl,
        accepts_primitive_of_isReference boundReference, ite_self]
  | cls sup => exact accepts_typeVar (by simp) rfl atRoot
  | array element => exact accepts_typeVar (by simp) rfl atRoot
  | _ => cases erased

/-- Arrays are told from one another by their elements alone. -/
private theorem accepts_array_of_isErased
    (erased : target.isErased = true) {element element' : Ty}
    (sameElements : ∀ {target'}, target'.isErased = true →
      env.accepts guard position target' element =
        env.isAssignable target' element') :
    env.accepts guard position target (.array element) =
      env.isAssignable target (.array element') := by
  by_cases atRoot : target = env.rootTy
  · rw [isAssignable, atRoot, accepts_root env guard position rfl,
      accepts_root env [] .topLevel rfl]
  cases target with
  | array inner =>
      have innerErased : inner.isErased = true := erased
      rw [isAssignable, accepts_array_array, accepts_array_array]
      exact sameElements innerErased
  | _ =>
      rw [isAssignable, accepts_ne_of_array (by simp) atRoot,
        accepts_ne_of_array (by simp) atRoot]

end

/-- The check and erasure stay in step, whatever variables they are both
expanding. -/
private theorem accepts_eq_isAssignable_erase
    {env : Env} (bare : env.parents env.root = [])
    (plainBounds : env.PlainBounds) (guard : List TypeVarId) (type : Ty)
    (plain : type.innermost.isWildcard = false) {position : Position}
    {target : Ty} (erased : target.isErased = true) :
    env.accepts guard position target type =
      env.isAssignable target (env.erase guard type) := by
  fun_induction erase env guard type generalizing target with
  | case1 guard var guarded =>
      -- Met again: the check refuses, and erasure takes the root.
      apply accepts_typeVar_of_isErased plainBounds erased rfl
      intro notRoot
      rw [if_pos guarded, isAssignable,
        accepts_rootTy_of_isErased bare erased notRoot]
  | case2 guard var fresh bound declared inductionHypothesis =>
      obtain ⟨boundReference, boundPlain⟩ := plainBounds var bound declared
      have erasedReference :=
        plainBounds.isReference_erase (var :: guard) bound boundReference
      apply accepts_typeVar_of_isErased plainBounds erased erasedReference
      intro notRoot
      have boundEq : env.bound var = bound := by
        simp [Env.bound, declared]
      rw [if_neg fresh, boundEq]
      exact inductionHypothesis boundPlain erased
  | case3 guard var fresh undeclared =>
      apply accepts_typeVar_of_isErased plainBounds erased rfl
      intro notRoot
      have boundEq : env.bound var = env.rootTy := by
        simp [Env.bound, undeclared]
      rw [if_neg fresh, boundEq, isAssignable,
        accepts_rootTy_of_isErased bare erased notRoot,
        accepts_rootTy_of_isErased bare erased notRoot]
  | case4 guard element inductionHypothesis =>
      exact accepts_array_of_isErased erased fun elementErased =>
        inductionHypothesis plain elementErased
  | case5 guard bound inductionHypothesis => cases plain
  | case6 guard => cases plain
  | case7 guard bound => cases plain
  | case8 guard type notVariable notArray notUpper notUnbounded notLower =>
      cases type with
      | primitive kind => exact accepts_primitive_source kind
      | cls id => exact accepts_class_of_isErased erased rfl
      | parameterized id args => exact accepts_class_of_isErased erased rfl
      | array element => exact absurd rfl (notArray element)
      | typeVar var => exact absurd rfl (notVariable var)
      | _ => cases plain

/-- Erased types accept a type exactly when they accept its erasure, whatever
cycles the bounds of variables have.  In particular the erasure of a type
accepts the type. -/
theorem isAssignable_eq_isAssignable_erasure (env : Env)
    (bare : env.parents env.root = []) (plainBounds : env.PlainBounds)
    (type : Ty) (plain : type.innermost.isWildcard = false) :
    (∀ target, target.isErased = true →
      env.isAssignable target type =
        env.isAssignable target (env.erasure type)) ∧
      env.isAssignable (env.erasure type) type = true := by
  have agree {target : Ty} (erased : target.isErased = true) :
      env.isAssignable target type =
        env.isAssignable target (env.erasure type) :=
    accepts_eq_isAssignable_erase bare plainBounds [] type plain erased
  refine ⟨fun target erased => agree erased, ?_⟩
  have erasureErased : (env.erasure type).isErased = true :=
    isErased_erase env [] type
  rw [agree erasureErased]
  exact accepts_self env [] .topLevel (env.erasure type)

end Env

namespace Model

/-- The bounds of a model can be checked along its table of variables. -/
theorem plainBounds_of_forall
    {model : Model}
    (plain : ∀ definition ∈ model.typeVars.toList,
      ∀ bound ∈ definition.upperBound,
        bound.isReference = true ∧ bound.innermost.isWildcard = false) :
    model.env.PlainBounds := by
  intro var bound declared
  obtain ⟨definition, known, bounded⟩ := Option.bind_eq_some_iff.mp declared
  have member : definition ∈ model.typeVars.toList :=
    Array.mem_toList_iff.mpr (Array.mem_of_getElem? known)
  exact plain definition member bound bounded

/-- Two variables in a cycle, `A extends B[]` and `B extends A`. -/
def arrayCycle : Model :=
  (Model.new .default).model.run
    [.addTypeVar ⟨"A", .cls (.ofNat 0), none⟩,
      .addTypeVar ⟨"B", .cls (.ofNat 0), some (.typeVar (.ofNat 0))⟩,
      .defineTypeVar (.ofNat 0)
        ⟨"A", .cls (.ofNat 0), some (.array (.typeVar (.ofNat 1)))⟩]

/-- The erasure of `A` is `Object[]`: it accepts `A`, and `Object[][]` answers
alike for both. -/
theorem isAssignable_erasure_arrayCycle :
    arrayCycle.erasure (.typeVar (.ofNat 0)) = .array arrayCycle.rootTy ∧
      arrayCycle.env.isAssignable (.array arrayCycle.rootTy)
        (.typeVar (.ofNat 0)) = true ∧
      arrayCycle.env.isAssignable (.array (.array arrayCycle.rootTy))
          (.typeVar (.ofNat 0)) =
        arrayCycle.env.isAssignable (.array (.array arrayCycle.rootTy))
          (.array arrayCycle.rootTy) := by
  obtain ⟨firstBound, secondBound⟩ :
      arrayCycle.env.declaredBound? (.ofNat 0) =
          some (.array (.typeVar (.ofNat 1))) ∧
        arrayCycle.env.declaredBound? (.ofNat 1) =
          some (.typeVar (.ofNat 0)) := by
    decide +kernel
  have erasureEq :
      arrayCycle.env.erasure (.typeVar (.ofNat 0)) =
        .array arrayCycle.env.rootTy := by
    have differs : TypeVarId.ofNat 1 ≠ TypeVarId.ofNat 0 := by decide
    simp [Env.erasure, Env.erase, firstBound, secondBound, differs]
  have bare : arrayCycle.env.parents arrayCycle.env.root = [] := by
    decide +kernel
  have plainBounds : arrayCycle.env.PlainBounds :=
    plainBounds_of_forall (by decide +kernel)
  obtain ⟨agree, accepted⟩ :=
    Env.isAssignable_eq_isAssignable_erasure arrayCycle.env bare plainBounds
      (.typeVar (.ofNat 0)) rfl
  rw [erasureEq] at agree accepted
  exact ⟨erasureEq, accepted, agree _ rfl⟩

end Model

end JavaTypes
