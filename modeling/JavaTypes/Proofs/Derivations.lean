import JavaTypes.Proofs.VariableBounds

/-!
# The rules of assignability

`Env.Derives` states assignability as a system of rules: in no order, with no
guard against expanding a variable twice, and with declared chains in place of a
search.  Everything that the check accepts can be derived, in every environment.

Not everything that can be derived is accepted, since a derivation may expand one
variable several times.
-/

namespace JavaTypes

namespace Env

/-- The least relation closed under the rules of assignability.  In the rule for
two parameterized types, `inner` is any relation between bounds that can be
derived in nested position. -/
inductive Derives (env : Env) : Position → Ty → Ty → Prop where
  | same (position : Position) (type : Ty) : Derives env position type type
  | root {position : Position} {source : Ty}
      (reference : source.isReference = true) :
      Derives env position env.rootTy source
  | bound {position : Position} {target bound : Ty} {var : TypeVarId}
      (notPrimitive : target.isPrimitive = false)
      (notWildcard : target.isWildcard = false)
      (bounded : env.HasBound var bound)
      (derived : Derives env position target bound) :
      Derives env position target (.typeVar var)
  | array {position : Position} {element element' : Ty}
      (derived : Derives env position element element') :
      Derives env position (.array element) (.array element')
  | cls {position : Position} {sup sub : ClassId} {source : Ty}
      (sourceClass : source.classId? = some sub)
      (above : sub = sup ∨ sup = env.root ∨ env.Inherits sub sup) :
      Derives env position (.cls sup) source
  | raw {erasure : ClassId} {args : List Ty}
      (unchecked : env.uncheckedRaw = true) :
      Derives env .topLevel (.parameterized erasure args) (.cls erasure)
  | args {position : Position} {erasure : ClassId} {args args' : List Ty}
      {inner : Ty → Ty → Prop}
      (derived : ∀ first second, inner first second →
        Derives env .nested first second)
      (contained : env.ContainsArgs inner args args') :
      Derives env position (.parameterized erasure args)
        (.parameterized erasure args')

private theorem containsArg_self (env : Env) (position : Position) (arg : Ty) :
    env.ContainsArg (env.Derives position) arg arg := by
  cases arg with
  | unbounded =>
      have upper : env.IsUpper .unbounded env.rootTy := Or.inr ⟨rfl, rfl⟩
      exact .upper upper upper (.same position env.rootTy)
  | upperBounded bound =>
      exact .upper (Or.inl rfl) (Or.inl rfl) (.same position bound)
  | lowerBounded bound => exact .lower (.same position bound)
  | _ => exact .exact rfl

/-- Two parameterized types are compared argument by argument, their bounds by
derivations in nested position. -/
theorem derives_parameterized_iff
    {env : Env} {position : Position} {erasure erasure' : ClassId}
    {args args' : List Ty} :
    env.Derives position (.parameterized erasure args)
        (.parameterized erasure' args') ↔
      erasure = erasure' ∧
        env.ContainsArgs (env.Derives .nested) args args' := by
  constructor
  · intro derivation
    cases derivation with
    | same =>
        refine ⟨rfl, List.forall₂_same.mpr fun arg _ => ?_⟩
        exact env.containsArg_self .nested arg
    | args derived contained =>
        refine ⟨rfl, contained.mono fun first _ second _ => ?_⟩
        exact ⟨derived _ _, derived _ _⟩
  · rintro ⟨rfl, contained⟩
    exact .args (fun _ _ derived => derived) contained

/-- A rule stands behind each step of the check. -/
theorem derives_of_accepts
    {env : Env} (guard : List TypeVarId) (target source : Ty)
    {position : Position}
    (accepted : env.accepts guard position target source = true) :
    env.Derives position target source := by
  induction guard, target, source using env.accepts_induction
    generalizing position with
  | step guard target source ofBound ofElements ofContents =>
      cases via_of_accepts accepted with
      | same => exact .same position target
      | root reference => exact .root reference
      | @typeVar _ var _ reference _ expanded =>
          obtain ⟨fresh, boundAccepted⟩ := expanded
          have derived := ofBound var rfl fresh boundAccepted
          obtain ⟨notPrimitive, notWildcard⟩ := Ty.isReference_iff.mp reference
          exact .bound notPrimitive notWildcard (env.hasBound_bound var) derived
      | array elements => exact .array (ofElements _ _ rfl rfl elements)
      | cls sourceClass subclass =>
          have above := (isSubclass_eq_true_iff env _ _).mp subclass
          exact .cls sourceClass above
      | raw converts =>
          have allowed :
              position = .topLevel ∧ env.uncheckedRaw = true := by
            simpa [convertsRaw] using converts
          obtain ⟨rfl, unchecked⟩ := allowed
          exact .raw unchecked
      | @args erasure args args' contained =>
          have derivedArgs :
              env.ContainsArgs (env.Derives .nested) args args' := by
            refine contained.mono fun first member second member' => ?_
            obtain ⟨forward, backward⟩ :=
              ofContents _ _ _ _ rfl rfl first member second member'
            exact ⟨forward, backward⟩
          exact derives_parameterized_iff.mpr ⟨rfl, derivedArgs⟩

/-- The check is sound for the rules: whatever it accepts can be derived, also
with cyclic bounds, cyclic hierarchies, unknown ids and ill-formed types. -/
theorem derives_of_isAssignable (env : Env) (target source : Ty)
    (accepted : env.isAssignable target source = true) :
    env.Derives .topLevel target source :=
  derives_of_accepts [] target source accepted

end Env

namespace Model

/-- With `N extends Node<N>`, that `Node<? extends Node>` accepts `Node<N>` has
a derivation. -/
theorem derives_selfBounded :
    selfBounded.env.isAssignable
        (.parameterized (.ofNat 1) [.upperBounded (.cls (.ofNat 1))])
        (.parameterized (.ofNat 1) [.typeVar (.ofNat 0)]) = true ∧
      selfBounded.env.Derives .topLevel
        (.parameterized (.ofNat 1) [.upperBounded (.cls (.ofNat 1))])
        (.parameterized (.ofNat 1) [.typeVar (.ofNat 0)]) := by
  have boundEq :
      selfBounded.env.bound (.ofNat 0) =
        .parameterized (.ofNat 1) [.typeVar (.ofNat 0)] := by
    decide +kernel
  obtain ⟨accepted, _⟩ :=
    Env.isAssignable_selfBounded boundEq (by decide +kernel)
  rw [boundEq] at accepted
  exact ⟨accepted, Env.derives_of_isAssignable selfBounded.env _ _ accepted⟩

end Model

end JavaTypes
