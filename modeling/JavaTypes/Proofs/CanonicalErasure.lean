import JavaTypes.Proofs.ErasedTargets

/-!
# Erasure gives one canonical type

Erasing a type is a walk: down array levels, up the bounds of wildcards, and from
a variable to its bound.  Bounds may be larger than the variables they belong to
and may lead back to them.  The walk ends all the same, because it stops at a
variable whose bound it is erasing already.

What it ends with is built from classes, primitive types and arrays, and stays
the same when it is erased again.  Where the walk stops at a variable for the
second time, the result depends on where it started.  With `A extends A[]` the
erasure of `A` is `Object[]`, but that of its bound is `Object[][]`.  So a
variable is erased like its bound if its bound does not lead back to it.
-/

namespace JavaTypes

namespace Env

/-- A type is erased in finitely many steps, with the variables of a guard under
erasure already.  There is one rule for each way the walk goes on or ends. -/
inductive Erases (env : Env) : List TypeVarId → Ty → Ty → Prop where
  | met {guard : List TypeVarId} {var : TypeVarId} (guarded : var ∈ guard) :
      Erases env guard (.typeVar var) env.rootTy
  | expanded {guard : List TypeVarId} {var : TypeVarId} {bound result : Ty}
      (fresh : var ∉ guard) (declared : env.DeclaresBound var bound)
      (rest : Erases env (var :: guard) bound result) :
      Erases env guard (.typeVar var) result
  | undeclared {guard : List TypeVarId} {var : TypeVarId}
      (fresh : var ∉ guard)
      (unbounded : ∀ bound, ¬ env.DeclaresBound var bound) :
      Erases env guard (.typeVar var) env.rootTy
  | array {guard : List TypeVarId} {element result : Ty}
      (rest : Erases env guard element result) :
      Erases env guard (.array element) (.array result)
  | upperBounded {guard : List TypeVarId} {bound result : Ty}
      (rest : Erases env guard bound result) :
      Erases env guard (.upperBounded bound) result
  | lowerBounded (guard : List TypeVarId) (bound : Ty) :
      Erases env guard (.lowerBounded bound) env.rootTy
  | unbounded (guard : List TypeVarId) : Erases env guard .unbounded env.rootTy
  | primitive (guard : List TypeVarId) (kind : Primitive) :
      Erases env guard (.primitive kind) (.primitive kind)
  | cls (guard : List TypeVarId) (id : ClassId) :
      Erases env guard (.cls id) (.cls id)
  | parameterized (guard : List TypeVarId) (erasure : ClassId)
      (args : List Ty) :
      Erases env guard (.parameterized erasure args) (.cls erasure)

/-- Erasing the type leads to the variable: through array elements, upper bounds
of wildcards, and bounds of variables. -/
inductive Uncovers (env : Env) : Ty → TypeVarId → Prop where
  | here (var : TypeVarId) : Uncovers env (.typeVar var) var
  | through {middle var : TypeVarId} {bound : Ty}
      (declared : env.DeclaresBound middle bound)
      (rest : Uncovers env bound var) : Uncovers env (.typeVar middle) var
  | element {element : Ty} {var : TypeVarId}
      (rest : Uncovers env element var) : Uncovers env (.array element) var
  | upperBound {bound : Ty} {var : TypeVarId}
      (rest : Uncovers env bound var) : Uncovers env (.upperBounded bound) var

/-! ## The walk ends -/

private theorem erases_erase (env : Env) (guard : List TypeVarId) (type : Ty) :
    env.Erases guard type (env.erase guard type) := by
  fun_induction erase env guard type with
  | case1 guard var guarded => exact .met guarded
  | case2 guard var fresh bound declared inductionHypothesis =>
      exact .expanded fresh (declaredBound?_eq_some_iff.mp declared)
        inductionHypothesis
  | case3 guard var fresh undeclared =>
      exact .undeclared fresh (declaredBound?_eq_none_iff.mp undeclared)
  | case4 guard element inductionHypothesis => exact .array inductionHypothesis
  | case5 guard bound inductionHypothesis =>
      exact .upperBounded inductionHypothesis
  | case6 guard => exact .unbounded guard
  | case7 guard bound => exact .lowerBounded guard bound
  | case8 guard type notVariable notArray notUpper notUnbounded notLower =>
      cases type with
      | primitive kind => exact .primitive guard kind
      | cls id => exact .cls guard id
      | parameterized id args => exact .parameterized guard id args
      | array element => exact absurd rfl (notArray element)
      | typeVar var => exact absurd rfl (notVariable var)
      | upperBounded bound => exact absurd rfl (notUpper bound)
      | unbounded => exact absurd rfl notUnbounded
      | lowerBounded bound => exact absurd rfl (notLower bound)

private theorem Erases.eq_erase
    {env : Env} {guard : List TypeVarId} {type result : Ty}
    (erased : env.Erases guard type result) :
    result = env.erase guard type := by
  induction erased with
  | met guarded => simp [erase, guarded]
  | expanded fresh declared rest inductionHypothesis =>
      rw [← declaredBound?_eq_some_iff] at declared
      simp [erase, fresh, declared, inductionHypothesis]
  | undeclared fresh unbounded =>
      rw [← declaredBound?_eq_none_iff] at unbounded
      simp [erase, fresh, unbounded]
  | array rest inductionHypothesis => simp [erase, inductionHypothesis]
  | upperBounded rest inductionHypothesis => simp [erase, inductionHypothesis]
  | _ => simp [erase, Ty.dropArgs]

theorem erases_iff (env : Env) (guard : List TypeVarId) (type result : Ty) :
    env.Erases guard type result ↔ result = env.erase guard type := by
  constructor
  · exact Erases.eq_erase
  · rintro rfl
    exact env.erases_erase guard type

/-! ## Canonical results -/

private theorem erases_self
    {type : Ty} (erased : type.isErased = true) (env : Env)
    (guard : List TypeVarId) : env.Erases guard type type := by
  fun_induction Ty.isErased type with
  | case1 kind => exact .primitive guard kind
  | case2 id => exact .cls guard id
  | case3 element inductionHypothesis =>
      exact .array (inductionHypothesis erased)
  | case4 => cases erased

theorem Erases.dropArgs
    {env : Env} {guard : List TypeVarId} {type result : Ty}
    (erased : env.Erases guard type result) :
    env.Erases guard type.dropArgs result := by
  induction erased with
  | array rest inductionHypothesis => exact .array inductionHypothesis
  | parameterized guard erasure args => exact .cls guard erasure
  | met guarded => exact .met guarded
  | expanded fresh declared rest _ => exact .expanded fresh declared rest
  | undeclared fresh unbounded => exact .undeclared fresh unbounded
  | upperBounded rest _ => exact .upperBounded rest
  | lowerBounded guard bound => exact .lowerBounded guard bound
  | unbounded guard => exact .unbounded guard
  | primitive guard kind => exact .primitive guard kind
  | cls guard id => exact .cls guard id

/-! ## Guards that do not matter -/

/-- Only the variables that the walk meets are looked up in the guard. -/
theorem Erases.congr
    {env : Env} {guard guard' : List TypeVarId} {type result : Ty}
    (erased : env.Erases guard type result)
    (agree : ∀ var, env.Uncovers type var → (var ∈ guard ↔ var ∈ guard')) :
    env.Erases guard' type result := by
  induction erased generalizing guard' with
  | met guarded => exact .met ((agree _ (.here _)).mp guarded)
  | @expanded guard var bound result fresh declared rest inductionHypothesis =>
      have fresh' : var ∉ guard' := by
        rwa [← agree var (.here var)]
      apply Erases.expanded fresh' declared
      apply inductionHypothesis
      intro other uncovered
      rw [List.mem_cons, List.mem_cons,
        agree other (.through declared uncovered)]
  | @undeclared guard var fresh unbounded =>
      have fresh' : var ∉ guard' := by
        rwa [← agree var (.here var)]
      exact .undeclared fresh' unbounded
  | array rest inductionHypothesis =>
      apply Erases.array
      apply inductionHypothesis
      intro var uncovered
      exact agree var (.element uncovered)
  | upperBounded rest inductionHypothesis =>
      apply Erases.upperBounded
      apply inductionHypothesis
      intro var uncovered
      exact agree var (.upperBound uncovered)
  | lowerBounded guard bound => exact .lowerBounded guard' bound
  | unbounded guard => exact .unbounded guard'
  | primitive guard kind => exact .primitive guard' kind
  | cls guard id => exact .cls guard' id
  | parameterized guard erasure args =>
      exact .parameterized guard' erasure args

/-- A variable is erased like its bound, unless the bound leads back to it. -/
theorem Erases.typeVar
    {env : Env} {var : TypeVarId} {bound result : Ty}
    (erased : env.Erases [] bound result)
    (declared : env.DeclaresBound var bound)
    (acyclic : ¬ env.Uncovers bound var) :
    env.Erases [] (.typeVar var) result := by
  apply Erases.expanded List.not_mem_nil declared
  apply erased.congr
  intro other uncovered
  have differs : other ≠ var := by
    rintro rfl
    exact acyclic uncovered
  simp [differs]

end Env

namespace Model

/-- Every type has exactly one erasure, reached in finitely many steps.  It is
built from classes, primitive types and arrays, and it stays the same when the
type is erased twice or loses its arguments first.  A variable is erased like its
bound, unless the bound leads back to the variable. -/
theorem erasure_is_canonical (model : Model) (type : Ty) :
    (∀ result, model.env.Erases [] type result ↔ result = model.erasure type) ∧
    (model.erasure type).isErased = true ∧
    model.erasure (model.erasure type) = model.erasure type ∧
    model.erasure type.dropArgs = model.erasure type ∧
    ∀ var bound, model.env.declaredBound? var = some bound →
      ¬ model.env.Uncovers bound var →
        model.erasure (.typeVar var) = model.erasure bound := by
  have exactly (other result : Ty) :
      model.env.Erases [] other result ↔ result = model.erasure other :=
    model.env.erases_iff [] other result
  have erases (other : Ty) : model.env.Erases [] other (model.erasure other) :=
    (exactly other _).mpr rfl
  have erased : (model.erasure type).isErased = true :=
    Env.isErased_erase model.env [] type
  refine ⟨exactly type, erased, ?_, ?_, ?_⟩
  · exact ((exactly _ _).mp (Env.erases_self erased model.env [])).symm
  · exact ((exactly _ _).mp (erases type).dropArgs).symm
  · intro var bound declared acyclic
    rw [Env.declaredBound?_eq_some_iff] at declared
    exact ((exactly _ _).mp ((erases bound).typeVar declared acyclic)).symm

/-- A class `Node<C>` with `C extends ? extends D[]` and `D extends Node<C>`, and
a variable `A extends A[]`. -/
def circularBounds : Model :=
  (Model.new .default).model.run
    [.addGeneric "com.example.Node" .cls ["C"] none [],
      .addTypeVar ⟨"D", .cls (.ofNat 1),
        some (.parameterized (.ofNat 1) [.typeVar (.ofNat 0)])⟩,
      .defineTypeVar (.ofNat 0)
        ⟨"C", .cls (.ofNat 1),
          some (.upperBounded (.array (.typeVar (.ofNat 1))))⟩,
      .addTypeVar ⟨"A", .cls (.ofNat 1), some (.array (.typeVar (.ofNat 2)))⟩]

/-- The bound of `C` leads back to `C` inside a type argument only, so `C` is
erased like its bound.  For `A` this fails. -/
theorem erasure_is_canonical_circularBounds :
    circularBounds.env.declaredBound? (.ofNat 0) =
        some (.upperBounded (.array (.typeVar (.ofNat 1)))) ∧
      ¬ circularBounds.env.Uncovers
          (.upperBounded (.array (.typeVar (.ofNat 1)))) (.ofNat 0) ∧
      circularBounds.erasure (.typeVar (.ofNat 0)) =
        .array (.cls (.ofNat 1)) ∧
      circularBounds.erasure (.typeVar (.ofNat 2)) =
        .array circularBounds.rootTy ∧
      circularBounds.erasure (.array (.typeVar (.ofNat 2))) =
        .array (.array circularBounds.rootTy) := by
  obtain ⟨boundC, boundD, boundA⟩ :
      circularBounds.env.declaredBound? (.ofNat 0) =
          some (.upperBounded (.array (.typeVar (.ofNat 1)))) ∧
        circularBounds.env.declaredBound? (.ofNat 1) =
          some (.parameterized (.ofNat 1) [.typeVar (.ofNat 0)]) ∧
        circularBounds.env.declaredBound? (.ofNat 2) =
          some (.array (.typeVar (.ofNat 2))) := by
    decide +kernel
  have acyclic : ¬ circularBounds.env.Uncovers
      (.upperBounded (.array (.typeVar (.ofNat 1)))) (.ofNat 0) := by
    intro uncovered
    cases uncovered with
    | upperBound inWildcard =>
        cases inWildcard with
        | element inArray =>
            cases inArray with
            | through declared inBound =>
                rw [← Env.declaredBound?_eq_some_iff, boundD] at declared
                cases declared
                cases inBound
  obtain ⟨_, _, _, _, likeBound⟩ := erasure_is_canonical circularBounds .unbounded
  refine ⟨boundC, acyclic, ?_, ?_, ?_⟩
  · rw [likeBound _ _ boundC acyclic]
    simp [erasure, Env.erasure, Env.erase, boundD, Ty.dropArgs]
  · simp [erasure, Env.erasure, Env.erase, boundA]
    rfl
  · simp [erasure, Env.erasure, Env.erase, boundA]
    rfl

end Model

end JavaTypes
