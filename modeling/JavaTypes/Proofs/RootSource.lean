import JavaTypes.Proofs.Acceptance
import JavaTypes.Proofs.Edits

/-!
# The root class as the source of an assignment

The check has no rule of its own for the root on the source side: the root is
compared as any other class.  A type accepts the root exactly when it is the
root, a class that the root itself inherits from, or the root applied to
arguments while raw classes may be converted.

So the root is assignable to itself alone, among the types that can be built in
a model, exactly when its definition leaves no room for the other two.  Nothing
keeps a definition of the root from leaving it: the configured root may be a
class of the skeleton that has supertypes or type parameters.
-/

namespace JavaTypes

namespace Env

/-- The types that accept the root. -/
theorem isAssignable_rootTy_iff (env : Env) (target : Ty) :
    env.isAssignable target env.rootTy = true ↔
      target = env.rootTy ∨
        (∃ id, target = .cls id ∧ env.Inherits env.root id) ∨
          (env.uncheckedRaw = true ∧
            ∃ args, target = .parameterized env.root args) := by
  constructor
  · intro accepted
    change env.accepts [] .topLevel target (.cls env.root) = true at accepted
    cases via_of_accepts accepted with
    | same => exact Or.inl rfl
    | root _ => exact Or.inl rfl
    | @cls sup _ _ sourceClass subclass =>
        cases sourceClass
        rcases (isSubclass_eq_true_iff env _ _).mp subclass with
          rfl | rfl | chain
        · exact Or.inl rfl
        · exact Or.inl rfl
        · exact Or.inr (Or.inl ⟨sup, rfl, chain⟩)
    | @raw _ args converts =>
        exact Or.inr (Or.inr ⟨by simpa [convertsRaw] using converts, args, rfl⟩)
  · rintro (rfl | ⟨id, rfl, chain⟩ | ⟨unchecked, args, rfl⟩)
    · exact accepts_self env [] .topLevel env.rootTy
    · refine accepts_of_via (.cls rfl ?_)
      exact (isSubclass_eq_true_iff env _ _).mpr (Or.inr (Or.inr chain))
    · exact accepts_of_via (.raw (by simp [convertsRaw, unchecked]))

end Env

namespace Model

/-! ## Types that can be built -/

/-- The types that callers can build in a model from its classes and variables
by narrowing and by the checked constructors. -/
inductive Builds (model : Model) : Ty → Prop where
  | primitive (kind : Primitive) : Builds model (.primitive kind)
  | cls {id : ClassId} (declared : (model.classDef? id).isSome = true) :
      Builds model (.cls id)
  | typeVar {var : TypeVarId}
      (declared : (model.typeVarDef? var).isSome = true) :
      Builds model (.typeVar var)
  | narrow {type result : Ty} {args : List Ty}
      (generic : Builds model type)
      (arguments : ∀ arg ∈ args, Builds model arg)
      (answered : (model.narrow type args).answer = .ok result) :
      Builds model result
  | array {element result : Ty} (built : Builds model element)
      (made : element.arrayOf = .ok result) : Builds model result
  | unbounded : Builds model .unbounded
  | upperBounded {bound result : Ty} (built : Builds model bound)
      (made : bound.extendsOf = .ok result) : Builds model result
  | lowerBounded {bound result : Ty} (built : Builds model bound)
      (made : bound.superOf = .ok result) : Builds model result

/-- A class type that was built names a declared class, and a generic one if it
has arguments. -/
theorem Builds.declared
    {model : Model} {type : Ty} {id : ClassId}
    (built : model.Builds type) (shape : type.classId? = some id) :
    ∃ definition, model.classDef? id = some definition ∧
      (type.isParameterized = true → definition.arity ≠ 0) := by
  cases built with
  | cls declared =>
      cases shape
      obtain ⟨definition, declared⟩ := Option.isSome_iff_exists.mp declared
      exact ⟨definition, declared, by simp [Ty.isParameterized]⟩
  | narrow generic arguments answered =>
      obtain ⟨narrowed, _, same⟩ := narrow_eq_narrowClass answered
      rw [same] at answered
      obtain ⟨definition, declared, _, outcome⟩ :=
        declared_of_narrowClass answered
      rcases outcome with ⟨_, rfl⟩ | ⟨isGeneric, rfl, _⟩
      · cases shape
        exact ⟨definition, declared, by simp [Ty.isParameterized]⟩
      · cases shape
        exact ⟨definition, declared, fun _ => isGeneric⟩
  | array built made =>
      simp only [Ty.arrayOf] at made
      split at made <;> cases made
      cases shape
  | upperBounded built made =>
      simp only [Ty.extendsOf] at made
      split at made <;> cases made
      cases shape
  | lowerBounded built made =>
      simp only [Ty.superOf] at made
      split at made <;> cases made
      cases shape
  | _ => cases shape

/-- A generic class can be applied to as many copies of itself as it has type
parameters. -/
private theorem builds_replicate
    {model : Model} {id : ClassId} {definition : ClassDef}
    (declared : model.classDef? id = some definition)
    (generic : definition.arity ≠ 0) :
    model.Builds
      (.parameterized id (List.replicate definition.arity (.cls id))) := by
  have raw : model.Builds (.cls id) := .cls (by simp [declared])
  have answered :
      (model.narrow (.cls id)
          (List.replicate definition.arity (.cls id))).answer =
        .ok (.parameterized id
          (List.replicate definition.arity (.cls id))) :=
    answer_narrow_cls declared List.length_replicate generic
  refine .narrow raw (fun arg member => ?_) answered
  rw [List.eq_of_mem_replicate member]
  exact raw

/-! ## When the root is assignable to itself alone -/

/-- The definition of the root leaves no other type to accept it: no declared
class lies above the root, and the root has no type parameters where raw classes
may be converted. -/
structure RootAlone (model : Model) : Prop where
  inherits : ∀ id, (model.classDef? id).isSome = true →
    model.env.Inherits model.root id → id = model.root
  plain : model.config.uncheckedRawConversion = true →
    ∀ definition, model.classDef? model.root = some definition →
      definition.arity = 0

theorem RootAlone.eq_rootTy
    {model : Model} (alone : model.RootAlone) {type : Ty}
    (built : model.Builds type)
    (accepted : model.env.isAssignable type model.rootTy = true) :
    type = model.rootTy := by
  rcases (Env.isAssignable_rootTy_iff model.env type).mp accepted with
    same | ⟨id, rfl, chain⟩ | ⟨unchecked, args, rfl⟩
  · exact same
  · obtain ⟨definition, declared, _⟩ := built.declared rfl
    rw [alone.inherits id (by simp [declared]) chain]
    rfl
  · obtain ⟨definition, declared, generic⟩ := built.declared rfl
    exact absurd (alone.plain unchecked definition declared) (generic rfl)

private theorem isAssignable_rootTy_of_inherits
    {model : Model} {id : ClassId}
    (chain : model.env.Inherits model.root id) :
    model.env.isAssignable (.cls id) model.rootTy = true :=
  (Env.isAssignable_rootTy_iff model.env (.cls id)).mpr
    (Or.inr (Or.inl ⟨id, rfl, chain⟩))

private theorem rootAlone_of_forall
    {model : Model}
    (alone : ∀ type, model.Builds type →
      model.env.isAssignable type model.rootTy = true → type = model.rootTy) :
    model.RootAlone where
  inherits := by
    intro id declared chain
    have accepted := isAssignable_rootTy_of_inherits chain
    exact Ty.cls.inj (alone (.cls id) (.cls declared) accepted)
  plain := by
    intro unchecked definition declared
    by_contra generic
    have accepted :=
      (Env.isAssignable_rootTy_iff model.env _).mpr
        (Or.inr (Or.inr ⟨unchecked,
          List.replicate definition.arity (.cls model.root), rfl⟩))
    cases alone _ (builds_replicate declared generic) accepted

/-- A root without supertypes and type parameters is alone. -/
theorem rootAlone_of_bare
    {model : Model} {definition : ClassDef}
    (declared : model.classDef? model.root = some definition)
    (noSupertypes : definition.supertypes = [])
    (noParams : definition.arity = 0) : model.RootAlone where
  inherits := by
    have noParents : model.env.parents model.root = [] := by
      have declaredEnv : model.env.classDef? model.root = some definition :=
        declared
      simp [Env.parents, declaredEnv, ClassDef.parents, noSupertypes]
    intro id _ chain
    exact absurd chain (Env.not_inherits_root noParents id)
  plain := by
    intro _ definition' declared'
    rw [declared] at declared'
    cases declared'
    exact noParams

/-- Which types accept the root, exactly, and when the root itself is the only
one among the types that can be built.  A root without supertypes and type
parameters is such a one. -/
theorem root_assignable_to_itself_alone_iff (model : Model) :
    (∀ type,
      model.env.isAssignable type model.rootTy = true ↔
        type = model.rootTy ∨
          (∃ id, type = .cls id ∧ model.env.Inherits model.root id) ∨
            (model.config.uncheckedRawConversion = true ∧
              ∃ args, type = .parameterized model.root args)) ∧
      ((∀ type, model.Builds type →
          (model.env.isAssignable type model.rootTy = true ↔
            type = model.rootTy)) ↔
        model.RootAlone) ∧
      (∀ definition, model.classDef? model.root = some definition →
        definition.supertypes = [] → definition.arity = 0 →
          model.RootAlone) := by
  refine ⟨Env.isAssignable_rootTy_iff model.env, ⟨?_, ?_⟩, ?_⟩
  · intro exactly
    exact rootAlone_of_forall fun type built => (exactly type built).mp
  · intro alone type built
    refine ⟨alone.eq_rootTy built, ?_⟩
    rintro rfl
    exact Env.accepts_self model.env [] .topLevel model.rootTy
  · intro definition declared noSupertypes noParams
    exact rootAlone_of_bare declared noSupertypes noParams

/-- A fresh model whose root is the class `java.lang.String` of the skeleton. -/
def stringRoot : Model :=
  (Model.new ⟨"java.lang.String", true, .javaLang⟩).model

/-- The interface `java.io.Serializable` accepts a root that implements it. -/
theorem serializable_accepts_stringRoot :
    Config.isRootName "java.lang.String" = true ∧
      stringRoot.Reachable ∧ stringRoot.Builds (.cls (.ofNat 1)) ∧
        ¬ (stringRoot.env.isAssignable (.cls (.ofNat 1)) stringRoot.rootTy =
            true ↔
          Ty.cls (.ofNat 1) = stringRoot.rootTy) := by
  obtain ⟨above, declared, differs⟩ :
      ClassId.ofNat 1 ∈ stringRoot.env.parents stringRoot.root ∧
        (stringRoot.classDef? (.ofNat 1)).isSome = true ∧
          Ty.cls (.ofNat 1) ≠ stringRoot.rootTy := by
    decide +kernel
  have accepted := isAssignable_rootTy_of_inherits
    (.single (Env.mem_parents_iff.mp above))
  refine ⟨by decide +kernel, reachable_new _, .cls declared, ?_⟩
  intro law
  exact differs (law.mp accepted)

end Model

end JavaTypes
