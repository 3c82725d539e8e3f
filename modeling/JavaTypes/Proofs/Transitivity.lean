import JavaTypes.Model.Skeleton
import JavaTypes.Proofs.Containment

/-!
# Assignability chains

If one type accepts a second and the second accepts a third, the first accepts
the third.  Three things break such a chain and are kept out here:

* unchecked raw conversion, since a raw class stands between any two of its
  parameterizations;
* a root with supertypes of its own, since the root accepts everything;
* type variables, and the wildcard `? super` of the root, which meets `?`.

The induction is on the sizes of all three types together, because a lower bound
turns the three of them around.
-/

namespace JavaTypes

/-! ## Parts of a type -/

mutual

/-- A type and all types inside it. -/
def Ty.parts : Ty → List Ty
  | .array element => .array element :: Ty.parts element
  | .parameterized erasure args =>
      .parameterized erasure args :: Ty.partsList args
  | .upperBounded bound => .upperBounded bound :: Ty.parts bound
  | .lowerBounded bound => .lowerBounded bound :: Ty.parts bound
  | type => [type]

/-- The types of a list and all types inside them. -/
def Ty.partsList : List Ty → List Ty
  | [] => []
  | head :: tail => Ty.parts head ++ Ty.partsList tail

end

private theorem Ty.self_mem_parts (type : Ty) : type ∈ type.parts := by
  cases type <;> simp [Ty.parts]

private theorem Ty.parts_subset_partsList
    {type : Ty} {types : List Ty} (member : type ∈ types) :
    type.parts ⊆ Ty.partsList types := by
  induction types with
  | nil => cases member
  | cons head tail inductionHypothesis =>
      intro part inside
      rw [Ty.partsList, List.mem_append]
      rcases List.mem_cons.mp member with rfl | later
      · exact Or.inl inside
      · exact Or.inr (inductionHypothesis later inside)

/-! ## Containment -/

/-- Containment chains where its relation does, unless a lower bound is the
root. -/
theorem Argument.Contains.trans
    {root : Ty} {relation : Ty → Ty → Prop} {target middle source : Argument}
    (first : target.Contains root relation middle)
    (second : middle.Contains root relation source)
    (targetBound : target ≠ .lower root)
    (middleBound : middle ≠ .lower root)
    (sourceBound : source ≠ .lower root)
    (forward : relation target.content middle.content →
      relation middle.content source.content →
        relation target.content source.content)
    (backward : relation source.content middle.content →
      relation middle.content target.content →
        relation source.content target.content) :
    target.Contains root relation source := by
  cases target with
  | exact type =>
      cases middle with
      | exact type' =>
          have same : type = type' := first
          rw [same]
          exact second
      | upper bound' => exact first.elim
      | lower bound' => exact first.elim
  | upper bound =>
      cases middle with
      | exact type' =>
          cases source with
          | exact type'' =>
              have same : type' = type'' := second
              rw [← same]
              exact first
          | upper bound'' => exact second.elim
          | lower bound'' => exact second.elim
      | upper bound' =>
          cases source with
          | exact type'' => exact forward first second
          | upper bound'' => exact forward first second
          | lower bound'' =>
              have atRoot : bound'' = root := second.2
              exact absurd (atRoot ▸ rfl) sourceBound
      | lower bound' =>
          have atRoot : bound' = root := first.2
          exact absurd (atRoot ▸ rfl) middleBound
  | lower bound =>
      cases middle with
      | exact type' =>
          cases source with
          | exact type'' =>
              have same : type' = type'' := second
              rw [← same]
              exact first
          | upper bound'' => exact second.elim
          | lower bound'' => exact second.elim
      | upper bound' =>
          have atRoot : bound = root := first.1
          exact absurd (atRoot ▸ rfl) targetBound
      | lower bound' =>
          cases source with
          | exact type'' => exact backward second first
          | upper bound'' =>
              have atRoot : bound' = root := second.1
              exact absurd (atRoot ▸ rfl) middleBound
          | lower bound'' => exact backward second first

namespace Env

/-! ## Closed types -/

/-- No type variable and no wildcard `? super` of the root stands in the type,
at any depth. -/
structure Closed (env : Env) (type : Ty) : Prop where
  noVariable : ∀ var, .typeVar var ∉ type.parts
  noSuperRoot : .lowerBounded env.rootTy ∉ type.parts

theorem Closed.of_subset
    {env : Env} {part whole : Ty} (closed : env.Closed whole)
    (subset : part.parts ⊆ whole.parts) : env.Closed part where
  noVariable var inside := closed.noVariable var (subset inside)
  noSuperRoot inside := closed.noSuperRoot (subset inside)

private theorem Closed.ne_typeVar
    {env : Env} {type : Ty} (closed : env.Closed type) (var : TypeVarId) :
    type ≠ .typeVar var := by
  rintro rfl
  exact closed.noVariable var (Ty.self_mem_parts _)

theorem Closed.element
    {env : Env} {element : Ty} (closed : env.Closed (.array element)) :
    env.Closed element :=
  closed.of_subset (by simp [Ty.parts])

theorem Closed.arg
    {env : Env} {erasure : ClassId} {args : List Ty} {arg : Ty}
    (closed : env.Closed (.parameterized erasure args))
    (member : arg ∈ args) : env.Closed arg := by
  refine closed.of_subset fun part inside => ?_
  have inArgs : part ∈ Ty.partsList args :=
    Ty.parts_subset_partsList member inside
  rw [Ty.parts]
  exact List.mem_cons_of_mem _ inArgs

theorem Closed.content
    {env : Env} {arg : Ty} (closed : env.Closed arg) :
    env.Closed (env.argument arg).content := by
  cases arg with
  | unbounded =>
      constructor <;> simp [argument, Argument.content, rootTy, Ty.parts]
  | upperBounded bound =>
      exact closed.of_subset (by simp [argument, Argument.content, Ty.parts])
  | lowerBounded bound =>
      exact closed.of_subset (by simp [argument, Argument.content, Ty.parts])
  | _ => exact closed

private theorem Closed.argument_ne_lower
    {env : Env} {arg : Ty} (closed : env.Closed arg) :
    env.argument arg ≠ .lower env.rootTy := by
  intro view
  have shape : arg = .lowerBounded env.rootTy := by
    cases arg <;> simp_all [argument]
  subst shape
  exact closed.noSuperRoot (Ty.self_mem_parts _)

/-! ## What a type accepts -/

/-- A reference type accepts reference types only. -/
private theorem isReference_of_isAssignable
    {env : Env} {target source : Ty}
    (reference : target.isReference = true)
    (accepted : env.isAssignable target source = true) :
    source.isReference = true := by
  cases via_of_accepts accepted with
  | same => exact reference
  | root sourceReference => exact sourceReference
  | cls sourceClass _ => exact Ty.isReference_of_classId? sourceClass
  | _ => rfl

/-- A class other than the root accepts no closed type but classes below it, raw
or parameterized. -/
private theorem isSubclass_of_isAssignable
    {env : Env} {sup : ClassId} {source : Ty} (closed : env.Closed source)
    (notRoot : sup ≠ env.root)
    (accepted : env.isAssignable (.cls sup) source = true) :
    ∃ sub, source.classId? = some sub ∧ env.isSubclass sub sup = true := by
  generalize targetShape : Ty.cls sup = target at accepted
  cases via_of_accepts accepted with
  | same =>
      subst targetShape
      exact ⟨sup, rfl, by simp [isSubclass]⟩
  | root _ =>
      have atRoot : sup = env.root := Ty.cls.inj targetShape
      exact absurd atRoot notRoot
  | typeVar _ _ _ _ => exact absurd rfl (closed.ne_typeVar _)
  | cls sourceClass subclass =>
      cases targetShape
      exact ⟨_, sourceClass, subclass⟩
  | array _ | raw _ | args _ => cases targetShape

theorem isAssignable_array_iff
    {env : Env} {element source : Ty} (closed : env.Closed source) :
    env.isAssignable (.array element) source = true ↔
      ∃ element', source = .array element' ∧
        env.isAssignable element element' = true := by
  constructor
  · intro accepted
    cases source with
    | array element' =>
        rw [isAssignable, accepts_array_array] at accepted
        exact ⟨element', rfl, accepted⟩
    | typeVar var => exact absurd rfl (closed.ne_typeVar var)
    | _ => simp [isAssignable, accepts_array_of_ne] at accepted
  · rintro ⟨element', rfl, accepted⟩
    rw [isAssignable, accepts_array_array]
    exact accepted

private theorem isAssignable_parameterized_source
    {env : Env} (checked : env.uncheckedRaw = false)
    {erasure : ClassId} {args : List Ty} {source : Ty}
    (closed : env.Closed source)
    (accepted : env.isAssignable (.parameterized erasure args) source = true) :
    ∃ args', source = .parameterized erasure args' := by
  generalize targetShape : Ty.parameterized erasure args = target at accepted
  cases via_of_accepts accepted with
  | same => exact ⟨args, targetShape.symm⟩
  | typeVar _ _ _ _ => exact absurd rfl (closed.ne_typeVar _)
  | raw converts => simp [convertsRaw, checked] at converts
  | @args _ _ args' _ =>
      cases targetShape
      exact ⟨args', rfl⟩
  | root _ | array _ | cls _ _ => cases targetShape

/-! ## Chains -/

theorem withoutRaw_eq_self
    {env : Env} (checked : env.uncheckedRaw = false) :
    env.withoutRaw = env := by
  rw [withoutRaw, ← checked]

/-- Chains hold for closed types whose sizes add up to less than the bound. -/
def ChainsBelow (env : Env) (bound : Nat) : Prop :=
  ∀ {target middle source : Ty},
    target.size + middle.size + source.size < bound →
    env.Closed target → env.Closed middle → env.Closed source →
    env.isAssignable target middle = true →
    env.isAssignable middle source = true →
      env.isAssignable target source = true

theorem ChainsBelow.contained
    {env : Env} {bound : Nat} (chains : env.ChainsBelow bound)
    (checked : env.uncheckedRaw = false)
    {target middle source : Ty}
    (small : target.size + middle.size + source.size < bound)
    (targetClosed : env.Closed target) (middleClosed : env.Closed middle)
    (sourceClosed : env.Closed source)
    (first : env.Contained target middle)
    (second : env.Contained middle source) :
    env.Contained target source := by
  have targetSize := env.size_content_argument_le target
  have middleSize := env.size_content_argument_le middle
  have sourceSize := env.size_content_argument_le source
  rw [Contained, containsArg_iff, withoutRaw_eq_self checked]
    at first second ⊢
  refine first.trans second targetClosed.argument_ne_lower
    middleClosed.argument_ne_lower sourceClosed.argument_ne_lower ?_ ?_
  · exact chains (by omega) targetClosed.content middleClosed.content
      sourceClosed.content
  · exact chains (by omega) sourceClosed.content middleClosed.content
      targetClosed.content

private theorem ChainsBelow.containedArgs
    {env : Env} {bound : Nat} (chains : env.ChainsBelow bound)
    (checked : env.uncheckedRaw = false)
    {targets middles sources : List Ty}
    (small : Ty.sizeList targets + Ty.sizeList middles +
      Ty.sizeList sources < bound)
    (targetsClosed : ∀ arg ∈ targets, env.Closed arg)
    (middlesClosed : ∀ arg ∈ middles, env.Closed arg)
    (sourcesClosed : ∀ arg ∈ sources, env.Closed arg)
    (first : List.Forall₂ env.Contained targets middles)
    (second : List.Forall₂ env.Contained middles sources) :
    List.Forall₂ env.Contained targets sources := by
  induction first generalizing sources with
  | nil =>
      cases second
      exact .nil
  | cons head _ inductionHypothesis =>
      cases second with
      | cons head' tail' =>
          simp only [Ty.sizeList] at small
          obtain ⟨targetClosed, targetsClosed⟩ :=
            List.forall_mem_cons.mp targetsClosed
          obtain ⟨middleClosed, middlesClosed⟩ :=
            List.forall_mem_cons.mp middlesClosed
          obtain ⟨sourceClosed, sourcesClosed⟩ :=
            List.forall_mem_cons.mp sourcesClosed
          have headContained :=
            chains.contained checked (by omega) targetClosed middleClosed
              sourceClosed head head'
          have tailContained :=
            inductionHypothesis (by omega) targetsClosed middlesClosed
              sourcesClosed tail'
          exact .cons headContained tailContained

/-- One step: what the rule behind the first link of a chain makes of the second
link. -/
theorem ChainsBelow.step
    {env : Env} (checked : env.uncheckedRaw = false)
    (bare : env.parents env.root = [])
    {target middle source : Ty}
    (chains : env.ChainsBelow (target.size + middle.size + source.size))
    (targetClosed : env.Closed target) (middleClosed : env.Closed middle)
    (sourceClosed : env.Closed source)
    (first : env.isAssignable target middle = true)
    (second : env.isAssignable middle source = true) :
    env.isAssignable target source = true := by
  cases via_of_accepts first with
  | same => exact second
  | root reference =>
      have sourceReference := isReference_of_isAssignable reference second
      exact accepts_root env [] .topLevel sourceReference
  | typeVar _ _ _ _ => exact absurd rfl (middleClosed.ne_typeVar _)
  | @array element element' elements =>
      obtain ⟨element'', rfl, elements'⟩ :=
        (isAssignable_array_iff sourceClosed).mp second
      have accepted : env.isAssignable element element'' = true :=
        chains (by simp only [Ty.size]; omega) targetClosed.element
          middleClosed.element sourceClosed.element elements elements'
      exact (isAssignable_array_iff sourceClosed).mpr ⟨element'', rfl, accepted⟩
  | @cls sup sub _ middleClass subclass =>
      cases middle with
      | cls middleId =>
          cases middleClass
          by_cases middleRoot : sub = env.root
          · -- Only the root lies above a root without supertypes.
            subst middleRoot
            have atRoot : sup = env.root :=
              (isSubclass_root_iff bare sup).mp subclass
            rw [atRoot]
            exact second
          · obtain ⟨low, sourceClass, below⟩ :=
              isSubclass_of_isAssignable sourceClosed middleRoot second
            have chained := isSubclass_trans bare below subclass
            exact accepts_of_via (.cls sourceClass chained)
      | parameterized erasure args =>
          cases middleClass
          obtain ⟨args', rfl⟩ :=
            isAssignable_parameterized_source checked sourceClosed second
          exact accepts_of_via (.cls rfl subclass)
      | _ => cases middleClass
  | raw converts => simp [convertsRaw, checked] at converts
  | @args erasure args args' _ =>
      obtain ⟨args'', rfl⟩ :=
        isAssignable_parameterized_source checked sourceClosed second
      rw [isAssignable_parameterized] at first second ⊢
      have contained :=
        chains.containedArgs checked (by simp only [Ty.size]; omega)
          (fun _ member => targetClosed.arg member)
          (fun _ member => middleClosed.arg member)
          (fun _ member => sourceClosed.arg member) first.2 second.2
      exact ⟨rfl, contained⟩

theorem chainsBelow
    {env : Env} (checked : env.uncheckedRaw = false)
    (bare : env.parents env.root = []) (bound : Nat) :
    env.ChainsBelow bound := by
  induction bound with
  | zero =>
      intro target middle source small
      omega
  | succ bound inductionHypothesis =>
      intro target middle source small targetClosed middleClosed sourceClosed
        first second
      have smaller :
          env.ChainsBelow (target.size + middle.size + source.size) := by
        intro target' middle' source' less
        exact inductionHypothesis (by omega)
      exact smaller.step checked bare targetClosed middleClosed sourceClosed
        first second

/-- Assignability is transitive on closed types, where raw classes are never
converted and the root declares no supertypes. -/
theorem isAssignable_trans (env : Env)
    (checked : env.uncheckedRaw = false)
    (bare : env.parents env.root = [])
    (target middle source : Ty)
    (targetClosed : env.Closed target) (middleClosed : env.Closed middle)
    (sourceClosed : env.Closed source)
    (first : env.isAssignable target middle = true)
    (second : env.isAssignable middle source = true) :
    env.isAssignable target source = true := by
  have chains :
      env.ChainsBelow (target.size + middle.size + source.size + 1) :=
    chainsBelow checked bare _
  exact chains (by omega) targetClosed middleClosed sourceClosed first second

/-- Declared subclasses are accepted whatever the environment converts. -/
private theorem isAssignable_withoutRaw_of_parent
    {env : Env} {sub sup : ClassId} (declared : sup ∈ env.parents sub) :
    env.withoutRaw.isAssignable (.cls sup) (.cls sub) = true := by
  refine accepts_of_via (.cls rfl ?_)
  have chain : env.withoutRaw.Inherits sub sup :=
    .single (mem_parents_iff.mp declared)
  exact (isSubclass_eq_true_iff _ sub sup).mpr (Or.inr (Or.inr chain))

end Env

namespace Model

/-- The skeleton of the standard library without unchecked raw conversion. -/
def checkedSkeleton : Model :=
  (Model.new ⟨"java.lang.Object", false, .javaLang⟩).model

/-- The class `java.util.List` of the skeleton applied to an argument. -/
def listOf (arg : Ty) : Ty :=
  .parameterized (.ofNat 12) [arg]

/-- `List<? extends List<? super Integer>>` accepts
`List<? extends List<? super Number>>`, which accepts
`List<List<Serializable>>`. -/
theorem isAssignable_trans_checkedSkeleton :
    checkedSkeleton.env.isAssignable
        (listOf (.upperBounded (listOf (.lowerBounded (.cls (.ofNat 8))))))
        (listOf (.upperBounded (listOf (.lowerBounded (.cls (.ofNat 7)))))) =
      true ∧
    checkedSkeleton.env.isAssignable
        (listOf (.upperBounded (listOf (.lowerBounded (.cls (.ofNat 7))))))
        (listOf (listOf (.cls (.ofNat 1)))) = true ∧
    checkedSkeleton.env.isAssignable
        (listOf (.upperBounded (listOf (.lowerBounded (.cls (.ofNat 8))))))
        (listOf (listOf (.cls (.ofNat 1)))) = true := by
  obtain ⟨checked, bare, integerIsNumber, numberIsSerializable, notRoot,
      notRoot'⟩ :
      checkedSkeleton.env.uncheckedRaw = false ∧
        checkedSkeleton.env.parents checkedSkeleton.env.root = [] ∧
        .ofNat 7 ∈ checkedSkeleton.env.parents (.ofNat 8) ∧
        .ofNat 1 ∈ checkedSkeleton.env.parents (.ofNat 7) ∧
        checkedSkeleton.env.rootTy ≠ .cls (.ofNat 7) ∧
        checkedSkeleton.env.rootTy ≠ .cls (.ofNat 8) := by
    decide +kernel
  -- From here on the model is known by these facts only.
  generalize checkedSkeleton.env = env at *
  have first :
      env.isAssignable
          (listOf (.upperBounded (listOf (.lowerBounded (.cls (.ofNat 8))))))
          (listOf (.upperBounded (listOf (.lowerBounded (.cls (.ofNat 7)))))) =
        true := by
    apply (env.isAssignable_singleton _ _ _).mpr
    refine .upper (Or.inl rfl) (Or.inl rfl) ?_
    apply (env.withoutRaw.isAssignable_singleton _ _ _).mpr
    exact .lower (Env.isAssignable_withoutRaw_of_parent integerIsNumber)
  have second :
      env.isAssignable
          (listOf (.upperBounded (listOf (.lowerBounded (.cls (.ofNat 7))))))
          (listOf (listOf (.cls (.ofNat 1)))) = true := by
    apply (env.isAssignable_singleton _ _ _).mpr
    refine .upperExact (Or.inl rfl) rfl ?_
    apply (env.withoutRaw.isAssignable_singleton _ _ _).mpr
    exact .lowerExact rfl
      (Env.isAssignable_withoutRaw_of_parent numberIsSerializable)
  refine ⟨first, second, ?_⟩
  refine Env.isAssignable_trans env checked bare _ _ _ ?_ ?_ ?_ first second
  all_goals
    constructor <;> simp [listOf, Ty.parts, Ty.partsList, notRoot, notRoot']

end Model

end JavaTypes
