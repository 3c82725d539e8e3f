import JavaTypes.Proofs.Edits

/-!
# How a fresh model is set up

A fresh model starts with its root alone.  The skeleton is added by setup steps:
reserve a class, allocate a variable without a bound, keep a node, give a class
its shape.  No operation checks them, but what they store is flat: a class, raw
or applied to classes and variables.

A reachable model is a fresh one after edits, so a property of all reachable
models needs one look at the model of the root alone, at each kind of setup
step, and at each kind of edit.
-/

namespace JavaTypes

namespace Ty

/-- The type is a class without arguments or a variable. -/
def isAtom : Ty → Bool
  | .cls _ => true
  | .typeVar _ => true
  | _ => false

/-- The type is a class, raw or applied to classes and variables. -/
def isFlatClass (type : Ty) : Bool :=
  type.classId?.isSome && type.args.all isAtom

theorem isSome_classId?_of_isFlatClass
    {type : Ty} (flat : type.isFlatClass = true) :
    type.classId?.isSome = true := by
  simp only [isFlatClass, Bool.and_eq_true] at flat
  exact flat.1

end Ty

namespace Model

/-- One step of setting up a model. -/
inductive Setup : Model → Model → Prop where
  | reserve {model : Model} {name : String}
      (free : model.names.find? name = none) :
      Setup model
        { model with
          classes := model.classes.push (.bare name .cls)
          names := model.names.insert name (.ofNat model.classes.size) }
  | allocate (model : Model) (name : String) (owner : TypeVarOwner) :
      Setup model
        { model with typeVars := model.typeVars.push ⟨name, owner, none⟩ }
  | keep {model : Model} {node : ParameterizedTy}
      (flat : node.args.all Ty.isAtom = true)
      (fresh : node ∉ model.interned.toList) :
      Setup model { model with interned := model.interned.insert node }
  | reshape {model : Model} {id : ClassId} {change : ClassDef → ClassDef}
      (sameName : ∀ definition, (change definition).name = definition.name)
      (flat : ∀ definition, ∀ type ∈ (change definition).supertypes,
        type.isFlatClass = true) :
      Setup model
        { model with classes := model.classes.modify id.toNat change }

abbrev Setups : Model → Model → Prop :=
  Relation.ReflTransGen Setup

/-! ## The steps of the skeleton -/

private theorem setups_internClass (model : Model) (name : String) :
    Setups model (model.internClass name).1 := by
  unfold internClass
  cases free : model.names.find? name with
  | some id => exact .refl
  | none => exact .single (.reserve free)

private theorem setups_internClasses (model : Model) (names : List String) :
    Setups model (model.internClasses names) := by
  induction names generalizing model with
  | nil => exact .refl
  | cons name names inductionHypothesis =>
      exact (setups_internClass model name).trans (inductionHypothesis _)

private theorem setups_addTypeParams (model : Model) (owner : ClassId)
    (names : List String) :
    Setups model (model.addTypeParams owner names).model := by
  induction names generalizing model with
  | nil => exact .refl
  | cons name names inductionHypothesis =>
      have first : Setups model
          (model.addTypeVar ⟨name, .cls owner, none⟩).model :=
        .single (.allocate model name (.cls owner))
      exact first.trans (inductionHypothesis _)

private theorem setups_internNode
    (model : Model) {node : ParameterizedTy}
    (flat : node.args.all Ty.isAtom = true) :
    Setups model (model.internNode node).model := by
  unfold internNode
  split
  · exact .refl
  · rename_i fresh
    rw [NodeTable.contains_iff] at fresh
    exact .single (.keep flat fresh)

private theorem setups_skeletonSupertype (model : Model) (owner : ClassId)
    (typeParams : List TypeVarId) (supertype : SkeletonSupertype) :
    Setups model (model.skeletonSupertype owner typeParams supertype).model ∧
      (model.skeletonSupertype owner typeParams
        supertype).answer.isFlatClass = true := by
  cases supertype with
  | root => exact ⟨.refl, rfl⟩
  | plain name => exact ⟨setups_internClass model name, rfl⟩
  | ofSelf name =>
      have reserves := setups_internClass model name
      simp only [skeletonSupertype]
      constructor
      · exact reserves.trans (setups_internNode _ rfl)
      · rw [answer_internNode]
        rfl
  | ofParams name =>
      have reserves := setups_internClass model name
      have flat : (typeParams.map Ty.typeVar).all Ty.isAtom = true := by
        simp [Ty.isAtom]
      simp only [skeletonSupertype]
      constructor
      · exact reserves.trans (setups_internNode _ flat)
      · rw [answer_internNode]
        exact flat

private theorem setups_skeletonSupertypes (model : Model) (owner : ClassId)
    (typeParams : List TypeVarId) (supertypes : List SkeletonSupertype) :
    Setups model (model.skeletonSupertypes owner typeParams supertypes).model ∧
      ∀ type ∈ (model.skeletonSupertypes owner typeParams supertypes).answer,
        type.isFlatClass = true := by
  induction supertypes generalizing model with
  | nil => exact ⟨.refl, by simp [skeletonSupertypes]⟩
  | cons first rest inductionHypothesis =>
      obtain ⟨firstSteps, firstFlat⟩ :=
        setups_skeletonSupertype model owner typeParams first
      obtain ⟨restSteps, restFlat⟩ := inductionHypothesis
        (model.skeletonSupertype owner typeParams first).model
      refine ⟨firstSteps.trans restSteps, ?_⟩
      intro type member
      rcases List.mem_cons.mp member with rfl | later
      · exact firstFlat
      · exact restFlat type later

private theorem setups_setShape (model : Model) (shape : SkeletonClass) :
    Setups model (model.setShape shape).model := by
  simp only [setShape, Traced.andThen]
  generalize internEq : model.internClass shape.name = interned
  obtain ⟨reserved, id⟩ := interned
  have reserves : Setups model reserved := by
    have steps := setups_internClass model shape.name
    rw [internEq] at steps
    exact steps
  have allocates := setups_addTypeParams reserved id shape.params
  obtain ⟨superSteps, superFlat⟩ :=
    setups_skeletonSupertypes (reserved.addTypeParams id shape.params).model id
      (reserved.addTypeParams id shape.params).answer shape.superClass.toList
  obtain ⟨interfaceSteps, interfacesFlat⟩ :=
    setups_skeletonSupertypes _ id
      (reserved.addTypeParams id shape.params).answer shape.interfaces
  refine (((reserves.trans allocates).trans superSteps).trans
    interfaceSteps).tail (.reshape (fun _ => rfl) ?_)
  intro definition type member
  rcases List.mem_append.mp member with isSuper | isInterface
  · exact superFlat type
      (List.mem_of_mem_head? (Option.mem_toList.mp isSuper))
  · exact interfacesFlat type isInterface

private theorem setups_setShapes (model : Model) (shapes : List SkeletonClass) :
    Setups model (model.setShapes shapes).model := by
  induction shapes generalizing model with
  | nil => exact .refl
  | cons first rest inductionHypothesis =>
      exact (setups_setShape model first).trans (inductionHypothesis _)

theorem model_andThen_report (first : Traced Unit) (report : Model → List Event) :
    (first.andThen fun model _ => ⟨model, report model, ()⟩).model =
      first.model :=
  rfl

theorem setups_new (config : Config) :
    Setups (rootOnly config) (Model.new config).model := by
  unfold Model.new
  cases config.bootstrap with
  | rootOnly => exact .refl
  | javaLang =>
      have reserves := setups_internClasses (rootOnly config) skeletonNames
      rw [installSkeleton, model_andThen_report]
      exact reserves.trans (setups_setShapes _ skeletonClasses)

/-! ## Properties of all reachable models -/

theorem invariant_new
    {property : Model → Prop}
    (start : ∀ config, property (rootOnly config))
    (setUp : ∀ {before after}, Setup before after →
      property before → property after)
    (config : Config) : property (Model.new config).model := by
  have steps := setups_new config
  generalize (Model.new config).model = fresh at steps
  induction steps with
  | refl => exact start config
  | tail _ step inductionHypothesis => exact setUp step inductionHypothesis

theorem Reachable.invariant
    {property : Model → Prop}
    (start : ∀ config, property (rootOnly config))
    (setUp : ∀ {before after}, Setup before after →
      property before → property after)
    (edited : ∀ {before after}, Edit before after →
      property before → property after)
    {model : Model} (reachable : model.Reachable) : property model := by
  obtain ⟨config, operations, rfl⟩ := reachable
  have fresh : property (Model.new config).model :=
    invariant_new start setUp config
  exact (edits_run _ operations).invariant edited fresh

end Model

end JavaTypes
