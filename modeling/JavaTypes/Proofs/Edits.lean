import JavaTypes.Model.Operation
import Mathlib.Logic.Relation

/-!
# What operations do to a model

Whatever an operation is called with, and whether it succeeds or fails, it
changes a model by a few kinds of edits: reserve a class, install a definition,
allocate or redefine a type variable, keep a parameterized node.  Each edit
states the conditions under which operations make it, so a property of all
reachable models needs one look at each kind of edit.
-/

namespace JavaTypes

namespace Model

/-- One change that operations make to a model, with what was checked before. -/
inductive Edit : Model → Model → Prop where
  | reserve {model : Model} {name : String}
      (free : model.names.find? name = none) :
      Edit model
        { model with
          classes := model.classes.push (.bare name .cls)
          names := model.names.insert name (.ofNat model.classes.size) }
  | install {model : Model} {id : ClassId} {definition : ClassDef}
      (checked : ∀ type ∈ definition.supertypes, type.classId?.isSome = true)
      (named : model.names.find? definition.name = some id ∨
        model.names.find? definition.name = none ∧
          (model.classDef? id).isSome = true)
      (fixed : ∀ narrowed, model.narrowedArity? id = some narrowed →
        narrowed = definition.arity) :
      Edit model
        { model with
          names := model.renamed id definition.name
          classes := model.classes.setIfInBounds id.toNat definition }
  | allocate (model : Model) (definition : TypeVarDef) :
      Edit model { model with typeVars := model.typeVars.push definition }
  | redefine {model : Model} {var : TypeVarId} (definition : TypeVarDef)
      (known : (model.typeVarDef? var).isSome = true) :
      Edit model
        { model with
          typeVars := model.typeVars.setIfInBounds var.toNat definition }
  | keep {model : Model} {node : ParameterizedTy} {definition : ClassDef}
      (declared : model.classDef? node.erasure = some definition)
      (generic : definition.arity ≠ 0)
      (sameArity : node.args.length = definition.arity)
      (fresh : node ∉ model.interned.toList) :
      Edit model { model with interned := model.interned.insert node }

/-- Any number of edits, one after the other. -/
abbrev Edits : Model → Model → Prop :=
  Relation.ReflTransGen Edit

/-- A property that each edit keeps is kept by any number of edits. -/
theorem Edits.invariant
    {property : Model → Prop}
    (preserved : ∀ {before after}, Edit before after →
      property before → property after)
    {before after : Model} (edits : Edits before after)
    (start : property before) : property after := by
  induction edits with
  | refl => exact start
  | tail _ edit inductionHypothesis =>
      exact preserved edit inductionHypothesis

/-! ## Lookups after a change -/

/-- A table that grows at its end keeps what it holds. -/
theorem classDef?_of_push
    {model : Model} {id : ClassId} {definition added : ClassDef}
    {names : NameTable}
    (declared : model.classDef? id = some definition) :
    ({ model with
        classes := model.classes.push added, names := names } : Model).classDef?
      id = some definition := by
  obtain ⟨inside, _⟩ := Array.getElem?_eq_some_iff.mp declared
  have differs : id.toNat ≠ model.classes.size := Nat.ne_of_lt inside
  simpa [classDef?, Array.getElem?_push, differs] using declared

theorem classDef?_setIfInBounds (model : Model) (names : NameTable)
    (id other : ClassId) (definition : ClassDef) :
    ({ model with
        names := names
        classes := model.classes.setIfInBounds id.toNat definition } :
          Model).classDef? other =
      if other = id then (model.classDef? id).map fun _ => definition
      else model.classDef? other := by
  by_cases same : other = id
  · subst same
    by_cases inside : other.toNat < model.classes.size <;>
      simp [classDef?, inside]
  · have differs : id.toNat ≠ other.toNat := by
      simpa [ClassId.toNat_inj] using Ne.symm same
    simp [classDef?, same, differs]

/-- Redefining a variable changes what the environment knows about that
variable, and nothing else. -/
theorem env_defineTypeVar
    {model : Model} {var : TypeVarId}
    (known : (model.typeVarDef? var).isSome = true)
    (definition : TypeVarDef) :
    (model.defineTypeVar var definition).model.env =
      { model.env with
        typeVarDef? := fun other =>
          if other = var then some definition else model.typeVarDef? other } := by
  have inside : var.toNat < model.typeVars.size := by
    simpa [typeVarDef?] using known
  have found : (model.typeVarDef? var).isNone = false := by
    simpa using known
  have lookups :
      (fun other : TypeVarId =>
          (model.typeVars.setIfInBounds var.toNat definition)[other.toNat]?) =
        fun other =>
          if other = var then some definition else model.typeVarDef? other := by
    funext other
    by_cases same : other = var
    · subst same
      simp [inside]
    · have differs : var.toNat ≠ other.toNat := by
        simpa [TypeVarId.toNat_inj] using Ne.symm same
      simp [same, differs, typeVarDef?]
  rw [← lookups]
  simp only [defineTypeVar, found]
  rfl

/-- Narrowing changes nothing but the nodes. -/
theorem exists_model_narrowClass (model : Model) (id : ClassId)
    (args : List Ty) :
    ∃ interned, (model.narrowClass id args).model =
      { model with interned := interned } := by
  unfold narrowClass
  split
  · exact ⟨model.interned, rfl⟩
  · split
    · exact ⟨model.interned, rfl⟩
    · split
      · exact ⟨model.interned, rfl⟩
      · simp only [Traced.map, internNode]
        split
        · exact ⟨model.interned, rfl⟩
        · exact ⟨model.interned.insert ⟨id, args⟩, rfl⟩

theorem env_narrowClass (model : Model) (id : ClassId) (args : List Ty) :
    (model.narrowClass id args).model.env = model.env := by
  obtain ⟨interned, sameModel⟩ := exists_model_narrowClass model id args
  rw [sameModel]
  rfl

theorem env_narrow (model : Model) (type : Ty) (args : List Ty) :
    (model.narrow type args).model.env = model.env := by
  unfold narrow
  split
  · rfl
  · exact env_narrowClass model _ args

/-! ## The edits of each operation -/

private theorem edits_internClass (model : Model) (name : String) :
    Edits model (model.internClass name).1 := by
  unfold internClass
  cases free : model.names.find? name with
  | some id => exact .refl
  | none => exact .single (.reserve free)

/-- A class that was reserved is found by its name. -/
theorem find?_internClass (model : Model) (name : String) :
    (model.internClass name).1.names.find? name =
      some (model.internClass name).2 := by
  unfold internClass
  cases bound : model.names.find? name with
  | some id => exact bound
  | none => simp

theorem classId?_isSome_of_checkSupertypes
    {model : Model} {definition : ClassDef}
    (checked : model.checkSupertypes definition = .ok ()) :
    ∀ type ∈ definition.supertypes, type.classId?.isSome = true := by
  intro type member
  unfold checkSupertypes at checked
  split at checked
  · cases checked
  · rename_i noneRefused
    have accepted := List.find?_eq_none.mp noneRefused type member
    simpa [Option.isSome_iff_ne_none] using accepted

theorem edits_install
    {model : Model} {id : ClassId} {definition : ClassDef}
    (checked : ∀ type ∈ definition.supertypes, type.classId?.isSome = true)
    (named : model.names.find? definition.name = some id ∨
      model.names.find? definition.name = none ∧
        (model.classDef? id).isSome = true) :
    Edits model (model.install id definition).model := by
  unfold install
  split
  · rename_i unused
    exact .single (.install checked named (by simp [unused]))
  · rename_i narrowed used
    split
    · rename_i sameArity
      exact .single (.install checked named (by simp [used, sameArity]))
    · exact .refl

theorem edits_defineClass (model : Model) (id : ClassId)
    (definition : ClassDef) :
    Edits model (model.defineClass id definition).model := by
  unfold defineClass
  split
  · exact .refl
  · rename_i known
    have allocated : (model.classDef? id).isSome = true := by
      simpa [Option.isSome_iff_ne_none] using known
    split
    · exact .refl
    · rename_i accepted
      have checked := classId?_isSome_of_checkSupertypes accepted
      split
      · rename_i free
        exact edits_install checked (Or.inr ⟨free, allocated⟩)
      · rename_i existing bound
        split
        · rename_i same
          exact edits_install checked (Or.inl (same ▸ bound))
        · exact .refl

private theorem edits_addClass (model : Model) (definition : ClassDef) :
    Edits model (model.addClass definition).model := by
  unfold addClass
  split
  · exact .refl
  · rename_i accepted
    have checked := classId?_isSome_of_checkSupertypes accepted
    exact (edits_internClass model definition.name).trans
      (edits_install checked (Or.inl (find?_internClass model _)))

private theorem edits_defineTypeVar (model : Model) (var : TypeVarId)
    (definition : TypeVarDef) :
    Edits model (model.defineTypeVar var definition).model := by
  unfold defineTypeVar
  split
  · exact .refl
  · rename_i known
    refine .single (.redefine definition ?_)
    simpa [Option.isSome_iff_ne_none] using known

theorem edits_addTypeParams (model : Model) (owner : ClassId)
    (names : List String) :
    Edits model (model.addTypeParams owner names).model := by
  induction names generalizing model with
  | nil => exact .refl
  | cons name names inductionHypothesis =>
      exact (Relation.ReflTransGen.single (.allocate model _)).trans
        (inductionHypothesis _)

private theorem edits_addGeneric (model : Model) (name : String)
    (kind : ClassKind) (params : List String) (superClass : Option Ty)
    (interfaces : List Ty) :
    Edits model
      (model.addGeneric name kind params superClass interfaces).model :=
  ((edits_internClass model name).trans
    (edits_addTypeParams _ _ params)).trans (edits_defineClass _ _ _)

theorem edits_narrowClass (model : Model) (id : ClassId) (args : List Ty) :
    Edits model (model.narrowClass id args).model := by
  unfold narrowClass
  split
  · exact .refl
  · rename_i definition declared
    split
    · exact .refl
    · rename_i sameArity
      split
      · exact .refl
      · rename_i generic
        simp only [Traced.map, internNode]
        split
        · exact .refl
        · rename_i fresh
          rw [NodeTable.contains_iff] at fresh
          exact .single (.keep declared generic (by simpa using sameArity) fresh)

private theorem edits_narrow (model : Model) (type : Ty) (args : List Ty) :
    Edits model (model.narrow type args).model := by
  unfold narrow
  split
  · exact .refl
  · exact edits_narrowClass model _ args

theorem edits_perform (model : Model) (operation : Operation) :
    Edits model (model.perform operation) := by
  cases operation with
  | internClass name => exact edits_internClass model name
  | defineClass id definition => exact edits_defineClass model id definition
  | addClass definition => exact edits_addClass model definition
  | addTypeVar definition => exact .single (.allocate model definition)
  | defineTypeVar var definition => exact edits_defineTypeVar model var definition
  | addGeneric name kind params superClass interfaces =>
      exact edits_addGeneric model name kind params superClass interfaces
  | narrow type args => exact edits_narrow model type args
  | narrowClass id args => exact edits_narrowClass model id args

theorem edits_run (model : Model) (operations : List Operation) :
    Edits model (model.run operations) := by
  induction operations generalizing model with
  | nil => exact .refl
  | cons operation operations inductionHypothesis =>
      exact (edits_perform model operation).trans (inductionHypothesis _)

/-! ## Answers of narrowing -/

private theorem mem_interned_internNode (model : Model)
    (node : ParameterizedTy) :
    node ∈ (model.internNode node).model.interned.toList := by
  unfold internNode
  split
  · rename_i present
    exact (NodeTable.contains_iff _ _).mp present
  · simp

theorem answer_internNode (model : Model) (node : ParameterizedTy) :
    (model.internNode node).answer = node.toTy := by
  unfold internNode
  split <;> rfl

theorem answer_narrow_cls
    {model : Model} {id : ClassId} {definition : ClassDef} {args : List Ty}
    (declared : model.classDef? id = some definition)
    (sameArity : args.length = definition.arity)
    (generic : definition.arity ≠ 0) :
    (model.narrow (.cls id) args).answer = .ok (.parameterized id args) := by
  simp [narrow, Ty.classId?, narrowClass, declared, sameArity, generic,
    Traced.map, answer_internNode, ParameterizedTy.toTy]

/-- A class that is applied to arguments declares as many parameters.  The
answer is the class itself when there are none, and else a node that the model
keeps. -/
theorem declared_of_narrowClass
    {model : Model} {id : ClassId} {args : List Ty} {result : Ty}
    (answered : (model.narrowClass id args).answer = .ok result) :
    ∃ definition, model.classDef? id = some definition ∧
      args.length = definition.arity ∧
        (definition.arity = 0 ∧ result = .cls id ∨
          definition.arity ≠ 0 ∧ result = .parameterized id args ∧
            ⟨id, args⟩ ∈
              (model.narrowClass id args).model.interned.toList) := by
  unfold narrowClass at answered ⊢
  split at answered
  · cases answered
  · rename_i definition declared
    split at answered
    · cases answered
    · rename_i sameArity
      refine ⟨definition, declared, by simpa using sameArity, ?_⟩
      split at answered
      · rename_i plain
        cases answered
        exact Or.inl ⟨plain, rfl⟩
      · rename_i generic
        simp only [Traced.map, answer_internNode, Except.ok.injEq] at answered
        refine Or.inr ⟨generic, answered.symm, ?_⟩
        rw [if_neg sameArity, if_neg generic]
        exact mem_interned_internNode model ⟨id, args⟩

theorem narrow_eq_narrowClass
    {model : Model} {type result : Ty} {args : List Ty}
    (answered : (model.narrow type args).answer = .ok result) :
    ∃ id, type.classId? = some id ∧
      model.narrow type args = model.narrowClass id args := by
  unfold narrow at answered ⊢
  cases found : type.classId? with
  | none =>
      rw [found] at answered
      cases answered
  | some id => exact ⟨id, rfl, rfl⟩

end Model

end JavaTypes
