import JavaTypes.Proofs.Construction

/-!
# Nodes of a fresh model

The skeleton is installed without the checks of the registering operations: a
class is given its shape and its supertypes are applied to arguments that nobody
counts.  What makes this right is the order of the table.  A row applies only
classes whose rows come before it, to as many arguments as those rows have
parameters, and no row gives a shape to a class a second time.

The order is a computable property of the table.  A fresh model therefore holds
only nodes that fit their classes, also when the root is named like one of the
rows.
-/

namespace JavaTypes

/-! ## The order of the table -/

/-- The supertype can be built for a class with `count` parameters once the rows
of `done` are in place. -/
def SkeletonSupertype.isReady (done : List SkeletonClass) (count : Nat) :
    SkeletonSupertype → Bool
  | .root => true
  | .plain name => skeletonNames.contains name
  | .ofSelf name =>
      done.any fun shape => shape.name == name && shape.params.length == 1
  | .ofParams name =>
      count != 0 &&
        done.any fun shape =>
          shape.name == name && shape.params.length == count

/-- Each row is a class of the skeleton without a shape so far, and its
supertypes can be built from the rows before it. -/
def skeletonInOrder : List SkeletonClass → List SkeletonClass → Bool
  | _, [] => true
  | done, shape :: rest =>
      skeletonNames.contains shape.name &&
        done.all (fun other => other.name != shape.name) &&
          (shape.superClass.toList ++ shape.interfaces).all
              (fun supertype =>
                supertype.isReady done shape.params.length) &&
            skeletonInOrder (shape :: done) rest

theorem skeletonInOrder_skeletonClasses :
    skeletonInOrder [] skeletonClasses = true := by
  decide +kernel

namespace Model

/-! ## Reserved names -/

/-- Every bound name is the name of the class it is bound to. -/
def Named (model : Model) : Prop :=
  ∀ name id, model.names.find? name = some id →
    ∃ definition, model.classDef? id = some definition ∧
      definition.name = name

theorem internClass_of_find?
    {model : Model} {name : String} {id : ClassId}
    (bound : model.names.find? name = some id) :
    model.internClass name = (model, id) := by
  simp [internClass, bound]

private theorem named_internClass
    {model : Model} (named : model.Named)
    (room : model.classes.size < UInt32.size) (name : String) :
    (model.internClass name).1.Named := by
  cases free : model.names.find? name with
  | some id => simpa [internClass, free] using named
  | none =>
      intro other id bound
      simp only [internClass, free, NameTable.find?_insert] at bound ⊢
      split at bound
      · rename_i same
        cases bound
        refine ⟨.bare name .cls, ?_, same.symm⟩
        simp [classDef?, ClassId.toNat_ofNat room]
      · obtain ⟨definition, declared, sameName⟩ := named other id bound
        exact ⟨definition, classDef?_of_push declared, sameName⟩

private theorem find?_internClass_of_find?
    {model : Model} {other : String} {id : ClassId}
    (bound : model.names.find? other = some id) (name : String) :
    (model.internClass name).1.names.find? other = some id := by
  cases free : model.names.find? name with
  | some _ => simpa [internClass, free] using bound
  | none =>
      have differs : other ≠ name := by
        rintro rfl
        rw [free] at bound
        cases bound
      simpa [internClass, free, differs] using bound

theorem size_internClass_le (model : Model) (name : String) :
    (model.internClass name).1.classes.size ≤ model.classes.size + 1 := by
  unfold internClass
  split <;> simp

theorem interned_internClass (model : Model) (name : String) :
    (model.internClass name).1.interned = model.interned := by
  unfold internClass
  split <;> rfl

/-- Reserving names binds all of them and keeps the names that are bound. -/
private theorem internClasses_spec
    {model : Model} (named : model.Named) (names : List String)
    (room : model.classes.size + names.length ≤ UInt32.size) :
    (model.internClasses names).Named ∧
      (model.internClasses names).interned = model.interned ∧
        (∀ name id, model.names.find? name = some id →
          (model.internClasses names).names.find? name = some id) ∧
          ∀ name ∈ names, ∃ id,
            (model.internClasses names).names.find? name = some id := by
  induction names generalizing model with
  | nil => exact ⟨named, rfl, fun _ _ bound => bound, by simp⟩
  | cons name names inductionHypothesis =>
      simp only [List.length_cons] at room
      have smaller := size_internClass_le model name
      obtain ⟨allNamed, sameNodes, kept, allBound⟩ :=
        inductionHypothesis
          (named_internClass named (by omega) name) (by omega)
      refine ⟨allNamed, sameNodes.trans (interned_internClass model name),
        fun other id bound =>
          kept other id (find?_internClass_of_find? bound name), ?_⟩
      intro other member
      rcases List.mem_cons.mp member with rfl | later
      · exact ⟨_, kept other _ (find?_internClass model other)⟩
      · exact allBound other later

/-! ## Rows in place -/

/-- The rows of `done` are in place: their classes have their numbers of
parameters, and every node applies one of them to that many arguments. -/
structure Shaped (done : List SkeletonClass) (model : Model) : Prop where
  named : model.Named
  bound : ∀ name ∈ skeletonNames, ∃ id, model.names.find? name = some id
  arity : ∀ shape ∈ done, ∃ id definition,
    model.names.find? shape.name = some id ∧
      model.classDef? id = some definition ∧
        definition.arity = shape.params.length
  nodes : ∀ node ∈ model.interned.toList,
    node.args ≠ [] ∧ ∃ shape ∈ done,
      model.names.find? shape.name = some node.erasure ∧
        node.args.length = shape.params.length

/-- The changes within one row: the names stay, and the rows before it stay in
place. -/
def Keeps (done : List SkeletonClass) (before after : Model) : Prop :=
  after.names = before.names ∧ (Shaped done before → Shaped done after)

theorem Keeps.refl (done : List SkeletonClass) (model : Model) :
    Keeps done model model :=
  ⟨rfl, fun shaped => shaped⟩

theorem Keeps.trans
    {done : List SkeletonClass} {first second third : Model}
    (before : Keeps done first second) (after : Keeps done second third) :
    Keeps done first third :=
  ⟨after.1.trans before.1, fun shaped => after.2 (before.2 shaped)⟩

private theorem keeps_addTypeParams (done : List SkeletonClass) (model : Model)
    (owner : ClassId) (params : List String) :
    Keeps done model (model.addTypeParams owner params).model ∧
      (model.addTypeParams owner params).answer.length = params.length := by
  induction params generalizing model with
  | nil => exact ⟨.refl done model, rfl⟩
  | cons param params inductionHypothesis =>
      have allocated :
          Keeps done model
            (model.addTypeVar ⟨param, .cls owner, none⟩).model :=
        ⟨rfl, fun shaped =>
          ⟨shaped.named, shaped.bound, shaped.arity, shaped.nodes⟩⟩
      obtain ⟨kept, sameLength⟩ := inductionHypothesis _
      constructor
      · exact allocated.trans kept
      · simpa [addTypeParams, Traced.andThen, Traced.map, addTypeVar] using
          sameLength

private theorem keeps_internNode
    {done : List SkeletonClass} {model : Model} {node : ParameterizedTy}
    (applied : node.args ≠ [])
    (fits : ∃ shape ∈ done,
      model.names.find? shape.name = some node.erasure ∧
        node.args.length = shape.params.length) :
    Keeps done model (model.internNode node).model := by
  unfold internNode
  split
  · exact .refl done model
  · refine ⟨rfl, fun shaped => ?_⟩
    refine ⟨shaped.named, shaped.bound, shaped.arity, ?_⟩
    intro other member
    rcases List.mem_cons.mp member with rfl | old
    · exact ⟨applied, fits⟩
    · exact shaped.nodes other old

/-- A class with a row in place is bound, and the row is known. -/
private theorem Shaped.exists_of_any
    {done : List SkeletonClass} {model : Model} (shaped : Shaped done model)
    {name : String} {count : Nat}
    (ready : (done.any fun shape =>
      shape.name == name && shape.params.length == count) = true) :
    ∃ id, model.names.find? name = some id ∧
      ∃ shape ∈ done, model.names.find? shape.name = some id ∧
        count = shape.params.length := by
  obtain ⟨shape, member, fits⟩ := List.any_eq_true.mp ready
  simp only [Bool.and_eq_true, beq_iff_eq] at fits
  obtain ⟨rfl, rfl⟩ := fits
  obtain ⟨id, _, bound, _⟩ := shaped.arity shape member
  exact ⟨id, bound, shape, member, bound, rfl⟩

private theorem Shaped.keeps_skeletonSupertype
    {done : List SkeletonClass} {model : Model} (shaped : Shaped done model)
    (owner : ClassId) (typeParams : List TypeVarId)
    {supertype : SkeletonSupertype}
    (ready : supertype.isReady done typeParams.length = true) :
    Keeps done model
      (model.skeletonSupertype owner typeParams supertype).model := by
  cases supertype with
  | root => exact .refl done model
  | plain name =>
      obtain ⟨id, bound⟩ :=
        shaped.bound name (by simpa [SkeletonSupertype.isReady] using ready)
      simp only [skeletonSupertype, internClass_of_find? bound]
      exact .refl done model
  | ofSelf name =>
      obtain ⟨id, bound, fits⟩ := shaped.exists_of_any ready
      simp only [skeletonSupertype, internClass_of_find? bound]
      exact keeps_internNode (by simp) (by simpa using fits)
  | ofParams name =>
      simp only [SkeletonSupertype.isReady, Bool.and_eq_true, bne_iff_ne]
        at ready
      obtain ⟨id, bound, fits⟩ := shaped.exists_of_any ready.2
      simp only [skeletonSupertype, internClass_of_find? bound]
      refine keeps_internNode ?_ (by simpa using fits)
      simpa [List.map_eq_nil_iff, List.length_eq_zero_iff] using ready.1

private theorem Shaped.keeps_skeletonSupertypes
    {done : List SkeletonClass} {model : Model} (shaped : Shaped done model)
    (owner : ClassId) (typeParams : List TypeVarId)
    (supertypes : List SkeletonSupertype)
    (ready : ∀ supertype ∈ supertypes,
      supertype.isReady done typeParams.length = true) :
    Keeps done model
      (model.skeletonSupertypes owner typeParams supertypes).model := by
  induction supertypes generalizing model with
  | nil => exact .refl done model
  | cons first rest inductionHypothesis =>
      have firstKept :=
        shaped.keeps_skeletonSupertype owner typeParams
          (ready first List.mem_cons_self)
      refine firstKept.trans (inductionHypothesis (firstKept.2 shaped) ?_)
      intro supertype member
      exact ready supertype (List.mem_cons_of_mem first member)

/-- Giving a shape to a class of a new row puts that row in place. -/
private theorem Shaped.of_modify
    {done : List SkeletonClass} {model : Model} (shaped : Shaped done model)
    {shape : SkeletonClass} {id : ClassId}
    (bound : model.names.find? shape.name = some id)
    (new : ∀ other ∈ done, other.name ≠ shape.name)
    {change : ClassDef → ClassDef}
    (sameName : ∀ definition, (change definition).name = definition.name)
    (newArity : ∀ definition,
      (change definition).arity = shape.params.length) :
    Shaped (shape :: done)
      { model with classes := model.classes.modify id.toNat change } := by
  have lookup :
      ∀ other,
        ({ model with classes := model.classes.modify id.toNat change } :
            Model).classDef? other =
          if id = other then (model.classDef? other).map change
          else model.classDef? other := by
    intro other
    simp [classDef?, Array.getElem?_modify, ClassId.toNat_inj]
  refine ⟨?_, shaped.bound, ?_, ?_⟩
  · intro name other otherBound
    obtain ⟨definition, declared, hasName⟩ := shaped.named name other otherBound
    rw [lookup, declared]
    split
    · exact ⟨change definition, rfl, (sameName definition).trans hasName⟩
    · exact ⟨definition, rfl, hasName⟩
  · intro row member
    rcases List.mem_cons.mp member with rfl | old
    · obtain ⟨definition, declared, _⟩ := shaped.named _ id bound
      refine ⟨id, change definition, bound, ?_, newArity definition⟩
      rw [lookup, if_pos rfl, declared]
      rfl
    · obtain ⟨other, definition, otherBound, declared, sameArity⟩ :=
        shaped.arity row old
      -- Two rows of different names are two classes.
      have differs : id ≠ other := by
        rintro rfl
        obtain ⟨first, firstDeclared, firstName⟩ := shaped.named _ _ bound
        obtain ⟨second, secondDeclared, secondName⟩ :=
          shaped.named _ _ otherBound
        rw [firstDeclared] at secondDeclared
        cases secondDeclared
        exact new row old (secondName.symm.trans firstName)
      refine ⟨other, definition, otherBound, ?_, sameArity⟩
      rw [lookup, if_neg differs]
      exact declared
  · intro node member
    obtain ⟨applied, row, rowMember, fits⟩ := shaped.nodes node member
    exact ⟨applied, row, List.mem_cons_of_mem shape rowMember, fits⟩

theorem Shaped.setShape
    {done : List SkeletonClass} {model : Model} (shaped : Shaped done model)
    {shape : SkeletonClass}
    (known : shape.name ∈ skeletonNames)
    (new : ∀ other ∈ done, other.name ≠ shape.name)
    (ready : ∀ supertype ∈ shape.superClass.toList ++ shape.interfaces,
      supertype.isReady done shape.params.length = true) :
    Shaped (shape :: done) (model.setShape shape).model := by
  obtain ⟨id, bound⟩ := shaped.bound shape.name known
  simp only [Model.setShape, internClass_of_find? bound, Traced.andThen]
  obtain ⟨paramsKept, sameLength⟩ :=
    keeps_addTypeParams done model id shape.params
  have withParams := paramsKept.2 shaped
  have superKept :=
    withParams.keeps_skeletonSupertypes id
      (model.addTypeParams id shape.params).answer shape.superClass.toList <| by
        intro supertype member
        rw [sameLength]
        exact ready supertype (List.mem_append_left _ member)
  have interfacesKept :=
    (superKept.2 withParams).keeps_skeletonSupertypes id
      (model.addTypeParams id shape.params).answer shape.interfaces <| by
        intro supertype member
        rw [sameLength]
        exact ready supertype (List.mem_append_right _ member)
  have kept := (paramsKept.trans superKept).trans interfacesKept
  refine (kept.2 shaped).of_modify ?_ new (fun _ => rfl) (fun _ => sameLength)
  rw [kept.1]
  exact bound

theorem Shaped.setShapes
    {shapes done : List SkeletonClass} {model : Model}
    (shaped : Shaped done model)
    (inOrder : skeletonInOrder done shapes = true) :
    ∃ placed, Shaped placed (model.setShapes shapes).model := by
  induction shapes generalizing done model with
  | nil => exact ⟨done, shaped⟩
  | cons shape rest inductionHypothesis =>
      simp only [skeletonInOrder, Bool.and_eq_true, List.contains_iff_mem,
        List.all_eq_true, bne_iff_ne] at inOrder
      obtain ⟨⟨⟨known, new⟩, ready⟩, restInOrder⟩ := inOrder
      exact inductionHypothesis (shaped.setShape known new ready) restInOrder

/-! ## The fresh model -/

private theorem named_rootOnly (config : Config) : (rootOnly config).Named := by
  intro name id bound
  simp only [rootOnly, NameTable.find?_insert, NameTable.find?_empty] at bound
  split at bound
  · rename_i same
    cases bound
    exact ⟨.bare config.rootClass .cls, rfl, same.symm⟩
  · cases bound

/-- The names are reserved before any row is in place. -/
private theorem shaped_internClasses (config : Config) :
    Shaped [] ((rootOnly config).internClasses skeletonNames) := by
  have room : (rootOnly config).classes.size + skeletonNames.length ≤
      UInt32.size := by
    simp [rootOnly, skeletonNames, UInt32.size]
  obtain ⟨named, sameNodes, _, bound⟩ :=
    internClasses_spec (named_rootOnly config) skeletonNames room
  refine ⟨named, bound, by simp, ?_⟩
  rw [sameNodes]
  simp [rootOnly]

theorem exists_shaped_installSkeleton (config : Config) :
    ∃ done, Shaped done (rootOnly config).installSkeleton.model := by
  rw [installSkeleton, model_andThen_report]
  exact (shaped_internClasses config).setShapes skeletonInOrder_skeletonClasses

end Model

end JavaTypes
