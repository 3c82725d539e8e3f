import JavaTypes.Proofs.ClassNames
import JavaTypes.Proofs.FailedOperations

/-!
# What a refused generic class leaves behind

A generic class is declared in one step: its name is reserved, its type
parameters are allocated, and then it is defined.  Only the last part is
checked.  When the definition is refused, what came before it stays: a name that
was new is bound to a class without a definition, and the type parameters are
allocated.

So a refusal changes nothing exactly when there was nothing to prepare, which is
when the name is bound already and no type parameters are asked for.
-/

namespace JavaTypes

namespace Model

/-- The models have as many classes, find the same classes by name, and have the
same type variables and the same nodes. -/
structure SameTables (first second : Model) : Prop where
  size : first.classes.size = second.classes.size
  found : ∀ name, first.classId? name = second.classId? name
  typeVars : first.typeVars = second.typeVars
  interned : first.interned = second.interned

/-! ## Preparing a generic class -/

/-- Type parameters of a class, without bounds. -/
def typeParamDefs (owner : ClassId) (params : List String) : List TypeVarDef :=
  params.map fun name => ⟨name, .cls owner, none⟩

/-- The model with the name of a class reserved and its type parameters
allocated. -/
def prepared (model : Model) (name : String) (params : List String) : Model :=
  { (model.internClass name).1 with
    typeVars := model.typeVars ++
      (typeParamDefs (model.internClass name).2 params).toArray }

theorem typeVars_internClass (model : Model) (name : String) :
    (model.internClass name).1.typeVars = model.typeVars := by
  unfold internClass
  split <;> rfl

private theorem model_addTypeParams (model : Model) (owner : ClassId)
    (params : List String) :
    (model.addTypeParams owner params).model =
      { model with
        typeVars := model.typeVars ++ (typeParamDefs owner params).toArray } := by
  induction params generalizing model with
  | nil => simp [addTypeParams, typeParamDefs]
  | cons name params inductionHypothesis =>
      simp only [addTypeParams, Traced.andThen, Traced.map,
        inductionHypothesis]
      simp [addTypeVar, typeParamDefs]

private theorem length_addTypeParams (model : Model) (owner : ClassId)
    (params : List String) :
    (model.addTypeParams owner params).answer.length = params.length := by
  induction params generalizing model with
  | nil => rfl
  | cons name params inductionHypothesis =>
      simp only [addTypeParams, Traced.andThen, Traced.map, List.length_cons,
        inductionHypothesis]

private theorem model_addTypeParams_internClass (model : Model) (name : String)
    (params : List String) :
    ((model.internClass name).1.addTypeParams
        (model.internClass name).2 params).model =
      model.prepared name params := by
  rw [model_addTypeParams, typeVars_internClass]
  rfl

/-- A generic class is prepared, and then defined with the parameters that were
allocated for it. -/
private theorem addGeneric_eq (model : Model) (name : String) (kind : ClassKind)
    (params : List String) (superClass : Option Ty) (interfaces : List Ty) :
    ∃ typeParams : List TypeVarId, typeParams.length = params.length ∧
      (model.addGeneric name kind params superClass interfaces).model =
        ((model.prepared name params).defineClass (model.internClass name).2
          ⟨name, kind, typeParams, superClass, interfaces⟩).model ∧
      (model.addGeneric name kind params superClass interfaces).answer =
        ((model.prepared name params).defineClass (model.internClass name).2
          ⟨name, kind, typeParams, superClass, interfaces⟩).answer.map
            fun _ => (model.internClass name).2 := by
  refine ⟨_, length_addTypeParams (model.internClass name).1
    (model.internClass name).2 params, ?_⟩
  rw [← model_addTypeParams_internClass]
  exact ⟨rfl, rfl⟩

/-! ## Refused definitions -/

theorem checkSupertypes_eq_error_iff
    {model : Model} {definition : ClassDef} :
    (∃ error, model.checkSupertypes definition = .error error) ↔
      ∃ type ∈ definition.supertypes, type.classId? = none := by
  constructor
  · intro refused
    obtain ⟨error, failed⟩ := refused
    unfold checkSupertypes at failed
    split at failed
    · rename_i type found
      have noClass := List.find?_some found
      exact ⟨type, List.mem_of_find?_eq_some found,
        Option.isNone_iff_eq_none.mp noClass⟩
    · cases failed
  · intro refused
    obtain ⟨type, member, noClass⟩ := refused
    cases checked : model.checkSupertypes definition with
    | error error => exact ⟨error, rfl⟩
    | ok =>
        have isClass := classId?_isSome_of_checkSupertypes checked type member
        rw [noClass] at isClass
        cases isClass

private theorem eq_invalidSupertype_of_checkSupertypes
    {model : Model} {definition : ClassDef} {error : ModelError}
    (refused : model.checkSupertypes definition = .error error) :
    ∃ type, error = .invalidSupertype type definition.name := by
  unfold checkSupertypes at refused
  split at refused
  · cases refused
    exact ⟨_, rfl⟩
  · cases refused

private theorem answer_install_eq_error_iff
    {model : Model} {id : ClassId} {definition : ClassDef} {error : ModelError} :
    (model.install id definition).answer = .error error ↔
      ∃ narrowed, model.narrowedArity? id = some narrowed ∧
        narrowed ≠ definition.arity ∧
          error = .arityChange definition.name narrowed definition.arity := by
  cases used : model.narrowedArity? id with
  | none => simp [install, used]
  | some narrowed =>
      by_cases same : narrowed = definition.arity
      · simp [install, used, same]
      · simp [install, used, same, Outcome.fail, eq_comm]

/-- Defining a class that is found by the name of its definition is installing
the definition, once its supertypes are checked. -/
theorem defineClass_of_checked
    {model : Model} {id : ClassId} {definition : ClassDef}
    (declared : (model.classDef? id).isSome = true)
    (bound : model.names.find? definition.name = some id)
    (checked : model.checkSupertypes definition = .ok ()) :
    model.defineClass id definition = model.install id definition := by
  have known : (model.classDef? id).isNone = false := by simpa using declared
  simp [defineClass, known, checked, bound]

/-- A class that is found by the name of its new definition is neither unknown
nor in the way of another one. -/
theorem answer_defineClass_eq_error_iff
    {model : Model} {id : ClassId} {definition : ClassDef} {error : ModelError}
    (declared : (model.classDef? id).isSome = true)
    (bound : model.names.find? definition.name = some id) :
    (model.defineClass id definition).answer = .error error ↔
      model.checkSupertypes definition = .error error ∨
        model.checkSupertypes definition = .ok () ∧
          ∃ narrowed, model.narrowedArity? id = some narrowed ∧
            narrowed ≠ definition.arity ∧
              error = .arityChange definition.name narrowed definition.arity := by
  have known : (model.classDef? id).isNone = false := by simpa using declared
  rw [← answer_install_eq_error_iff]
  cases checked : model.checkSupertypes definition with
  | error refused => simp [defineClass, known, checked, Outcome.fail]
  | ok =>
      rw [defineClass_of_checked declared bound checked]
      simp

/-! ## Refused generic classes -/

theorem SameTables.refl (model : Model) : model.SameTables model :=
  ⟨rfl, fun _ => rfl, rfl, rfl⟩

private theorem size_classes_prepared (model : Model) (name : String)
    (params : List String) :
    (model.prepared name params).classes.size =
      model.classes.size +
        if (model.classId? name).isSome = true then 0 else 1 := by
  cases bound : model.names.find? name with
  | none => simp [prepared, internClass, classId?, bound]
  | some id => simp [prepared, internClass, classId?, bound]

private theorem prepared_of_find?
    {model : Model} {name : String} {id : ClassId}
    (bound : model.classId? name = some id) :
    model.prepared name [] = model := by
  simp [prepared, internClass_of_find? bound, typeParamDefs]

/-- Nothing has to be prepared exactly for a bound name without parameters. -/
theorem sameTables_prepared_iff
    {model : Model} {name : String} {params : List String} :
    (model.prepared name params).SameTables model ↔
      (model.classId? name).isSome = true ∧ params = [] := by
  constructor
  · intro same
    constructor
    · have grown := same.size
      rw [size_classes_prepared] at grown
      by_cases isBound : (model.classId? name).isSome = true
      · exact isBound
      · simp [isBound] at grown
    · have sizes := congrArg Array.size same.typeVars
      simp only [prepared, typeParamDefs, Array.size_append, List.size_toArray,
        List.length_map] at sizes
      exact List.eq_nil_of_length_eq_zero (by omega)
  · intro nothing
    obtain ⟨isBound, rfl⟩ := nothing
    obtain ⟨id, bound⟩ := Option.isSome_iff_exists.mp isBound
    rw [prepared_of_find? bound]
    exact .refl model

theorem classId?_internClass (model : Model) (name other : String) :
    (model.internClass name).1.classId? other =
      if other = name then some (model.internClass name).2
      else model.classId? other := by
  cases bound : model.names.find? name with
  | none => simp [internClass, classId?, bound]
  | some id =>
      by_cases same : other = name
      · simp [internClass, classId?, bound, same]
      · simp [internClass, classId?, bound, same]

private theorem classId?_prepared (model : Model) (name other : String)
    (params : List String) :
    (model.prepared name params).classId? other =
      if other = name then some (model.internClass name).2
      else model.classId? other :=
  classId?_internClass model name other

private theorem interned_prepared (model : Model) (name : String)
    (params : List String) :
    (model.prepared name params).interned = model.interned :=
  interned_internClass model name

theorem Reachable.nodesFit {model : Model} (reachable : model.Reachable) :
    model.NodesFit := by
  obtain ⟨config, operations, rfl⟩ := reachable
  exact (nodesFit_new config).run operations

theorem isSome_classDef?_of_className?
    {model : Model} {id : ClassId} {name : String}
    (named : model.className? id = some name) :
    (model.classDef? id).isSome = true := by
  obtain ⟨definition, declared, _⟩ := Option.map_eq_some_iff.mp named
  rw [declared]
  rfl

/-- In a reachable model the class behind a reserved name has that name. -/
theorem Reachable.className?_internClass
    {model : Model} (reachable : model.Reachable)
    (room : model.classes.size < UInt32.size) (name : String) :
    (model.internClass name).1.className? (model.internClass name).2 =
      some name := by
  have reserved : (model.internClass name).1.Reachable :=
    reachable.run [.internClass name]
  have grows := size_internClass_le model name
  have agree := reserved.namesAgree (by omega)
  exact (agree name _).mp (find?_internClass model name)

/-- In a reachable model the class of a prepared name is declared. -/
private theorem Reachable.isSome_classDef?_prepared
    {model : Model} (reachable : model.Reachable)
    (room : model.classes.size < UInt32.size) (name : String)
    (params : List String) :
    ((model.prepared name params).classDef?
      (model.internClass name).2).isSome = true := by
  have named := reachable.className?_internClass room name
  exact isSome_classDef?_of_className? named

/-- The class of a prepared name was applied to arguments only if the name was
bound before. -/
private theorem NodesFit.narrowedArity?_prepared_iff
    {model : Model} (fit : model.NodesFit)
    (room : model.classes.size < UInt32.size) {name : String}
    {params : List String} {narrowed : Nat} :
    (model.prepared name params).narrowedArity? (model.internClass name).2 =
        some narrowed ↔
      ∃ id, model.classId? name = some id ∧
        model.narrowedArity? id = some narrowed := by
  rw [narrowedArity?, interned_prepared]
  cases bound : model.classId? name with
  | some id => simp [internClass_of_find? bound, narrowedArity?]
  | none =>
      have unused := fit.narrowedArity?_eq_none (classDef?_ofNat_size room)
      simp only [narrowedArity?] at unused
      simp [internClass_of_free bound, unused]

/-- A generic class is refused like the definition that it is prepared for. -/
theorem Reachable.answer_addGeneric_eq_error_iff
    {model : Model} (reachable : model.Reachable)
    (room : model.classes.size < UInt32.size) (name : String) (kind : ClassKind)
    (params : List String) (superClass : Option Ty) (interfaces : List Ty) :
    ∃ definition : ClassDef,
      definition.name = name ∧
        definition.supertypes = superClass.toList ++ interfaces ∧
          ∀ error,
            (model.addGeneric name kind params superClass
                interfaces).answer = .error error ↔
              (model.prepared name params).checkSupertypes definition =
                  .error error ∨
                (model.prepared name params).checkSupertypes definition =
                    .ok () ∧
                  ∃ narrowed,
                    (∃ id, model.classId? name = some id ∧
                      model.narrowedArity? id = some narrowed) ∧
                    narrowed ≠ params.length ∧
                      error = .arityChange name narrowed params.length := by
  obtain ⟨typeParams, sameLength, _, answered⟩ :=
    addGeneric_eq model name kind params superClass interfaces
  let definition : ClassDef := ⟨name, kind, typeParams, superClass, interfaces⟩
  have declared := reachable.isSome_classDef?_prepared room name params
  have bound : (model.prepared name params).names.find? definition.name =
      some (model.internClass name).2 := find?_internClass model name
  have sameArity : definition.arity = params.length := sameLength
  refine ⟨definition, rfl, rfl, fun error => ?_⟩
  have passedOn :
      (model.addGeneric name kind params superClass interfaces).answer =
          .error error ↔
        ((model.prepared name params).defineClass (model.internClass name).2
          definition).answer = .error error := by
    rw [answered]
    cases ((model.prepared name params).defineClass _ definition).answer <;>
      simp [Except.map]
  rw [passedOn, answer_defineClass_eq_error_iff declared bound, sameArity]
  simp only [reachable.nodesFit.narrowedArity?_prepared_iff room]
  rfl

theorem Reachable.exists_error_addGeneric_iff
    {model : Model} (reachable : model.Reachable)
    (room : model.classes.size < UInt32.size) (name : String) (kind : ClassKind)
    (params : List String) (superClass : Option Ty) (interfaces : List Ty) :
    (∃ error, (model.addGeneric name kind params superClass
        interfaces).answer = .error error) ↔
      (∃ type ∈ superClass.toList ++ interfaces, type.classId? = none) ∨
        ∃ id narrowed, model.classId? name = some id ∧
          model.narrowedArity? id = some narrowed ∧
            narrowed ≠ params.length := by
  obtain ⟨definition, _, sameSupertypes, refusedIff⟩ :=
    reachable.answer_addGeneric_eq_error_iff room name kind params superClass
      interfaces
  rw [← sameSupertypes]
  constructor
  · intro refused
    obtain ⟨error, answered⟩ := refused
    rcases (refusedIff error).mp answered with unchecked | arity
    · exact Or.inl (checkSupertypes_eq_error_iff.mp ⟨error, unchecked⟩)
    · obtain ⟨_, narrowed, ⟨id, bound, used⟩, differs, _⟩ := arity
      exact Or.inr ⟨id, narrowed, bound, used, differs⟩
  · intro cause
    -- The supertypes are looked at first, whatever the nodes say.
    cases checked : (model.prepared name params).checkSupertypes definition with
    | error error => exact ⟨error, (refusedIff error).mpr (Or.inl checked)⟩
    | ok =>
        rcases cause with noClass | ⟨id, narrowed, bound, used, differs⟩
        · obtain ⟨error, unchecked⟩ := checkSupertypes_eq_error_iff.mpr noClass
          rw [checked] at unchecked
          cases unchecked
        · exact ⟨_, (refusedIff _).mpr
            (Or.inr ⟨checked, narrowed, ⟨id, bound, used⟩, differs, rfl⟩)⟩

private theorem Reachable.error_of_addGeneric
    {model : Model} (reachable : model.Reachable)
    (room : model.classes.size < UInt32.size) {name : String} {kind : ClassKind}
    {params : List String} {superClass : Option Ty} {interfaces : List Ty}
    {error : ModelError}
    (refused : (model.addGeneric name kind params superClass
      interfaces).answer = .error error) :
    (∃ type, error = .invalidSupertype type name) ∨
      ∃ narrowed, error = .arityChange name narrowed params.length := by
  obtain ⟨definition, named, _, refusedIff⟩ :=
    reachable.answer_addGeneric_eq_error_iff room name kind params superClass
      interfaces
  rcases (refusedIff error).mp refused with unchecked | arity
  · rw [← named]
    exact Or.inl (eq_invalidSupertype_of_checkSupertypes unchecked)
  · obtain ⟨_, narrowed, _, _, isArityChange⟩ := arity
    exact Or.inr ⟨narrowed, isArityChange⟩

private theorem model_addGeneric_of_error
    {model : Model} {name : String} {kind : ClassKind} {params : List String}
    {superClass : Option Ty} {interfaces : List Ty} {error : ModelError}
    (refused : (model.addGeneric name kind params superClass
      interfaces).answer = .error error) :
    (model.addGeneric name kind params superClass interfaces).model =
      model.prepared name params := by
  obtain ⟨typeParams, _, sameModel, answered⟩ :=
    addGeneric_eq model name kind params superClass interfaces
  rw [answered] at refused
  rw [sameModel]
  exact (atomic_map (atomic_defineClass _ _ _) _ error refused).1

/-- A generic class is refused for a supertype that is no class, or for a number
of parameters that the nodes of the class do not have.  What the refusal leaves
behind is the name, reserved if it was new, and one variable for each parameter.
The tables are the same as before exactly when the name was bound already and
there are no parameters, and then so is the whole model. -/
theorem refused_generic_keeps_tables_iff (model : Model)
    (reachable : model.Reachable) (room : model.classes.size < UInt32.size)
    (name : String) (kind : ClassKind) (params : List String)
    (superClass : Option Ty) (interfaces : List Ty) :
    let outcome := model.addGeneric name kind params superClass interfaces
    ((∃ error, outcome.answer = .error error) ↔
      (∃ type ∈ superClass.toList ++ interfaces, type.classId? = none) ∨
        ∃ id narrowed, model.classId? name = some id ∧
          model.narrowedArity? id = some narrowed ∧
            narrowed ≠ params.length) ∧
    ∀ error, outcome.answer = .error error →
      ((∃ type, error = .invalidSupertype type name) ∨
        ∃ narrowed, error = .arityChange name narrowed params.length) ∧
      (outcome.model.classes.size =
        model.classes.size +
          if (model.classId? name).isSome = true then 0 else 1) ∧
      (∀ other, outcome.model.classId? other =
        if other = name then some (model.internClass name).2
        else model.classId? other) ∧
      outcome.model.typeVars =
        model.typeVars ++
          (typeParamDefs (model.internClass name).2 params).toArray ∧
      outcome.model.interned = model.interned ∧
      (outcome.model.SameTables model ↔
        (model.classId? name).isSome = true ∧ params = []) ∧
      (outcome.model.SameTables model → outcome.model = model) := by
  intro outcome
  refine ⟨reachable.exists_error_addGeneric_iff room name kind params superClass
    interfaces, ?_⟩
  intro error refused
  have cause := reachable.error_of_addGeneric room refused
  have left : outcome.model = model.prepared name params :=
    model_addGeneric_of_error refused
  rw [left]
  refine ⟨cause, size_classes_prepared model name params,
    fun other => classId?_prepared model name other params, rfl,
    interned_prepared model name params, sameTables_prepared_iff, ?_⟩
  intro same
  obtain ⟨isBound, rfl⟩ := sameTables_prepared_iff.mp same
  obtain ⟨id, bound⟩ := Option.isSome_iff_exists.mp isBound
  exact prepared_of_find? bound

/-- The interface `java.util.List` was applied to one argument.  Declaring it
anew without type parameters is refused, and as nothing had to be prepared, the
model stays as it is. -/
theorem refused_generic_keeps_skeleton :
    skeleton.Reachable ∧ skeleton.classes.size < UInt32.size ∧
      (∃ error, (skeleton.addGeneric "java.util.List" .interface [] none
        []).answer = .error error) ∧
      (skeleton.addGeneric "java.util.List" .interface [] none []).model =
        skeleton := by
  have reachable : skeleton.Reachable := reachable_new _
  obtain ⟨room, bound, narrowed⟩ :
      skeleton.classes.size < UInt32.size ∧
        skeleton.classId? "java.util.List" = some (.ofNat 12) ∧
          skeleton.narrowedArity? (.ofNat 12) = some 1 := by
    decide +kernel
  obtain ⟨refusedIff, left⟩ :=
    refused_generic_keeps_tables_iff skeleton reachable room "java.util.List"
      .interface [] none []
  have refused := refusedIff.mpr (Or.inr ⟨_, 1, bound, narrowed, by decide⟩)
  obtain ⟨error, answered⟩ := refused
  obtain ⟨_, _, _, _, _, sameIff, unchanged⟩ := left error answered
  have same := sameIff.mpr ⟨by rw [bound]; rfl, rfl⟩
  exact ⟨reachable, room, ⟨error, answered⟩, unchanged same⟩

/-- A new generic class with a keyword type for its superclass is refused.  Its
name is reserved all the same, and its type parameter is allocated. -/
theorem refused_generic_leaves_traces :
    let fresh := (Model.new .default).model
    let outcome :=
      fresh.addGeneric "com.example.Bag" .interface ["T"]
        (some (.primitive .int)) []
    fresh.Reachable ∧
      outcome.answer = .error (.invalidSupertype "int" "com.example.Bag") ∧
        ¬ outcome.model.SameTables fresh ∧
          fresh.classId? "com.example.Bag" = none ∧
            outcome.model.classId? "com.example.Bag" = some (.ofNat 1) ∧
              outcome.model.typeVars.size = fresh.typeVars.size + 1 := by
  intro fresh outcome
  have refused :
      outcome.answer = .error (.invalidSupertype "int" "com.example.Bag") := rfl
  obtain ⟨unknown, found, grown⟩ :
      fresh.classId? "com.example.Bag" = none ∧
        outcome.model.classId? "com.example.Bag" = some (.ofNat 1) ∧
          outcome.model.typeVars.size = fresh.typeVars.size + 1 := by
    decide +kernel
  refine ⟨reachable_new _, refused, ?_, unknown, found, grown⟩
  intro same
  have sameFound := same.found "com.example.Bag"
  rw [unknown, found] at sameFound
  cases sameFound

end Model

end JavaTypes
