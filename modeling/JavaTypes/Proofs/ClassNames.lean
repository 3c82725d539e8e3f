import JavaTypes.Proofs.Construction

/-!
# Names and classes agree

A model keeps its classes twice, by id and by name.  The two tables agree when a
name is bound to a class exactly when that is the name of the class.  They agree
in every model that a run leads to, as long as there is an id for every class:
reserving, defining, renaming and registering by name all write to both tables.

The skeleton of a fresh model is set up without the checks of the operations, so
an edit is not general enough here.  What all of them share is a *write*, which
says what becomes of the two tables.
-/

namespace JavaTypes

namespace Model

/-! ## Writes -/

/-- A change of the tables of classes and names.  Besides the edits of
operations, a class may be given a new shape under its old name. -/
inductive Write : Model → Model → Prop where
  | reserve {model : Model} {name : String}
      (free : model.names.find? name = none) :
      Write model
        { model with
          classes := model.classes.push (.bare name .cls)
          names := model.names.insert name (.ofNat model.classes.size) }
  | install {model : Model} {id : ClassId} {definition : ClassDef}
      (checked : ∀ type ∈ definition.supertypes, type.classId?.isSome = true)
      (named : model.names.find? definition.name = some id ∨
        model.names.find? definition.name = none ∧
          (model.classDef? id).isSome = true) :
      Write model
        { model with
          names := model.renamed id definition.name
          classes := model.classes.setIfInBounds id.toNat definition }
  | reshape {model : Model} {id : ClassId} {change : ClassDef → ClassDef}
      (sameName : ∀ definition, (change definition).name = definition.name)
      (checked : ∀ definition, ∀ type ∈ (change definition).supertypes,
        type.classId?.isSome = true) :
      Write model
        { model with classes := model.classes.modify id.toNat change }
  | elsewhere {model after : Model}
      (sameClasses : after.classes = model.classes)
      (sameNames : after.names = model.names)
      (kept : model.typeVars.size ≤ after.typeVars.size) : Write model after

abbrev Writes : Model → Model → Prop :=
  Relation.ReflTransGen Write

theorem Edit.write {before after : Model} (edit : Edit before after) :
    Write before after := by
  cases edit with
  | reserve free => exact .reserve free
  | install checked named _ => exact .install checked named
  | allocate definition => exact .elsewhere rfl rfl (by simp)
  | redefine definition _ => exact .elsewhere rfl rfl (by simp)
  | keep _ _ _ _ => exact .elsewhere rfl rfl (Nat.le_refl _)

theorem Edits.writes {before after : Model} (edits : Edits before after) :
    Writes before after :=
  Relation.ReflTransGen.mono (fun _ _ edit => Edit.write edit) _ _ edits

/-! ## The writes of a fresh model -/

theorem Setup.write {before after : Model} (step : Setup before after) :
    Write before after := by
  cases step with
  | reserve free => exact .reserve free
  | allocate name owner => exact .elsewhere rfl rfl (by simp)
  | keep _ _ => exact .elsewhere rfl rfl (Nat.le_refl _)
  | reshape sameName flat =>
      exact .reshape sameName fun definition type member =>
        Ty.isSome_classId?_of_isFlatClass (flat definition type member)

theorem Setups.writes {before after : Model} (steps : Setups before after) :
    Writes before after :=
  Relation.ReflTransGen.mono (fun _ _ step => Setup.write step) _ _ steps

/-- The model without any class, not even the root: here the tables agree. -/
def blank (config : Config) : Model where
  config := config
  classes := #[]
  names := .empty
  typeVars := #[]
  root := .ofNat 0
  interned := .empty

theorem writes_new (config : Config) :
    Writes (blank config) (Model.new config).model := by
  have rootReserved : Writes (blank config) (rootOnly config) :=
    .single (.reserve rfl)
  exact rootReserved.trans (setups_new config).writes

theorem writes_run (config : Config) (operations : List Operation) :
    Writes (blank config) ((Model.new config).model.run operations) :=
  (writes_new config).trans (edits_run _ operations).writes

/-! ## Tables only grow -/

theorem Write.size_le {before after : Model} (write : Write before after) :
    before.classes.size ≤ after.classes.size ∧
      before.typeVars.size ≤ after.typeVars.size := by
  cases write with
  | reserve free => simp
  | install checked named => simp
  | reshape sameName checked => simp
  | elsewhere sameClasses sameNames kept => exact ⟨by simp [sameClasses], kept⟩

theorem Writes.size_le {before after : Model} (writes : Writes before after) :
    before.classes.size ≤ after.classes.size ∧
      before.typeVars.size ≤ after.typeVars.size := by
  induction writes with
  | refl => exact ⟨Nat.le_refl _, Nat.le_refl _⟩
  | tail _ write inductionHypothesis =>
      have grows := write.size_le
      omega

theorem isSome_classDef?_iff (model : Model) (id : ClassId) :
    (model.classDef? id).isSome = true ↔ id.toNat < model.classes.size := by
  simp [classDef?]

/-! ## Agreement of the two tables -/

/-- A name is bound to a class exactly when the class has that name. -/
def NamesAgree (model : Model) : Prop :=
  ∀ name id, model.names.find? name = some id ↔
    model.className? id = some name

theorem lt_size_of_className?
    {model : Model} {id : ClassId} {name : String}
    (known : model.className? id = some name) :
    id.toNat < model.classes.size := by
  obtain ⟨definition, declared, _⟩ := Option.map_eq_some_iff.mp known
  exact (isSome_classDef?_iff model id).mp (by simp [declared])

theorem className?_push (model : Model) (names : NameTable) (name : String)
    (id : ClassId) :
    ({ model with
        classes := model.classes.push (.bare name .cls), names := names } :
          Model).className? id =
      if id.toNat = model.classes.size then some name
      else model.className? id := by
  by_cases last : id.toNat = model.classes.size
  · simp [className?, classDef?, last, ClassDef.bare]
  · simp [className?, classDef?, Array.getElem?_push, last]

theorem NamesAgree.reserve
    {model : Model} (agree : model.NamesAgree) {name : String}
    (free : model.names.find? name = none)
    (room : model.classes.size < UInt32.size) :
    NamesAgree
      { model with
        classes := model.classes.push (.bare name .cls)
        names := model.names.insert name (.ofNat model.classes.size) } := by
  intro query id
  rw [className?_push, NameTable.find?_insert]
  have isLast : ClassId.ofNat model.classes.size = id ↔
      id.toNat = model.classes.size := by
    rw [← ClassId.toNat_inj, ClassId.toNat_ofNat room]
    exact eq_comm
  have unnamed : model.className? id ≠ some name := by
    intro known
    rw [(agree name id).mpr known] at free
    cases free
  by_cases last : id.toNat = model.classes.size
  · have unbound : model.names.find? query ≠ some id := by
      intro bound
      have inside := lt_size_of_className? ((agree query id).mp bound)
      omega
    by_cases same : query = name
    · simp [same, last, isLast]
    · simp [same, last, unbound, Ne.symm same]
  · by_cases same : query = name
    · simp [same, last, isLast, unnamed]
    · simp [same, last, agree query id]

private theorem className?_setIfInBounds (model : Model) (names : NameTable)
    (id other : ClassId) (definition : ClassDef) :
    ({ model with
        names := names
        classes := model.classes.setIfInBounds id.toNat definition } :
          Model).className? other =
      if other = id then (model.className? id).map fun _ => definition.name
      else model.className? other := by
  rw [className?, classDef?_setIfInBounds]
  by_cases same : other = id
  · cases declared : model.classDef? id <;> simp [same, className?, declared]
  · simp [same, className?]

/-- A class that takes a name gives up the one it had. -/
private theorem NamesAgree.find?_renamed
    {model : Model} (agree : model.NamesAgree) {id : ClassId} {old : String}
    (current : model.className? id = some old) (name query : String) :
    (model.renamed id name).find? query =
      if query = name then some id
      else if query = old then none
      else model.names.find? query := by
  have bound : model.names.find? old = some id := (agree old id).mpr current
  by_cases keeps : old = name
  · subst keeps
    by_cases same : query = old
    · simp [renamed, current, same, bound]
    · simp [renamed, current, same]
  · simp [renamed, current, keeps, bound]

theorem NamesAgree.install
    {model : Model} (agree : model.NamesAgree) {id : ClassId}
    {definition : ClassDef}
    (named : model.names.find? definition.name = some id ∨
      model.names.find? definition.name = none ∧
        (model.classDef? id).isSome = true) :
    NamesAgree
      { model with
        names := model.renamed id definition.name
        classes := model.classes.setIfInBounds id.toNat definition } := by
  obtain ⟨old, current⟩ : ∃ old, model.className? id = some old := by
    rcases named with bound | ⟨_, allocated⟩
    · exact ⟨_, (agree _ id).mp bound⟩
    · obtain ⟨before, declared⟩ := Option.isSome_iff_exists.mp allocated
      exact ⟨before.name, by simp [className?, declared]⟩
  have takenByNoOther (other : ClassId) (differs : other ≠ id) :
      model.className? other ≠ some definition.name := by
    intro known
    have bound := (agree _ other).mpr known
    rcases named with bound' | ⟨free, _⟩
    · rw [bound] at bound'
      exact differs (Option.some.inj bound')
    · rw [bound] at free
      cases free
  have oldOfNoOther (other : ClassId) (differs : other ≠ id) :
      model.className? other ≠ some old := by
    intro known
    have bound := (agree old other).mpr known
    rw [(agree old id).mpr current] at bound
    exact differs (Option.some.inj bound).symm
  -- A query is the new name, the name given up, or one that is not touched.
  intro query other
  rw [className?_setIfInBounds]
  change (model.renamed id definition.name).find? query = some other ↔ _
  rw [agree.find?_renamed current, current]
  by_cases taken : query = definition.name
  · by_cases same : other = id
    · simp [taken, same]
    · simp [taken, same, Ne.symm same, takenByNoOther other same]
  · by_cases given : query = old
    · subst given
      by_cases same : other = id
      · simp [taken, same, Ne.symm taken]
      · simp [taken, same, oldOfNoOther other same]
    · by_cases same : other = id
      · simp [taken, given, same, agree query id, current, Ne.symm taken,
          Ne.symm given]
      · simp [taken, given, same, agree query other]

theorem className?_modify
    {model : Model} {id : ClassId} {change : ClassDef → ClassDef}
    (sameName : ∀ definition, (change definition).name = definition.name) :
    ({ model with classes := model.classes.modify id.toNat change } :
        Model).className? = model.className? := by
  funext other
  by_cases same : id.toNat = other.toNat
  · simp [className?, classDef?, Array.getElem?_modify, same, Function.comp_def,
      sameName]
  · simp [className?, classDef?, Array.getElem?_modify, same]

theorem Write.namesAgree
    {before after : Model} (write : Write before after)
    (room : after.classes.size ≤ UInt32.size) (agree : before.NamesAgree) :
    after.NamesAgree := by
  cases write with
  | reserve free =>
      simp only [Array.size_push] at room
      exact agree.reserve free (by omega)
  | install checked named => exact agree.install named
  | reshape sameName checked =>
      intro name id
      rw [className?_modify sameName]
      exact agree name id
  | elsewhere sameClasses sameNames kept =>
      intro name id
      simp only [className?, classDef?, sameClasses, sameNames]
      exact agree name id

theorem Writes.namesAgree
    {before after : Model} (writes : Writes before after)
    (room : after.classes.size ≤ UInt32.size) (agree : before.NamesAgree) :
    after.NamesAgree := by
  induction writes with
  | refl => exact agree
  | tail _ write inductionHypothesis =>
      -- Tables only grow, so there was room before the last write too.
      have grows := write.size_le
      exact write.namesAgree room (inductionHypothesis (by omega))

theorem Reachable.namesAgree
    {model : Model} (reachable : model.Reachable)
    (room : model.classes.size ≤ UInt32.size) : model.NamesAgree := by
  obtain ⟨config, operations, rfl⟩ := reachable
  apply (writes_run config operations).namesAgree room
  simp [NamesAgree, blank, className?, classDef?]

/-! ## Declared supertypes -/

/-- Every declared supertype is a class, raw or parameterized. -/
def SupertypesAreClasses (model : Model) : Prop :=
  ∀ id definition, model.classDef? id = some definition →
    ∀ type ∈ definition.supertypes, type.classId?.isSome = true

private theorem Write.supertypesAreClasses
    {before after : Model} (write : Write before after)
    (classes : before.SupertypesAreClasses) : after.SupertypesAreClasses := by
  intro id definition declared
  cases write with
  | @reserve name free =>
      rw [classDef?, Array.getElem?_push] at declared
      split at declared
      · cases declared
        simp [ClassDef.supertypes, ClassDef.bare]
      · exact classes id definition declared
  | @install installed definition' checked named =>
      rw [classDef?_setIfInBounds] at declared
      split at declared
      · obtain ⟨_, _, rfl⟩ := Option.map_eq_some_iff.mp declared
        exact checked
      · exact classes id definition declared
  | reshape sameName checked =>
      rw [classDef?, Array.getElem?_modify] at declared
      split at declared
      · obtain ⟨old, _, rfl⟩ := Option.map_eq_some_iff.mp declared
        exact checked old
      · exact classes id definition declared
  | elsewhere sameClasses sameNames kept =>
      rw [classDef?, sameClasses] at declared
      exact classes id definition declared

theorem Writes.supertypesAreClasses
    {before after : Model} (writes : Writes before after)
    (classes : before.SupertypesAreClasses) : after.SupertypesAreClasses := by
  induction writes with
  | refl => exact classes
  | tail _ write inductionHypothesis =>
      exact write.supertypesAreClasses inductionHypothesis

private theorem eq_cls_or_parameterized_of_classId?
    {type : Ty} (isClass : type.classId?.isSome = true) :
    (∃ id, type = .cls id) ∨
      ∃ erasure args, type = .parameterized erasure args := by
  cases type with
  | cls id => exact Or.inl ⟨id, rfl⟩
  | parameterized erasure args => exact Or.inr ⟨erasure, args, rfl⟩
  | _ => cases isClass

/-! ## Runs -/

/-- In every model that a run leads to, a name is bound to an id exactly when
the class behind the id has that name: names are distinct, each class is found
by its name, and no other name is bound.  Declared supertypes are classes, raw
or parameterized, and no operation gives up an id or makes a table shorter. -/
theorem names_agree_along_runs (config : Config) (operations : List Operation)
    (room : ((Model.new config).model.run operations).classes.size ≤
      UInt32.size) :
    let model := (Model.new config).model.run operations
    (∀ name id, model.classId? name = some id ↔
      ∃ definition, model.classDef? id = some definition ∧
        definition.name = name) ∧
    (∀ first second definition definition',
      model.classDef? first = some definition →
        model.classDef? second = some definition' →
          definition.name = definition'.name → first = second) ∧
    (∀ id definition, model.classDef? id = some definition →
      model.classId? definition.name = some id) ∧
    (∀ name, (∀ id, model.className? id ≠ some name) →
      model.classId? name = none) ∧
    (∀ id definition, model.classDef? id = some definition →
      ∀ type ∈ definition.supertypes,
        (∃ above, type = .cls above) ∨
          ∃ erasure args, type = .parameterized erasure args) ∧
    (∀ operation,
      model.classes.size ≤ (model.perform operation).classes.size ∧
        model.typeVars.size ≤ (model.perform operation).typeVars.size ∧
          ∀ id, (model.classDef? id).isSome = true →
            ((model.perform operation).classDef? id).isSome = true) := by
  intro model
  have writes : Writes (blank config) model := writes_run config operations
  have agree : model.NamesAgree :=
    writes.namesAgree room (by simp [NamesAgree, blank, className?, classDef?])
  have exactly (name : String) (id : ClassId) :
      model.classId? name = some id ↔
        ∃ definition, model.classDef? id = some definition ∧
          definition.name = name := by
    rw [classId?, agree name id, className?, Option.map_eq_some_iff]
  have found (id : ClassId) (definition : ClassDef)
      (declared : model.classDef? id = some definition) :
      model.classId? definition.name = some id :=
    (exactly _ id).mpr ⟨definition, declared, rfl⟩
  refine ⟨exactly, ?_, found, ?_, ?_, ?_⟩
  · intro first second definition definition' declared declared' sameName
    have foundFirst := found first definition declared
    rw [sameName, found second definition' declared'] at foundFirst
    exact (Option.some.inj foundFirst).symm
  · intro name unused
    rw [Option.eq_none_iff_forall_ne_some]
    intro id bound
    exact unused id ((agree name id).mp bound)
  · have classes : model.SupertypesAreClasses := by
      apply writes.supertypesAreClasses
      simp [SupertypesAreClasses, blank, classDef?]
    intro id definition declared type member
    have isClass := classes id definition declared type member
    exact eq_cls_or_parameterized_of_classId? isClass
  · intro operation
    have performs := (edits_perform model operation).writes
    obtain ⟨moreClasses, moreVars⟩ := performs.size_le
    refine ⟨moreClasses, moreVars, fun id allocated => ?_⟩
    rw [isSome_classDef?_iff] at allocated ⊢
    omega

/-- A class `A` is renamed to `B`, its old name goes to a new class, and then it
is refused that name; the root is named like a class of the skeleton. -/
def handedDownName : Model :=
  (Model.new ⟨"java.util.List", true, .javaLang⟩).model.run
    [.internClass "com.example.A",
      .defineClass (.ofNat 14) (.bare "com.example.B" .cls),
      .addClass (.bare "com.example.A" .interface),
      .defineClass (.ofNat 14) (.bare "com.example.A" .cls)]

theorem names_agree_handedDownName :
    handedDownName.classes.size ≤ UInt32.size ∧
      handedDownName.classId? "com.example.B" = some (.ofNat 14) ∧
        handedDownName.classId? "com.example.A" = some (.ofNat 15) ∧
          handedDownName.classId? "java.util.List" =
            some handedDownName.root := by
  obtain ⟨room, first, second, root⟩ :
      handedDownName.classes.size ≤ UInt32.size ∧
        handedDownName.className? (.ofNat 14) = some "com.example.B" ∧
          handedDownName.className? (.ofNat 15) = some "com.example.A" ∧
            handedDownName.className? handedDownName.root =
              some "java.util.List" := by
    decide +kernel
  obtain ⟨exactly, _⟩ := names_agree_along_runs _ _ room
  exact ⟨room, (exactly _ _).mpr (Option.map_eq_some_iff.mp first),
    (exactly _ _).mpr (Option.map_eq_some_iff.mp second),
    (exactly _ _).mpr (Option.map_eq_some_iff.mp root)⟩

end Model

end JavaTypes
