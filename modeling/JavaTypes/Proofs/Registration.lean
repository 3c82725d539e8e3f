import JavaTypes.Proofs.ClassNames
import JavaTypes.Proofs.Extension
import JavaTypes.Proofs.FailedOperations

/-!
# New registrations leave old answers alone

Reserving names, allocating variables, adding classes under new names and
narrowing only add to a model.  What the model knew before is still there after
each step, whether the step succeeds or fails half-way: a generic class that is
refused has been given an id and variables, all of them new.  A class that was
added meanwhile may even be added again with another definition.

So an answer that a self-contained model once gave about its own types stays
right while others go on registering.
-/

namespace JavaTypes

/-- The operation redefines nothing that the model has: a class that it defines
has a name that is new to the model. -/
def Operation.registers (model : Model) : Operation → Bool
  | .internClass _ => true
  | .addTypeVar _ => true
  | .addClass definition => (model.classId? definition.name).isNone
  | .addGeneric name _ _ _ _ => (model.classId? name).isNone
  | .narrow _ _ => true
  | .narrowClass _ _ => true
  | .defineClass _ _ => false
  | .defineTypeVar _ _ => false

namespace Model

/-- The second model has all declarations of the first, and names that are new
to the first stand for classes that are new to it. -/
structure EnlargedBy (before after : Model) : Prop where
  env : before.env.ExtendedBy after.env
  size : before.classes.size ≤ after.classes.size
  newNames : ∀ {name id}, before.classId? name = none →
    after.classId? name = some id → before.classDef? id = none

theorem EnlargedBy.refl (model : Model) : model.EnlargedBy model where
  env := .refl model.env
  size := Nat.le_refl _
  newNames := by
    intro name id free bound
    rw [free] at bound
    cases bound

/-- A name that is found after a class took a name was found before or is that
of the class. -/
private theorem find?_of_renamed
    {model : Model} {id found : ClassId} {name query : String}
    (bound : (model.renamed id name).find? query = some found) :
    model.names.find? query = some found ∨ found = id := by
  unfold renamed at bound
  split at bound
  · exact Or.inl bound
  · split at bound
    · exact Or.inl bound
    · split at bound
      · simp only [NameTable.find?_insert, NameTable.find?_erase] at bound
        grind
      · simp only [NameTable.find?_insert] at bound
        grind

namespace EnlargedBy

variable {before model : Model}

/-! ## One step -/

theorem internClass
    (enlarged : before.EnlargedBy model) (name : String)
    (room : (model.internClass name).1.classes.size ≤ UInt32.size) :
    before.EnlargedBy (model.internClass name).1 := by
  unfold Model.internClass at room ⊢
  cases free : model.names.find? name with
  | some id => exact enlarged
  | none =>
      simp only [free, Array.size_push] at room
      have larger := enlarged.size
      refine ⟨?_, ?_, ?_⟩
      · exact enlarged.env.trans ⟨rfl, rfl,
          fun declared => classDef?_of_push declared, fun declared => declared⟩
      · simp only [Array.size_push]
        omega
      · intro query id unknown bound
        simp only [Model.classId?, NameTable.find?_insert] at bound
        split at bound
        · -- The name just reserved has the next id, beyond all old ones.
          cases bound
          simpa [Model.classDef?, ClassId.toNat_ofNat room] using larger
        · exact enlarged.newNames unknown bound

/-- Reserving a name that is new to a model gives a class that is new to it. -/
private theorem classDef?_internClass
    (enlarged : before.EnlargedBy model) {name : String}
    (free : before.classId? name = none)
    (room : (model.internClass name).1.classes.size ≤ UInt32.size) :
    before.classDef? (model.internClass name).2 = none :=
  (enlarged.internClass name room).newNames free (find?_internClass model name)

theorem addTypeVar
    (enlarged : before.EnlargedBy model) (definition : TypeVarDef) :
    before.EnlargedBy (model.addTypeVar definition).model := by
  refine ⟨enlarged.env.trans ⟨rfl, rfl, fun declared => declared, ?_⟩,
    enlarged.size, enlarged.newNames⟩
  intro var old declared
  have inside : var.toNat < model.typeVars.size :=
    (Array.getElem?_eq_some_iff.mp declared).1
  have differs : var.toNat ≠ model.typeVars.size := Nat.ne_of_lt inside
  have found : model.typeVars[var.toNat]? = some old := declared
  simpa [Model.env, Model.addTypeVar, typeVarDef?, Array.getElem?_push,
    differs] using found

theorem addTypeParams
    (enlarged : before.EnlargedBy model) (owner : ClassId)
    (names : List String) :
    before.EnlargedBy (model.addTypeParams owner names).model := by
  induction names generalizing model with
  | nil => exact enlarged
  | cons name names inductionHypothesis =>
      have first := enlarged.addTypeVar ⟨name, .cls owner, none⟩
      exact inductionHypothesis first

/-- A definition behind an id that was not in use hides nothing. -/
theorem install
    (enlarged : before.EnlargedBy model) {id : ClassId}
    (unused : before.classDef? id = none) (definition : ClassDef) :
    before.EnlargedBy (model.install id definition).model := by
  have installed :
      before.EnlargedBy
        { model with
          names := model.renamed id definition.name
          classes := model.classes.setIfInBounds id.toNat definition } := by
    refine ⟨⟨enlarged.env.root, enlarged.env.uncheckedRaw, ?_,
      enlarged.env.typeVarDef?⟩, ?_, ?_⟩
    · intro other old declared
      have differs : other ≠ id := by
        rintro rfl
        have found : before.classDef? other = some old := declared
        rw [unused] at found
        cases found
      change Model.classDef? _ other = some old
      rw [classDef?_setIfInBounds, if_neg differs]
      exact enlarged.env.classDef? declared
    · simpa using enlarged.size
    · intro query found free bound
      rcases find?_of_renamed bound with old | rfl
      · exact enlarged.newNames free old
      · exact unused
  unfold Model.install
  split
  · exact installed
  · split
    · exact installed
    · exact enlarged

theorem defineClass
    (enlarged : before.EnlargedBy model) {id : ClassId}
    (unused : before.classDef? id = none) (definition : ClassDef) :
    before.EnlargedBy (model.defineClass id definition).model := by
  have installed := enlarged.install unused definition
  unfold Model.defineClass
  split
  · exact enlarged
  · split
    · exact enlarged
    · split
      · exact installed
      · split
        · exact installed
        · exact enlarged

theorem addClass
    (enlarged : before.EnlargedBy model) {definition : ClassDef}
    (free : before.classId? definition.name = none)
    (room : (model.addClass definition).model.classes.size ≤ UInt32.size) :
    before.EnlargedBy (model.addClass definition).model := by
  cases checked : model.checkSupertypes definition with
  | error refused =>
      simp only [Model.addClass, checked]
      exact enlarged
  | ok =>
      rw [addClass_of_checked checked] at room ⊢
      have edits :=
        edits_install (classId?_isSome_of_checkSupertypes checked)
          (Or.inl (find?_internClass model definition.name))
      have left := Nat.le_trans edits.writes.size_le.1 room
      have unused := enlarged.classDef?_internClass free left
      exact (enlarged.internClass _ left).install unused definition

theorem addGeneric
    (enlarged : before.EnlargedBy model) {name : String} {kind : ClassKind}
    {params : List String} {superClass : Option Ty} {interfaces : List Ty}
    (free : before.classId? name = none)
    (room : (model.addGeneric name kind params superClass
      interfaces).model.classes.size ≤ UInt32.size) :
    before.EnlargedBy
      (model.addGeneric name kind params superClass interfaces).model := by
  have edits :
      Edits (model.internClass name).1
        (model.addGeneric name kind params superClass interfaces).model :=
    (edits_addTypeParams _ (model.internClass name).2 params).trans
      (edits_defineClass _ _ _)
  have left := Nat.le_trans edits.writes.size_le.1 room
  have unused := enlarged.classDef?_internClass free left
  have reserved := enlarged.internClass name left
  have withParams := reserved.addTypeParams (model.internClass name).2 params
  exact withParams.defineClass unused _

theorem narrowClass
    (enlarged : before.EnlargedBy model) (id : ClassId) (args : List Ty) :
    before.EnlargedBy (model.narrowClass id args).model := by
  obtain ⟨interned, sameModel⟩ := exists_model_narrowClass model id args
  rw [sameModel]
  exact ⟨enlarged.env, enlarged.size, enlarged.newNames⟩

theorem narrow
    (enlarged : before.EnlargedBy model) (type : Ty) (args : List Ty) :
    before.EnlargedBy (model.narrow type args).model := by
  unfold Model.narrow
  split
  · exact enlarged
  · exact enlarged.narrowClass _ args

theorem perform
    (enlarged : before.EnlargedBy model) {operation : Operation}
    (registers : operation.registers before = true)
    (room : (model.perform operation).classes.size ≤ UInt32.size) :
    before.EnlargedBy (model.perform operation) := by
  cases operation with
  | internClass name => exact enlarged.internClass name room
  | addTypeVar definition => exact enlarged.addTypeVar definition
  | addClass definition =>
      exact enlarged.addClass (Option.isNone_iff_eq_none.mp registers) room
  | addGeneric name kind params superClass interfaces =>
      exact enlarged.addGeneric (Option.isNone_iff_eq_none.mp registers) room
  | narrow type args => exact enlarged.narrow type args
  | narrowClass id args => exact enlarged.narrowClass id args
  | defineClass id definition => cases registers
  | defineTypeVar var definition => cases registers

/-! ## Runs -/

theorem run
    (enlarged : before.EnlargedBy model) {operations : List Operation}
    (registers : ∀ operation ∈ operations, operation.registers before = true)
    (room : (model.run operations).classes.size ≤ UInt32.size) :
    before.EnlargedBy (model.run operations) := by
  induction operations generalizing model with
  | nil => exact enlarged
  | cons operation operations inductionHypothesis =>
      rw [List.forall_mem_cons] at registers
      have grows := (edits_run (model.perform operation) operations).writes.size_le
      have left := Nat.le_trans grows.1 room
      have first := enlarged.perform registers.1 left
      exact inductionHypothesis first registers.2 room

end EnlargedBy

def RootDeclared (model : Model) : Prop :=
  model.root.toNat < model.classes.size

private theorem Setup.rootDeclared
    {before after : Model} (step : Setup before after)
    (declared : before.RootDeclared) : after.RootDeclared := by
  have grows := step.write.size_le
  have sameRoot : after.root = before.root := by
    cases step <;> rfl
  unfold RootDeclared at declared ⊢
  rw [sameRoot]
  omega

private theorem Edit.rootDeclared
    {before after : Model} (edit : Edit before after)
    (declared : before.RootDeclared) : after.RootDeclared := by
  have grows := edit.write.size_le
  have sameRoot : after.root = before.root := by
    cases edit <;> rfl
  unfold RootDeclared at declared ⊢
  rw [sameRoot]
  omega

theorem Reachable.knows_root
    {model : Model} (reachable : model.Reachable) :
    model.env.Knows model.env.rootTy := by
  have alone (config : Config) : (rootOnly config).RootDeclared :=
    Nat.zero_lt_one
  have declared : model.RootDeclared :=
    reachable.invariant alone Setup.rootDeclared Edit.rootDeclared
  exact Env.knows_cls_iff.mpr
    ((isSome_classDef?_iff model model.root).mpr declared)

/-- Whatever is registered in a reachable model that is self-contained, all
questions about types and classes that it knows keep their answers. -/
theorem registrations_keep_answers
    (model : Model) (reachable : model.Reachable)
    (contained : model.env.SelfContained) (operations : List Operation)
    (registers : ∀ operation ∈ operations, operation.registers model = true)
    (room : (model.run operations).classes.size ≤ UInt32.size) :
    (∀ target source, model.env.Knows target → model.env.Knows source →
      (model.run operations).env.isAssignable target source =
        model.env.isAssignable target source) ∧
    (∀ sub sup, model.env.Knows (.cls sub) → model.env.Knows (.cls sup) →
      (model.run operations).env.isSubclass sub sup =
        model.env.isSubclass sub sup) ∧
    (∀ type, model.env.Knows type →
      (model.run operations).erasure type = model.erasure type ∧
        ∀ style,
          (model.run operations).render style type =
            model.render style type) := by
  have extended := ((EnlargedBy.refl model).run registers room).env
  have rootKnown := reachable.knows_root
  refine ⟨?_, ?_, ?_⟩
  · intro target source targetKnown sourceKnown
    exact extended.accepts_eq contained rootKnown [] target source targetKnown
      sourceKnown
  · intro sub sup subKnown _
    exact extended.isSubclass_eq contained subKnown sup
  · intro type known
    exact ⟨extended.erase_eq contained [] type known,
      fun style => extended.render_eq style type known⟩

/-! ## The skeleton, and classes added to it -/

/-- That a model is self-contained can be checked along its tables. -/
theorem selfContained_of_forall
    {model : Model}
    (supertypes : ∀ definition ∈ model.classes.toList,
      ∀ type ∈ definition.supertypes, ∀ symbol ∈ type.symbols,
        (model.env.name? symbol).isSome = true)
    (bounds : ∀ definition ∈ model.typeVars.toList,
      ∀ bound ∈ definition.upperBound, ∀ symbol ∈ bound.symbols,
        (model.env.name? symbol).isSome = true) :
    model.env.SelfContained where
  supertypes := fun declared =>
    supertypes _ (Array.mem_toList_iff.mpr (Array.mem_of_getElem? declared))
  bounds := fun declared =>
    bounds _ (Array.mem_toList_iff.mpr (Array.mem_of_getElem? declared))

/-- A name that is reserved and later gets its class, a generic class that is
refused for its supertype, a class `Box<T>` and a class below it, a variable, and
nodes of old and new classes. -/
def registrations : List Operation :=
  [.internClass "com.example.A",
    .addGeneric "com.example.Broken" .cls ["T"] (some .unbounded) [],
    .addGeneric "com.example.Box" .cls ["T"] none [.cls (.ofNat 12)],
    .addClass ⟨"com.example.B", .cls, [], some (.cls (.ofNat 17)), []⟩,
    .addClass ⟨"com.example.A", .cls, [], some (.cls (.ofNat 18)), []⟩,
    .addTypeVar ⟨"U", .cls (.ofNat 17), some (.cls (.ofNat 18))⟩,
    .narrow (.cls (.ofNat 12)) [.cls (.ofNat 18)],
    .narrowClass (.ofNat 14) [.cls (.ofNat 17)]]

/-- `Iterable` accepts `ArrayList<String>` before and after. -/
theorem registrations_keep_skeleton_answers :
    skeleton.Reachable ∧ skeleton.env.SelfContained ∧
      (∀ operation ∈ registrations, operation.registers skeleton = true) ∧
        (skeleton.run registrations).classes.size = 19 ∧
      (skeleton.run registrations).env.isAssignable (.cls (.ofNat 5))
          (.parameterized (.ofNat 13) [.cls (.ofNat 6)]) = true ∧
        (skeleton.run registrations).env.isSubclass (.ofNat 13) (.ofNat 5) =
            true ∧
          (skeleton.run registrations).erasure (.typeVar (.ofNat 0)) =
              skeleton.erasure (.typeVar (.ofNat 0)) ∧
            (skeleton.run registrations).render .simple
                (.parameterized (.ofNat 13) [.cls (.ofNat 6)]) =
              "ArrayList<String>" := by
  have reachable : skeleton.Reachable := reachable_new _
  have contained : skeleton.env.SelfContained := by
    apply selfContained_of_forall
    all_goals decide +kernel
  obtain ⟨registers, size⟩ :
      (∀ operation ∈ registrations, operation.registers skeleton = true) ∧
        (skeleton.run registrations).classes.size = 19 := by
    decide +kernel
  have room : (skeleton.run registrations).classes.size ≤ UInt32.size := by
    rw [size]
    decide
  have known : skeleton.env.Knows
      (.parameterized (.ofNat 13) [.cls (.ofNat 6)]) := by
    unfold Env.Knows
    decide +kernel
  have iterableKnown : skeleton.env.Knows (.cls (.ofNat 5)) := by
    unfold Env.Knows
    decide +kernel
  have variableKnown : skeleton.env.Knows (.typeVar (.ofNat 0)) := by
    unfold Env.Knows
    decide +kernel
  have subclass : skeleton.env.isSubclass (.ofNat 13) (.ofNat 5) = true := by
    obtain ⟨list, collection, iterable⟩ :
        ClassId.ofNat 12 ∈ skeleton.env.parents (.ofNat 13) ∧
          ClassId.ofNat 11 ∈ skeleton.env.parents (.ofNat 12) ∧
            ClassId.ofNat 5 ∈ skeleton.env.parents (.ofNat 11) := by
      decide +kernel
    rw [Env.mem_parents_iff] at list collection iterable
    exact (Env.isSubclass_eq_true_iff _ _ _).mpr
      (Or.inr (Or.inr (.head list (.head collection (.single iterable)))))
  obtain ⟨assignable, subclasses, texts⟩ :=
    registrations_keep_answers skeleton reachable contained registrations
      registers room
  refine ⟨reachable, contained, registers, size, ?_, ?_, ?_, ?_⟩
  · rw [assignable _ _ iterableKnown known, Env.isAssignable,
      Env.accepts_cls_parameterized]
    exact subclass
  · rw [subclasses _ _ known.erasure iterableKnown]
    exact subclass
  · exact (texts _ variableKnown).1
  · rw [(texts _ known).2 .simple]
    decide +kernel

end Model

end JavaTypes
