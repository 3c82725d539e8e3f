import JavaTypes.Proofs.NarrowedArity

/-!
# Failed operations leave the model alone

An operation that fails gives back the model it was called on and reports no
event.  For most operations every check comes before the first change.

Adding a class by name is the exception: it reserves an id for a new name before
its last check, which compares the number of type parameters with that of the
nodes of the class.  That check cannot fail for a new id.  Nodes belong to
declared classes, and the new id was not declared before.
-/

namespace JavaTypes

/-- A failed operation leaves the model as it was and reports nothing. -/
def Outcome.Atomic {α : Type} (outcome : Outcome α) (before : Model) : Prop :=
  ∀ error, outcome.answer = .error error →
    outcome.model = before ∧ outcome.events = []

namespace Model

private theorem atomic_fail {α : Type} (model : Model) (error : ModelError) :
    (Outcome.fail model error : Outcome α).Atomic model :=
  fun _ _ => ⟨rfl, rfl⟩

private theorem atomic_of_ok
    {α : Type} {outcome : Outcome α} {model : Model} {result : α}
    (succeeded : outcome.answer = .ok result) : outcome.Atomic model := by
  intro error failed
  rw [succeeded] at failed
  cases failed

theorem atomic_map
    {α β : Type} {outcome : Outcome α} {model : Model}
    (atomic : outcome.Atomic model) (change : α → β) :
    Outcome.Atomic (Traced.map outcome fun answer => answer.map change)
      model := by
  intro error failed
  simp only [Traced.map] at failed
  cases answered : outcome.answer with
  | ok result =>
      rw [answered] at failed
      cases failed
  | error refused => exact atomic refused answered

/-! ## Operations that check before they change -/

private theorem atomic_install (model : Model) (id : ClassId)
    (definition : ClassDef) :
    (model.install id definition).Atomic model := by
  unfold install
  split
  · exact atomic_of_ok rfl
  · split
    · exact atomic_of_ok rfl
    · exact atomic_fail model _

theorem atomic_defineClass (model : Model) (id : ClassId)
    (definition : ClassDef) :
    (model.defineClass id definition).Atomic model := by
  unfold defineClass
  split
  · exact atomic_fail model _
  · split
    · exact atomic_fail model _
    · split
      · exact atomic_install model id definition
      · split
        · exact atomic_install model id definition
        · exact atomic_fail model _

theorem atomic_defineTypeVar (model : Model) (var : TypeVarId)
    (definition : TypeVarDef) :
    (model.defineTypeVar var definition).Atomic model := by
  unfold defineTypeVar
  split
  · exact atomic_fail model _
  · exact atomic_of_ok rfl

theorem atomic_narrowClass (model : Model) (id : ClassId) (args : List Ty) :
    (model.narrowClass id args).Atomic model := by
  unfold narrowClass
  split
  · exact atomic_fail model _
  · split
    · exact atomic_fail model _
    · split
      · exact atomic_of_ok rfl
      · exact atomic_of_ok rfl

theorem atomic_narrow (model : Model) (type : Ty) (args : List Ty) :
    (model.narrow type args).Atomic model := by
  unfold narrow
  split
  · exact atomic_fail model _
  · exact atomic_narrowClass model _ args

/-! ## Adding a class by name -/

/-- A class that is not declared was never applied to arguments. -/
theorem NodesFit.narrowedArity?_eq_none
    {model : Model} (fit : model.NodesFit) {id : ClassId}
    (unknown : model.classDef? id = none) : model.narrowedArity? id = none := by
  rw [Option.eq_none_iff_forall_ne_some]
  intro count met
  obtain ⟨node, member, sameClass, _⟩ :=
    (firstArity?_eq_some_iff fit id count).mp met
  obtain ⟨definition, declared, _⟩ := fit node member
  rw [sameClass, unknown] at declared
  cases declared

private theorem answer_install_of_narrowedArity?
    {model : Model} {id : ClassId} (unused : model.narrowedArity? id = none)
    (definition : ClassDef) :
    (model.install id definition).answer = .ok () := by
  simp [install, unused]

/-- Once the supertypes are checked, adding a class reserves its name and
installs it. -/
theorem addClass_of_checked
    {model : Model} {definition : ClassDef}
    (checked : model.checkSupertypes definition = .ok ()) :
    model.addClass definition =
      ((model.internClass definition.name).1.install
        (model.internClass definition.name).2 definition).map
          fun answer => answer.map fun _ =>
            (model.internClass definition.name).2 := by
  simp only [addClass, checked]

theorem internClass_of_free
    {model : Model} {name : String} (free : model.classId? name = none) :
    (model.internClass name).2 = .ofNat model.classes.size := by
  have unbound : model.names.find? name = none := free
  simp [internClass, unbound]

/-- The next id is that of no class yet. -/
theorem classDef?_ofNat_size
    {model : Model} (room : model.classes.size < UInt32.size) :
    model.classDef? (.ofNat model.classes.size) = none := by
  simp [classDef?, ClassId.toNat_ofNat room]

/-- A class with a new name and checked supertypes is always added. -/
theorem NodesFit.answer_addClass
    {model : Model} (fit : model.NodesFit)
    (room : model.classes.size < UInt32.size) {definition : ClassDef}
    (free : model.classId? definition.name = none)
    (checked : model.checkSupertypes definition = .ok ()) :
    (model.addClass definition).answer = .ok (.ofNat model.classes.size) := by
  have unused : (model.internClass definition.name).1.narrowedArity?
      (.ofNat model.classes.size) = none := by
    rw [narrowedArity?, interned_internClass]
    exact fit.narrowedArity?_eq_none (classDef?_ofNat_size room)
  rw [addClass_of_checked checked, internClass_of_free free, Traced.map,
    answer_install_of_narrowedArity? unused]
  rfl

theorem NodesFit.atomic_addClass
    {model : Model} (fit : model.NodesFit)
    (room : model.classes.size < UInt32.size) (definition : ClassDef) :
    (model.addClass definition).Atomic model := by
  cases checked : model.checkSupertypes definition with
  | error refused =>
      simp only [addClass, checked]
      exact atomic_fail model refused
  | ok =>
      cases bound : model.classId? definition.name with
      | none => exact atomic_of_ok (fit.answer_addClass room bound checked)
      | some id =>
          rw [addClass_of_checked checked, internClass_of_find? bound]
          exact atomic_map (atomic_install model id definition) _

/-- In every reachable model an operation that fails changes nothing.  In
particular a class with a new name, for which an id is reserved, is added
whenever its supertypes are classes. -/
theorem failed_operations_keep_model (model : Model)
    (reachable : model.Reachable) (room : model.classes.size < UInt32.size) :
    (∀ id definition, (model.defineClass id definition).Atomic model) ∧
    (∀ definition, (model.addClass definition).Atomic model) ∧
    (∀ var definition, (model.defineTypeVar var definition).Atomic model) ∧
    (∀ type args, (model.narrow type args).Atomic model) ∧
    (∀ id args, (model.narrowClass id args).Atomic model) ∧
    (∀ definition, model.classId? definition.name = none →
      model.checkSupertypes definition = .ok () →
        (model.addClass definition).answer =
          .ok (.ofNat model.classes.size)) := by
  obtain ⟨config, operations, rfl⟩ := reachable
  have fit := (nodesFit_new config).run operations
  exact ⟨atomic_defineClass _, fit.atomic_addClass room, atomic_defineTypeVar _,
    atomic_narrow _, atomic_narrowClass _,
    fun _ free checked => fit.answer_addClass room free checked⟩

/-- A model with the skeleton of the standard library. -/
def skeleton : Model :=
  (Model.new ⟨"java.lang.Object", true, .javaLang⟩).model

/-- The interface `java.util.List` was applied to one argument, so it cannot be
declared without type parameters, and the attempt changes nothing. -/
theorem failed_addClass_keeps_skeleton :
    skeleton.Reachable ∧ skeleton.classes.size < UInt32.size ∧
      (skeleton.addClass (.bare "java.util.List" .interface)).answer =
          .error (.arityChange "java.util.List" 1 0) ∧
        (skeleton.addClass (.bare "java.util.List" .interface)).model =
            skeleton ∧
          (skeleton.addClass (.bare "com.example.A" .cls)).answer =
            .ok (.ofNat 15) := by
  have reachable : skeleton.Reachable := reachable_new _
  obtain ⟨size, free, bound, narrowed⟩ :
      skeleton.classes.size = 15 ∧
        skeleton.classId? "com.example.A" = none ∧
          skeleton.names.find? "java.util.List" = some (.ofNat 12) ∧
            skeleton.narrowedArity? (.ofNat 12) = some 1 := by
    decide +kernel
  -- From here on the model is known by these facts only.
  generalize skeleton = model at *
  have room : model.classes.size < UInt32.size := by
    rw [size]
    decide
  have failed :
      (model.addClass (.bare "java.util.List" .interface)).answer =
        .error (.arityChange "java.util.List" 1 0) := by
    rw [addClass_of_checked rfl]
    simp [ClassDef.bare, internClass_of_find? bound, install, narrowed,
      ClassDef.arity, Traced.map, Outcome.fail, Except.map]
  obtain ⟨_, atomicAddClass, _, _, _, added⟩ :=
    failed_operations_keep_model model reachable room
  have addedA := added (.bare "com.example.A" .cls) free rfl
  rw [size] at addedA
  exact ⟨reachable, room, failed, (atomicAddClass _ _ failed).1, addedA⟩

end Model

end JavaTypes
