import JavaTypes.Proofs.RefusedGenerics
import JavaTypes.Proofs.Registration

/-!
# A class added by name is a class reserved and defined

Adding a class by name checks its supertypes, reserves the name, and installs the
definition.  Defining a class whose name is reserved checks that the id is known,
checks the supertypes, and looks for another class of that name before it
installs the definition.  In a reachable model both come to the same: a name that
was reserved belongs to a known class that has no other name.

The two differ in the order of the first check and the reservation.  A refusal
names the supertype, and the text of a type may change when a class is reserved,
but not the text of a type whose ids are all allocated.
-/

namespace JavaTypes

namespace Model

/-! ## Checked supertypes -/

/-- Whether supertypes are refused does not depend on the model. -/
theorem checkSupertypes_eq_ok_iff {model : Model} {definition : ClassDef} :
    model.checkSupertypes definition = .ok () ↔
      ∀ type ∈ definition.supertypes, type.classId?.isSome = true := by
  constructor
  · exact classId?_isSome_of_checkSupertypes
  · intro classes
    cases checked : model.checkSupertypes definition with
    | ok => rfl
    | error error =>
        obtain ⟨type, member, noClass⟩ :=
          checkSupertypes_eq_error_iff.mp ⟨error, checked⟩
        have isClass := classes type member
        rw [noClass] at isClass
        cases isClass

/-- A model that knows more refuses the same supertypes with the same text. -/
private theorem checkSupertypes_of_extendedBy
    {before after : Model} (extended : before.env.ExtendedBy after.env)
    {definition : ClassDef}
    (known : ∀ type ∈ definition.supertypes, before.env.Knows type) :
    after.checkSupertypes definition = before.checkSupertypes definition := by
  unfold checkSupertypes
  split
  · rename_i type found
    have member := List.mem_of_find?_eq_some found
    have sameText : after.render .qualified type = before.render .qualified type :=
      extended.render_eq .qualified type (known type member)
    rw [sameText]
  · rfl

/-! ## Reserving a name -/

private theorem classDef?_internClass_of_ne
    {model : Model} {name : String} {other : ClassId}
    (differs : other ≠ (model.internClass name).2) :
    (model.internClass name).1.classDef? other = model.classDef? other := by
  cases bound : model.classId? name with
  | some id => rw [internClass_of_find? bound]
  | none =>
      rw [internClass_of_free bound] at differs
      have beyond : other.toNat ≠ model.classes.size := by
        intro same
        apply differs
        rw [← same, ClassId.ofNat_toNat]
      have unbound : model.names.find? name = none := bound
      simp [internClass, unbound, classDef?, Array.getElem?_push, beyond]

private theorem snd_internClass (model : Model) (name : String) :
    (model.internClass name).2 =
      (model.classId? name).getD (.ofNat model.classes.size) := by
  cases bound : model.classId? name with
  | some id => rw [internClass_of_find? bound, Option.getD_some]
  | none => rw [internClass_of_free bound, Option.getD_none]

private theorem config_internClass (model : Model) (name : String) :
    (model.internClass name).1.config = model.config := by
  unfold internClass
  split <;> rfl

private theorem root_internClass (model : Model) (name : String) :
    (model.internClass name).1.root = model.root := by
  unfold internClass
  split <;> rfl

/-! ## Installing a definition -/

private theorem answer_install_of_interned
    {first second : Model} (sameNodes : first.interned = second.interned)
    (id : ClassId) (definition : ClassDef) :
    (first.install id definition).answer =
      (second.install id definition).answer := by
  unfold install narrowedArity?
  rw [sameNodes]
  split
  · rfl
  · split <;> rfl

/-- A class that keeps its name keeps the table of names. -/
private theorem model_install_of_className?
    {model : Model} {id : ClassId} {definition : ClassDef}
    (named : model.className? id = some definition.name)
    (installed : (model.install id definition).answer = .ok ()) :
    (model.install id definition).model =
      { model with
        classes := model.classes.setIfInBounds id.toNat definition } := by
  have sameNames : model.renamed id definition.name = model.names := by
    simp [renamed, named]
  cases used : model.narrowedArity? id with
  | none => simp [install, used, sameNames]
  | some narrowed =>
      by_cases same : narrowed = definition.arity
      · simp [install, used, same, sameNames]
      · simp [install, used, same, Outcome.fail] at installed

/-- A definition that is installed already changes nothing. -/
private theorem model_install_of_classDef?
    {model : Model} {id : ClassId} {definition : ClassDef}
    (declared : model.classDef? id = some definition)
    (installed : (model.install id definition).answer = .ok ()) :
    (model.install id definition).model = model := by
  have named : model.className? id = some definition.name := by
    rw [className?, declared]
    rfl
  have sameClasses :
      model.classes.setIfInBounds id.toNat definition = model.classes := by
    apply Array.ext_getElem?
    intro index
    have found : model.classes[id.toNat]? = some definition := declared
    grind
  rw [model_install_of_className? named installed, sameClasses]

/-! ## Adding a class by name -/

/-- The definition stands behind the id, which its name is bound to.  All else is
as it was before. -/
structure Declares (before after : Model) (id : ClassId)
    (definition : ClassDef) : Prop where
  declared : after.classDef? id = some definition
  otherClasses : ∀ other, other ≠ id →
    after.classDef? other = before.classDef? other
  bound : after.classId? definition.name = some id
  otherNames : ∀ name, name ≠ definition.name →
    after.classId? name = before.classId? name
  typeVars : after.typeVars = before.typeVars
  root : after.root = before.root
  config : after.config = before.config
  interned : after.interned = before.interned

/-- A class that is added passed both checks. -/
private theorem checked_of_addClass
    {model : Model} {definition : ClassDef} {id : ClassId}
    (added : (model.addClass definition).answer = .ok id) :
    model.checkSupertypes definition = .ok () ∧
      ((model.internClass definition.name).1.install
        (model.internClass definition.name).2 definition).answer = .ok () ∧
      id = (model.internClass definition.name).2 := by
  cases checked : model.checkSupertypes definition with
  | error refused =>
      simp only [addClass, checked, Outcome.fail] at added
      cases added
  | ok =>
      rw [addClass_of_checked checked] at added
      simp only [Traced.map] at added
      cases installed : ((model.internClass definition.name).1.install
          (model.internClass definition.name).2 definition).answer with
      | error refused =>
          rw [installed] at added
          cases added
      | ok =>
          rw [installed] at added
          cases added
          exact ⟨rfl, rfl, rfl⟩

/-- Once the supertypes are checked, both ways install the definition. -/
theorem Reachable.addClass_eq_defineClass
    {model : Model} (reachable : model.Reachable)
    (room : model.classes.size < UInt32.size) {definition : ClassDef}
    (checked : model.checkSupertypes definition = .ok ()) :
    model.addClass definition =
      ((model.internClass definition.name).1.defineClass
        (model.internClass definition.name).2 definition).map
          fun answer => answer.map fun _ =>
            (model.internClass definition.name).2 := by
  have named := reachable.className?_internClass room definition.name
  have stillChecked :
      (model.internClass definition.name).1.checkSupertypes definition =
        .ok () := by
    rw [checkSupertypes_eq_ok_iff] at checked ⊢
    exact checked
  rw [addClass_of_checked checked,
    defineClass_of_checked (isSome_classDef?_of_className? named)
      (find?_internClass model definition.name) stillChecked]

theorem Reachable.answer_addClass
    {model : Model} (reachable : model.Reachable)
    (room : model.classes.size < UInt32.size) {definition : ClassDef}
    (known : ∀ type ∈ definition.supertypes, model.env.Knows type) :
    (model.addClass definition).answer =
      ((model.internClass definition.name).1.defineClass
        (model.internClass definition.name).2 definition).answer.map
          fun _ => (model.internClass definition.name).2 := by
  cases checked : model.checkSupertypes definition with
  | ok =>
      rw [reachable.addClass_eq_defineClass room checked]
      rfl
  | error refused =>
      have named := reachable.className?_internClass room definition.name
      have grows := size_internClass_le model definition.name
      have extended : model.env.ExtendedBy
          (model.internClass definition.name).1.env :=
        ((EnlargedBy.refl model).internClass definition.name (by omega)).env
      have sameText := checkSupertypes_of_extendedBy extended known
      rw [checked] at sameText
      have refusedToo :=
        (answer_defineClass_eq_error_iff (isSome_classDef?_of_className? named)
          (find?_internClass model definition.name)).mpr (Or.inl sameText)
      rw [refusedToo, addClass, checked]
      rfl

/-- Adding a class that stands there already is adding nothing. -/
private theorem addClass_of_declared
    {model : Model} {definition : ClassDef} {id : ClassId}
    (bound : model.classId? definition.name = some id)
    (declared : model.classDef? id = some definition)
    (checked : model.checkSupertypes definition = .ok ())
    (installed : (model.install id definition).answer = .ok ()) :
    (model.addClass definition).answer = .ok id ∧
      (model.addClass definition).model = model := by
  rw [addClass_of_checked checked, internClass_of_find? bound]
  constructor
  · simp only [Traced.map, installed]
    rfl
  · exact model_install_of_classDef? declared installed

theorem Reachable.declares_addClass
    {model : Model} (reachable : model.Reachable)
    (room : model.classes.size < UInt32.size) {definition : ClassDef}
    {id : ClassId} (added : (model.addClass definition).answer = .ok id) :
    model.Declares (model.addClass definition).model id definition := by
  obtain ⟨checked, installed, rfl⟩ := checked_of_addClass added
  have named := reachable.className?_internClass room definition.name
  have isDeclared : ((model.internClass definition.name).1.classDef?
      (model.internClass definition.name).2).isSome = true :=
    isSome_classDef?_of_className? named
  have result : (model.addClass definition).model =
      { (model.internClass definition.name).1 with
        classes := (model.internClass definition.name).1.classes.setIfInBounds
          (model.internClass definition.name).2.toNat definition } := by
    rw [addClass_of_checked checked]
    exact model_install_of_className? named installed
  rw [result]
  refine ⟨?_, ?_, ?_, ?_, typeVars_internClass model _, root_internClass model _,
    config_internClass model _, interned_internClass model _⟩
  · rw [classDef?_setIfInBounds, if_pos rfl]
    obtain ⟨old, found⟩ := Option.isSome_iff_exists.mp isDeclared
    rw [found]
    rfl
  · intro other differs
    rw [classDef?_setIfInBounds, if_neg differs]
    exact classDef?_internClass_of_ne differs
  · exact find?_internClass model definition.name
  · intro name differs
    have found := classId?_internClass model definition.name name
    rw [if_neg differs] at found
    exact found

theorem Declares.addClass
    {before after : Model} {id : ClassId} {definition : ClassDef}
    (declares : before.Declares after id definition)
    (added : (before.addClass definition).answer = .ok id) :
    (after.addClass definition).answer = .ok id ∧
      (after.addClass definition).model = after := by
  obtain ⟨checked, installed, rfl⟩ := checked_of_addClass added
  apply addClass_of_declared declares.bound declares.declared
  · rw [checkSupertypes_eq_ok_iff] at checked ⊢
    exact checked
  · have sameNodes :
        after.interned = (before.internClass definition.name).1.interned := by
      rw [declares.interned, interned_internClass]
    rw [answer_install_of_interned sameNodes]
    exact installed

/-- In every reachable model, adding a class by name is answered like reserving
its name and defining it: with the same id, or with the same error.  If it is
added, the same model results and the same events are reported.  The class has
the id that its name was bound to, or else the next one.  Its definition stands
behind that id, nothing else is different from before, and adding it again
changes nothing. -/
theorem addClass_agrees_with_reservation (model : Model)
    (reachable : model.Reachable) (room : model.classes.size < UInt32.size)
    (definition : ClassDef)
    (known : ∀ type ∈ definition.supertypes, model.env.Knows type) :
    let added := model.addClass definition
    let reserved := model.internClass definition.name
    let defined := reserved.1.defineClass reserved.2 definition
    added.answer = defined.answer.map (fun _ => reserved.2) ∧
    ∀ id, added.answer = .ok id →
      added.model = defined.model ∧
      added.events = defined.events ∧
      id = (model.classId? definition.name).getD (.ofNat model.classes.size) ∧
      model.Declares added.model id definition ∧
      (added.model.addClass definition).answer = .ok id ∧
      (added.model.addClass definition).model = added.model := by
  intro added reserved defined
  refine ⟨reachable.answer_addClass room known, ?_⟩
  intro id answered
  obtain ⟨checked, _, isReserved⟩ := checked_of_addClass answered
  have sameOutcome := reachable.addClass_eq_defineClass room checked
  have declares := reachable.declares_addClass room answered
  refine ⟨congrArg Traced.model sameOutcome, congrArg Traced.events sameOutcome,
    ?_, declares, declares.addClass answered⟩
  rw [isReserved, snd_internClass]

/-- A new class that implements a node of `java.util.List`, and `java.util.List`
itself without its type parameter.  The first is the next class, and it can be
added again.  The second is refused in both ways. -/
theorem addClass_agrees_with_reservation_skeleton :
    let names : ClassDef :=
      ⟨"com.example.Names", .cls, [], none,
        [.parameterized (.ofNat 12) [.cls (.ofNat 6)]]⟩
    let list : ClassDef := .bare "java.util.List" .interface
    skeleton.Reachable ∧ skeleton.classes.size < UInt32.size ∧
      (∀ type ∈ names.supertypes, skeleton.env.Knows type) ∧
      (∀ type ∈ list.supertypes, skeleton.env.Knows type) ∧
      skeleton.Declares (skeleton.addClass names).model (.ofNat 15) names ∧
      ((skeleton.addClass names).model.addClass names).model =
        (skeleton.addClass names).model ∧
      (skeleton.addClass list).answer =
        .error (.arityChange "java.util.List" 1 0) ∧
      (skeleton.defineClass (.ofNat 12) list).answer =
        .error (.arityChange "java.util.List" 1 0) := by
  intro names list
  have reachable : skeleton.Reachable := reachable_new _
  have knowsNames : ∀ type ∈ names.supertypes, skeleton.env.Knows type := by
    unfold Env.Knows
    decide +kernel
  have knowsList : ∀ type ∈ list.supertypes, skeleton.env.Knows type := by
    intro type member
    cases member
  obtain ⟨size, free, bound, narrowed, declared⟩ :
      skeleton.classes.size = 15 ∧
        skeleton.classId? "com.example.Names" = none ∧
          skeleton.names.find? "java.util.List" = some (.ofNat 12) ∧
            skeleton.narrowedArity? (.ofNat 12) = some 1 ∧
              (skeleton.classDef? (.ofNat 12)).isSome = true := by
    decide +kernel
  -- From here on the model is known by these facts only.
  generalize skeleton = model at *
  have room : model.classes.size < UInt32.size := by
    rw [size]
    decide
  have added := reachable.nodesFit.answer_addClass room free
    (show model.checkSupertypes names = .ok () from rfl)
  rw [size] at added
  obtain ⟨_, onSuccess⟩ :=
    addClass_agrees_with_reservation model reachable room names knowsNames
  obtain ⟨_, _, _, declares, _, repeated⟩ := onSuccess _ added
  have refused : (model.defineClass (.ofNat 12) list).answer =
      .error (.arityChange "java.util.List" 1 0) :=
    (answer_defineClass_eq_error_iff declared bound).mpr
      (Or.inr ⟨rfl, 1, narrowed, by decide, rfl⟩)
  obtain ⟨sameAnswer, _⟩ :=
    addClass_agrees_with_reservation model reachable room list knowsList
  have reserved : model.internClass list.name = (model, .ofNat 12) :=
    internClass_of_find? bound
  rw [reserved, refused] at sameAnswer
  exact ⟨reachable, room, knowsNames, knowsList, declares, repeated, sameAnswer,
    refused⟩

end Model

end JavaTypes
