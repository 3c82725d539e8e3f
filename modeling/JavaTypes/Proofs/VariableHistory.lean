import JavaTypes.Variable

/-!
# The history of a declared variable

A declared variable is renamed, retyped, given an initializer and annotated, and
the members of its annotations are set.  Each of these changes checks what it is
given and may be refused.  Whatever changes are asked for, and in whatever
order, the variable stays valid: its name and the names of all members are
identifiers, its type is neither `void` nor a wildcard, and no annotation sets a
member twice.

A refused change leaves the variable alone.  So the type of a variable is the
one that was installed last, and this is what the next change of type answers.
-/

namespace JavaTypes

/-! ## Names -/

/-- The text starts like an identifier, goes on like one, and is not a reserved
word. -/
def WellSpelled (name : String) : Prop :=
  (∃ first rest, name.toList = first :: rest ∧
    isIdentifierStart first = true ∧
      ∀ c ∈ rest, isIdentifierPart c = true) ∧
    name ∉ reservedWords

theorem isIdentifier_iff_wellSpelled {name : String} :
    IsIdentifier name ↔ WellSpelled name := by
  unfold IsIdentifier checkIdentifier WellSpelled
  generalize name.toList = chars
  cases chars with
  | nil => simp
  | cons first rest =>
      by_cases start : isIdentifierStart first = true
      · by_cases parts : rest.all isIdentifierPart = true
        · by_cases reserved : name ∈ reservedWords
          · simp [start, parts, reserved]
          · have goesOn : ∀ c ∈ rest, isIdentifierPart c = true :=
              List.all_eq_true.mp parts
            have spelled : ∃ head tail, first :: rest = head :: tail ∧
                isIdentifierStart head = true ∧
                  ∀ c ∈ tail, isIdentifierPart c = true :=
              ⟨first, rest, rfl, start, goesOn⟩
            simp only [start, parts, reserved, Bool.not_true,
              Bool.false_eq_true, if_false, true_iff, not_false_eq_true,
              and_true]
            exact spelled
        · have badPart : ¬ ∀ c ∈ rest, isIdentifierPart c = true := by
            rwa [← List.all_eq_true]
          simp [start, parts, badPart]
      · simp [start]

theorem checkName_eq_ok_iff {name : String} :
    checkName name = .ok () ↔ WellSpelled name := by
  rw [← isIdentifier_iff_wellSpelled, IsIdentifier, checkName]
  cases checkIdentifier name with
  | error error =>
      constructor
      · intro accepted
        cases accepted
      · intro accepted
        cases accepted
  | ok => exact ⟨fun _ => rfl, fun _ => rfl⟩

/-! ## Annotations -/

namespace AnnotationUse

/-- The names of the members that were given values. -/
def memberNames (usage : AnnotationUse) : List String :=
  usage.members.map Prod.fst

/-- The names of the members are identifiers, and each member is set once. -/
structure Valid (usage : AnnotationUse) : Prop where
  spelled : ∀ name ∈ usage.memberNames, WellSpelled name
  once : usage.memberNames.Nodup

theorem valid_ofTy (type : Ty) : (ofTy type).Valid :=
  ⟨by simp [memberNames, ofTy], by simp [memberNames, ofTy]⟩

/-- A member that is set stays where it is; another one comes last. -/
theorem map_fst_setMember (name : String) (value : AnnotationValue)
    (members : List (String × AnnotationValue)) :
    (setMember name value members).map Prod.fst =
      if name ∈ members.map Prod.fst then members.map Prod.fst
      else members.map Prod.fst ++ [name] := by
  induction members with
  | nil => rfl
  | cons member members inductionHypothesis =>
      obtain ⟨first, old⟩ := member
      by_cases same : first = name
      · simp [setMember, same]
      · have differs : name ≠ first := fun equal => same equal.symm
        simp only [setMember, same, if_false, List.map_cons,
          inductionHypothesis, List.mem_cons, differs, false_or]
        split <;> rfl

theorem Valid.set
    {usage : AnnotationUse} (valid : usage.Valid) (name : String)
    (value : AnnotationValue) : (usage.set name value).1.Valid := by
  cases checked : checkName name with
  | error error =>
      simp only [AnnotationUse.set, checked]
      exact valid
  | ok =>
      have spelled : WellSpelled name := checkName_eq_ok_iff.mp checked
      have names :
          (usage.set name value).1.memberNames =
            if name ∈ usage.memberNames then usage.memberNames
            else usage.memberNames ++ [name] := by
        simp only [AnnotationUse.set, checked]
        exact map_fst_setMember name value usage.members
      by_cases known : name ∈ usage.memberNames
      · rw [if_pos known] at names
        exact ⟨names ▸ valid.spelled, names ▸ valid.once⟩
      · rw [if_neg known] at names
        constructor
        · rw [names]
          intro other member
          rcases List.mem_append.mp member with old | new
          · exact valid.spelled other old
          · rw [List.mem_singleton] at new
            exact new ▸ spelled
        · rw [names, List.nodup_append]
          refine ⟨valid.once, by simp, ?_⟩
          intro other old same last equal
          rw [List.mem_singleton] at last
          exact known (last ▸ equal ▸ old)

theorem type_set (usage : AnnotationUse) (name : String)
    (value : AnnotationValue) : (usage.set name value).1.type = usage.type := by
  unfold AnnotationUse.set
  split <;> rfl

/-- A refused member leaves the annotation alone. -/
private theorem set_of_error
    {usage : AnnotationUse} {name : String} {value : AnnotationValue}
    {error : DeclarationError}
    (refused : (usage.set name value).2 = .error error) :
    (usage.set name value).1 = usage := by
  unfold AnnotationUse.set at refused ⊢
  split at refused
  · rfl
  · cases refused

end AnnotationUse

/-! ## Changes of a variable -/

/-- A change of a declared variable that is asked for.  Members are set on the
annotation at a position. -/
inductive VariableChange where
  | rename (name : String)
  | retype (type : Option Ty)
  | setInitializer (initializer : Option ExprId)
  | annotate (type : Ty)
  | setMember (position : Nat) (name : String) (value : AnnotationValue)
  deriving DecidableEq

namespace VariableChange

/-- The type that a change installs. -/
def installs? : VariableChange → Option Ty
  | .retype (some type) =>
      if type = .primitive .void ∨ type.isWildcard = true then none
      else some type
  | _ => none

/-- The annotation that a change adds. -/
def annotates? : VariableChange → Option Ty
  | .annotate type => some type
  | _ => none

end VariableChange

/-- A refused edit leaves the variable as it was and reports nothing. -/
def Edited.Atomic {α : Type} (edited : Edited α) (before : Variable) : Prop :=
  ∀ error, edited.answer = .error error →
    edited.after = before ∧ edited.events = []

namespace Variable

/-- The variable after a change, made or refused. -/
def perform (declared : Variable) : VariableChange → Variable
  | .rename name => (declared.rename name).after
  | .retype type => (declared.retype type).after
  | .setInitializer initializer => declared.setInitializer initializer
  | .annotate type => declared.annotate type
  | .setMember position name value =>
      (declared.setAnnotationMember position name value).after

/-- The variable after a history of changes. -/
def history (declared : Variable) (changes : List VariableChange) : Variable :=
  changes.foldl perform declared

/-- The type after a history of changes: the one that was installed last, or
else the first. -/
def lastType (first : Ty) (changes : List VariableChange) : Ty :=
  (changes.filterMap VariableChange.installs?).getLast?.getD first

/-- A variable as every history leaves it. -/
structure Valid (declared : Variable) : Prop where
  spelled : WellSpelled declared.name
  notVoid : declared.type ≠ .primitive .void
  notWildcard : declared.type.isWildcard = false
  annotated : declared.isAnnotated = true ↔ declared.annotationList ≠ []
  annotations : ∀ usage ∈ declared.annotationList, usage.Valid

theorem checkType_eq_ok_iff {type : Option Ty} {result : Ty} :
    checkType type = .ok result ↔
      type = some result ∧ result ≠ .primitive .void ∧
        result.isWildcard = false := by
  cases type with
  | none => simp [checkType]
  | some type =>
      by_cases isVoid : type = .primitive .void
      · simp only [checkType, isVoid, if_true]
        grind
      · by_cases wildcard : type.isWildcard = true
        · simp only [checkType, isVoid, if_false, wildcard, if_true]
          grind
        · simp only [checkType, isVoid, if_false, wildcard]
          grind

/-! ## Refused edits -/

private theorem atomic_rename (declared : Variable) (name : String) :
    (declared.rename name).Atomic declared := by
  intro error refused
  unfold rename at refused ⊢
  split at refused
  · exact ⟨rfl, rfl⟩
  · cases refused

private theorem atomic_retype (declared : Variable) (type : Option Ty) :
    (declared.retype type).Atomic declared := by
  intro error refused
  unfold retype at refused ⊢
  split at refused
  · exact ⟨rfl, rfl⟩
  · cases refused

private theorem annotations_of_getElem?
    {declared : Variable} {position : Nat} {usage : AnnotationUse}
    (found : declared.annotationList[position]? = some usage) :
    declared.annotations = some declared.annotationList := by
  cases present : declared.annotations with
  | none => simp [annotationList, present] at found
  | some usages => simp [annotationList, present]

private theorem atomic_setAnnotationMember (declared : Variable)
    (position : Nat) (name : String) (value : AnnotationValue) :
    (declared.setAnnotationMember position name value).Atomic declared := by
  intro error refused
  unfold setAnnotationMember at refused ⊢
  cases found : declared.annotationList[position]? with
  | none =>
      rw [found] at refused
      cases refused
  | some usage =>
      rw [found] at refused
      have unchanged := AnnotationUse.set_of_error refused
      have present := annotations_of_getElem? found
      obtain ⟨inside, isUsage⟩ := List.getElem?_eq_some_iff.mp found
      have same : declared.annotationList.set position usage =
          declared.annotationList := by
        rw [← isUsage, List.set_getElem_self]
      refine ⟨?_, rfl⟩
      simp only [unchanged, same, ← present]

theorem answer_retype_eq_ok_iff
    {declared : Variable} {type : Option Ty} {previous : Ty} :
    (declared.retype type).answer = .ok previous ↔
      (∃ installed, type = some installed ∧ installed ≠ .primitive .void ∧
        installed.isWildcard = false) ∧ previous = declared.type := by
  simp only [← checkType_eq_ok_iff]
  cases checked : checkType type with
  | error error => simp [retype, checked]
  | ok installed => simp [retype, checked, eq_comm]

/-! ## One change -/

/-- What a change does to a variable, with what was checked before. -/
inductive Step (declared : Variable) : VariableChange → Variable → Prop where
  | unchanged {change : VariableChange} (installsNone : change.installs? = none)
      (addsNone : change.annotates? = none) : Step declared change declared
  | renamed {name : String} (spelled : WellSpelled name) :
      Step declared (.rename name) { declared with name := name }
  | retyped {type : Ty} (notVoid : type ≠ .primitive .void)
      (notWildcard : type.isWildcard = false) :
      Step declared (.retype (some type)) { declared with type := type }
  | initialized (initializer : Option ExprId) :
      Step declared (.setInitializer initializer)
        { declared with initializer := initializer }
  | annotated (type : Ty) :
      Step declared (.annotate type)
        { declared with
          annotations := some (declared.annotationList ++ [.ofTy type]) }
  -- A refused name gives the same annotation again, so it needs no case.
  | memberSet {position : Nat} {usage : AnnotationUse}
      (found : declared.annotationList[position]? = some usage) (name : String)
      (value : AnnotationValue) :
      Step declared (.setMember position name value)
        { declared with
          annotations := some
            (declared.annotationList.set position (usage.set name value).1) }

private theorem installs?_retype_of_error
    {type : Option Ty} {error : DeclarationError}
    (refused : checkType type = .error error) :
    (VariableChange.retype type).installs? = none := by
  cases type with
  | none => rfl
  | some type =>
      by_cases isVoid : type = .primitive .void
      · simp [VariableChange.installs?, isVoid]
      · by_cases wildcard : type.isWildcard = true
        · simp [VariableChange.installs?, wildcard]
        · simp [checkType, isVoid, wildcard] at refused

theorem step_perform (declared : Variable) (change : VariableChange) :
    declared.Step change (declared.perform change) := by
  cases change with
  | rename name =>
      cases checked : checkName name with
      | error error =>
          simp only [perform, rename, checked]
          exact .unchanged rfl rfl
      | ok =>
          simp only [perform, rename, checked]
          exact .renamed (checkName_eq_ok_iff.mp checked)
  | retype type =>
      cases checked : checkType type with
      | error error =>
          simp only [perform, retype, checked]
          exact .unchanged (installs?_retype_of_error checked) rfl
      | ok installed =>
          obtain ⟨rfl, notVoid, notWildcard⟩ := checkType_eq_ok_iff.mp checked
          simp only [perform, retype, checked]
          exact .retyped notVoid notWildcard
  | setInitializer initializer => exact .initialized initializer
  | annotate type => exact .annotated type
  | setMember position name value =>
      cases found : declared.annotationList[position]? with
      | none =>
          simp only [perform, setAnnotationMember, found]
          exact .unchanged rfl rfl
      | some usage =>
          simp only [perform, setAnnotationMember, found]
          exact .memberSet found name value

theorem Step.modifiers_eq
    {declared after : Variable} {change : VariableChange}
    (step : declared.Step change after) :
    after.modifiers = declared.modifiers := by
  cases step <;> rfl

theorem Step.type_eq
    {declared after : Variable} {change : VariableChange}
    (step : declared.Step change after) :
    after.type = change.installs?.getD declared.type := by
  cases step with
  | unchanged installsNone addsNone => rw [installsNone, Option.getD_none]
  | renamed spelled => rfl
  | retyped notVoid notWildcard =>
      simp [VariableChange.installs?, notVoid, notWildcard]
  | initialized initializer => rfl
  | annotated type => rfl
  | memberSet found name value => rfl

/-- Only a new annotation changes the list of annotation types, at its end. -/
theorem Step.annotationTypes_eq
    {declared after : Variable} {change : VariableChange}
    (step : declared.Step change after) :
    after.annotationList.map AnnotationUse.type =
      declared.annotationList.map AnnotationUse.type ++
        change.annotates?.toList := by
  cases step with
  | unchanged installsNone addsNone => simp [addsNone]
  | renamed spelled => simp [annotationList, VariableChange.annotates?]
  | retyped notVoid notWildcard =>
      simp [annotationList, VariableChange.annotates?]
  | initialized initializer =>
      simp [annotationList, VariableChange.annotates?]
  | annotated type =>
      simp [annotationList, VariableChange.annotates?, AnnotationUse.ofTy]
  | @memberSet position usage found name value =>
      obtain ⟨inside, isUsage⟩ := List.getElem?_eq_some_iff.mp found
      have sameTypes :
          (declared.annotationList.map AnnotationUse.type).set position
              usage.type =
            declared.annotationList.map AnnotationUse.type := by
        rw [← List.map_set, ← isUsage, List.set_getElem_self]
      rw [annotationList, Option.getD_some, List.map_set,
        AnnotationUse.type_set, sameTypes]
      exact (List.append_nil _).symm

/-- A new annotation has no members, and a member is set on one annotation. -/
theorem Step.valid
    {declared after : Variable} {change : VariableChange}
    (step : declared.Step change after) (valid : declared.Valid) :
    after.Valid := by
  cases step with
  | unchanged installsNone addsNone => exact valid
  | renamed spelled => exact { valid with spelled := spelled }
  | retyped notVoid notWildcard =>
      exact { valid with notVoid := notVoid, notWildcard := notWildcard }
  | initialized initializer => exact { valid with }
  | annotated type =>
      refine { valid with annotated := ?_, annotations := ?_ }
      · simp [isAnnotated, annotationList]
      · intro usage member
        rcases List.mem_append.mp member with old | new
        · exact valid.annotations usage old
        · rw [List.mem_singleton] at new
          exact new ▸ AnnotationUse.valid_ofTy type
  | @memberSet position usage found name value =>
      have member : usage ∈ declared.annotationList :=
        List.mem_of_getElem? found
      have changed : (usage.set name value).1.Valid :=
        (valid.annotations usage member).set name value
      refine { valid with annotated := ?_, annotations := ?_ }
      · have nonempty : declared.annotationList ≠ [] :=
          List.ne_nil_of_mem member
        simpa [isAnnotated, annotationList] using nonempty
      · intro other present
        rcases List.mem_or_eq_of_mem_set present with old | new
        · exact valid.annotations other old
        · exact new ▸ changed

/-! ## Whole histories -/

private theorem history_cons (declared : Variable) (change : VariableChange)
    (changes : List VariableChange) :
    declared.history (change :: changes) =
      (declared.perform change).history changes := rfl

theorem Valid.history
    {declared : Variable} (valid : declared.Valid)
    (changes : List VariableChange) : (declared.history changes).Valid := by
  induction changes generalizing declared with
  | nil => exact valid
  | cons change changes inductionHypothesis =>
      rw [history_cons]
      exact inductionHypothesis ((step_perform declared change).valid valid)

theorem modifiers_history (declared : Variable)
    (changes : List VariableChange) :
    (declared.history changes).modifiers = declared.modifiers := by
  induction changes generalizing declared with
  | nil => rfl
  | cons change changes inductionHypothesis =>
      rw [history_cons, inductionHypothesis,
        (step_perform declared change).modifiers_eq]

private theorem lastType_cons (first : Ty) (change : VariableChange)
    (changes : List VariableChange) :
    lastType first (change :: changes) =
      lastType (change.installs?.getD first) changes := by
  unfold lastType
  cases installed : change.installs? with
  | none => simp [installed]
  | some type => simp [installed, List.getLast?_cons]

theorem type_history (declared : Variable) (changes : List VariableChange) :
    (declared.history changes).type = lastType declared.type changes := by
  induction changes generalizing declared with
  | nil => rfl
  | cons change changes inductionHypothesis =>
      rw [history_cons, inductionHypothesis,
        (step_perform declared change).type_eq, lastType_cons]

theorem annotationTypes_history (declared : Variable)
    (changes : List VariableChange) :
    (declared.history changes).annotationList.map AnnotationUse.type =
      declared.annotationList.map AnnotationUse.type ++
        changes.filterMap VariableChange.annotates? := by
  induction changes generalizing declared with
  | nil => exact (List.append_nil _).symm
  | cons change changes inductionHypothesis =>
      rw [history_cons, inductionHypothesis,
        (step_perform declared change).annotationTypes_eq, List.append_assoc]
      congr 1
      cases added : change.annotates? with
      | none => simp [added]
      | some type => simp [added]

theorem declare_eq_ok_iff
    {modifiers : Modifiers} {type : Option Ty} {name : String}
    {initializer : Option ExprId} {start : Variable} :
    declare modifiers type name initializer = .ok start ↔
      ∃ first, checkType type = .ok first ∧ checkName name = .ok () ∧
        ⟨modifiers, first, name, initializer, none⟩ = start := by
  cases checkedType : checkType type with
  | error error => simp [declare, checkedType]
  | ok first =>
      cases checkedName : checkName name with
      | error error => simp [declare, checkedType, checkedName]
      | ok => simp [declare, checkedType, checkedName]

theorem valid_of_declare
    {modifiers : Modifiers} {type : Option Ty} {name : String}
    {initializer : Option ExprId} {start : Variable}
    (declared : declare modifiers type name initializer = .ok start) :
    start.Valid := by
  obtain ⟨first, checkedType, checkedName, rfl⟩ := declare_eq_ok_iff.mp declared
  obtain ⟨_, notVoid, notWildcard⟩ := checkType_eq_ok_iff.mp checkedType
  have spelled := checkName_eq_ok_iff.mp checkedName
  exact ⟨spelled, notVoid, notWildcard, by simp [isAnnotated, annotationList],
    by simp [annotationList]⟩

/-- A declared variable is valid after every history of changes, made or
refused.  It keeps its modifiers, and has the annotations that were added, in
this order.  A refused change leaves it alone, and a change of type answers the
type that was installed last. -/
theorem variable_stays_valid
    (modifiers : Modifiers) (type : Option Ty) (name : String)
    (initializer : Option ExprId) (start : Variable)
    (declared : declare modifiers type name initializer = .ok start)
    (changes : List VariableChange) :
    let now := start.history changes
    now.Valid ∧
      now.modifiers = modifiers ∧
      now.annotationList.map AnnotationUse.type =
        changes.filterMap VariableChange.annotates? ∧
      (∀ newName, (now.rename newName).Atomic now) ∧
      (∀ newType, (now.retype newType).Atomic now) ∧
      (∀ position member value,
        (now.setAnnotationMember position member value).Atomic now) ∧
      type = some start.type ∧
      ∀ newType previous, (now.retype newType).answer = .ok previous ↔
        (∃ installed, newType = some installed ∧
          installed ≠ .primitive .void ∧ installed.isWildcard = false) ∧
        previous = lastType start.type changes := by
  intro now
  have valid : now.Valid := (valid_of_declare declared).history changes
  have sameModifiers := modifiers_history start changes
  have annotationTypes := annotationTypes_history start changes
  have lastInstalled := type_history start changes
  obtain ⟨first, checkedType, _, rfl⟩ := declare_eq_ok_iff.mp declared
  obtain ⟨given, _⟩ := checkType_eq_ok_iff.mp checkedType
  refine ⟨valid, sameModifiers, annotationTypes, atomic_rename now,
    atomic_retype now, atomic_setAnnotationMember now, given, ?_⟩
  intro newType previous
  rw [answer_retype_eq_ok_iff, lastInstalled]

/-- Changes of every kind, with refused ones between the others. -/
def mixedChanges : List VariableChange :=
  [.annotate (.cls (.ofNat 3)), .rename "total", .rename "2x", .rename "class",
    .retype (some (.primitive .long)), .retype (some (.primitive .void)),
    .retype (some .unbounded), .retype none,
    .setMember 0 "value" (.bool true), .setMember 0 "a b" (.bool true),
    .annotate (.cls (.ofNat 4)), .setMember 0 "value" (.bool false),
    .setMember 2 "value" (.bool true), .setInitializer none]

theorem count_stays_valid :
    ∃ start, declare .finalFlag (some (.primitive .int)) "count"
        (some ⟨7⟩) = .ok start ∧
      (start.history mixedChanges).Valid ∧
        (start.history mixedChanges).annotationList.map AnnotationUse.type =
          [.cls (.ofNat 3), .cls (.ofNat 4)] ∧
          ((start.history mixedChanges).retype
            (some (.primitive .int))).answer = .ok (.primitive .long) := by
  have declared : declare .finalFlag (some (.primitive .int)) "count"
      (some ⟨7⟩) =
        .ok ⟨.finalFlag, .primitive .int, "count", some ⟨7⟩, none⟩ := rfl
  obtain ⟨valid, _, annotationTypes, _, _, _, _, answers⟩ :=
    variable_stays_valid _ _ _ _ _ declared mixedChanges
  refine ⟨_, declared, valid, annotationTypes, (answers _ _).mpr ?_⟩
  exact ⟨⟨_, rfl, by decide, rfl⟩, by decide⟩

end Variable

end JavaTypes
