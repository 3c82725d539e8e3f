import JavaTypes.Proofs.VariableHistory
import Mathlib.Data.List.Induction

/-!
# Annotation members keep the order of their first values

Members are set one after the other, some of them more than once and some under
names that are no identifiers.  The members of an annotation are a map with an
order: every name that is an identifier stands in it once, at the place of its
first setting, and with the value of its last.

Two neighbouring settings of different members may change places unless both of
them add their member.
-/

namespace JavaTypes

instance : DecidablePred WellSpelled := fun _ =>
  decidable_of_iff _ isIdentifier_iff_wellSpelled

namespace AnnotationUse

/-- The annotation after members are set in a row, with refused settings among
them. -/
def setAll (usage : AnnotationUse)
    (settings : List (String × AnnotationValue)) : AnnotationUse :=
  settings.foldl (fun usage setting => (usage.set setting.1 setting.2).1) usage

/-- Setting the member adds it to the annotation. -/
def IsNew (usage : AnnotationUse) (name : String) : Prop :=
  WellSpelled name ∧ name ∉ usage.memberNames

private theorem members_eq_iff
    {usage usage' : AnnotationUse} (sameType : usage.type = usage'.type) :
    usage.members = usage'.members ↔ usage = usage' := by
  cases usage
  cases usage'
  simp_all

/-! ## One setting -/

private theorem set_fst (usage : AnnotationUse) (name : String)
    (value : AnnotationValue) :
    (usage.set name value).1 =
      if WellSpelled name then
        { usage with members := setMember name value usage.members }
      else usage := by
  cases checked : checkName name with
  | error error =>
      have misspelled : ¬ WellSpelled name := by
        rw [← checkName_eq_ok_iff, checked]
        simp
      simp [set, checked, misspelled]
  | ok =>
      have spelled : WellSpelled name := checkName_eq_ok_iff.mp checked
      simp [set, checked, spelled]

private theorem set_fst_of_spelled
    {name : String} (spelled : WellSpelled name) (usage : AnnotationUse)
    (value : AnnotationValue) :
    (usage.set name value).1 =
      { usage with members := setMember name value usage.members } := by
  rw [set_fst, if_pos spelled]

private theorem set_fst_of_misspelled
    {name : String} (misspelled : ¬ WellSpelled name) (usage : AnnotationUse)
    (value : AnnotationValue) : (usage.set name value).1 = usage := by
  rw [set_fst, if_neg misspelled]

private theorem memberNames_set_of_isNew
    {usage : AnnotationUse} {name : String} (new : usage.IsNew name)
    (value : AnnotationValue) :
    (usage.set name value).1.memberNames = usage.memberNames ++ [name] := by
  rw [set_fst_of_spelled new.1, memberNames, map_fst_setMember]
  exact if_neg new.2

private theorem memberNames_set_of_not_isNew
    {usage : AnnotationUse} {name : String} (old : ¬ usage.IsNew name)
    (value : AnnotationValue) :
    (usage.set name value).1.memberNames = usage.memberNames := by
  by_cases spelled : WellSpelled name
  · have known : name ∈ usage.memberNames := by
      by_contra unknown
      exact old ⟨spelled, unknown⟩
    rw [set_fst_of_spelled spelled, memberNames, map_fst_setMember]
    exact if_pos known
  · rw [set_fst_of_misspelled spelled]

private theorem lookup_setMember (name query : String) (value : AnnotationValue)
    (members : List (String × AnnotationValue)) :
    (setMember name value members).lookup query =
      if query = name then some value else members.lookup query := by
  induction members with
  | nil =>
      by_cases asked : query = name
      · simp [setMember, asked]
      · have differs : (query == name) = false := by simpa using asked
        simp [setMember, List.lookup_cons, asked, differs]
  | cons member members inductionHypothesis =>
      obtain ⟨first, old⟩ := member
      by_cases same : first = name
      · subst same
        by_cases asked : query = first
        · simp [setMember, asked]
        · have differs : (query == first) = false := by simpa using asked
          simp [setMember, List.lookup_cons, asked, differs]
      · by_cases asked : query = first
        · simp [setMember, same, asked]
        · have differs : (query == first) = false := by simpa using asked
          simp [setMember, same, List.lookup_cons, differs,
            inductionHypothesis]

/-! ## Settings in a row -/

private theorem setAll_append (usage : AnnotationUse)
    (first second : List (String × AnnotationValue)) :
    usage.setAll (first ++ second) = (usage.setAll first).setAll second :=
  List.foldl_append

private theorem setAll_concat (usage : AnnotationUse)
    (settings : List (String × AnnotationValue))
    (setting : String × AnnotationValue) :
    usage.setAll (settings ++ [setting]) =
      ((usage.setAll settings).set setting.1 setting.2).1 :=
  setAll_append usage settings [setting]

private theorem type_setAll (usage : AnnotationUse)
    (settings : List (String × AnnotationValue)) :
    (usage.setAll settings).type = usage.type := by
  induction settings using List.reverseRecOn with
  | nil => rfl
  | append_singleton settings setting inductionHypothesis =>
      rw [setAll_concat, type_set, inductionHypothesis]

theorem Valid.setAll
    {usage : AnnotationUse} (valid : usage.Valid)
    (settings : List (String × AnnotationValue)) :
    (usage.setAll settings).Valid := by
  induction settings using List.reverseRecOn with
  | nil => exact valid
  | append_singleton settings setting inductionHypothesis =>
      rw [setAll_concat]
      exact inductionHypothesis.set setting.1 setting.2

/-- Settings under names that are no identifiers may be left out. -/
private theorem setAll_filter (usage : AnnotationUse)
    (settings : List (String × AnnotationValue)) :
    usage.setAll (settings.filter fun setting => WellSpelled setting.1) =
      usage.setAll settings := by
  induction settings using List.reverseRecOn with
  | nil => rfl
  | append_singleton settings setting inductionHypothesis =>
      rw [List.filter_append, setAll_append, inductionHypothesis, setAll_concat]
      by_cases spelled : WellSpelled setting.1
      · simp [spelled, setAll]
      · rw [set_fst_of_misspelled spelled]
        simp [spelled, setAll]

private theorem eraseDups_concat (names : List String) (name : String) :
    (names ++ [name]).eraseDups =
      if name ∈ names then names.eraseDups else names.eraseDups ++ [name] := by
  rw [List.eraseDups_append]
  by_cases known : name ∈ names
  · simp [List.removeAll, known]
  · simp [List.removeAll, known, List.eraseDups_cons]

theorem memberNames_setAll (type : Ty)
    (settings : List (String × AnnotationValue)) :
    ((ofTy type).setAll settings).memberNames =
      ((settings.map Prod.fst).filter fun name => WellSpelled name).eraseDups := by
  induction settings using List.reverseRecOn with
  | nil => rfl
  | append_singleton settings setting inductionHypothesis =>
      rw [setAll_concat, List.map_append, List.filter_append]
      by_cases spelled : WellSpelled setting.1
      · have known : setting.1 ∈ ((ofTy type).setAll settings).memberNames ↔
            setting.1 ∈
              (settings.map Prod.fst).filter fun name => WellSpelled name := by
          rw [inductionHypothesis, List.mem_eraseDups]
        have valid : ([setting].map Prod.fst).filter
            (fun name => WellSpelled name) = [setting.1] := by
          simp [spelled]
        rw [set_fst_of_spelled spelled, memberNames, map_fst_setMember, valid,
          eraseDups_concat, ← inductionHypothesis]
        simp only [← known]
        rfl
      · rw [set_fst_of_misspelled spelled, inductionHypothesis]
        simp [spelled]

theorem lookup_members_setAll (type : Ty)
    (settings : List (String × AnnotationValue)) (name : String) :
    ((ofTy type).setAll settings).members.lookup name =
      if WellSpelled name then settings.reverse.lookup name else none := by
  induction settings using List.reverseRecOn with
  | nil => simp [setAll, ofTy]
  | append_singleton settings setting inductionHypothesis =>
      obtain ⟨last, value⟩ := setting
      rw [setAll_concat, List.reverse_concat, List.lookup_cons]
      by_cases asked : name = last
      · subst asked
        by_cases spelled : WellSpelled name
        · simp [set_fst_of_spelled spelled, lookup_setMember, spelled]
        · simp [set_fst_of_misspelled spelled, inductionHypothesis, spelled]
      · have differs : (name == last) = false := by simpa using asked
        rw [differs, ← inductionHypothesis, set_fst]
        split
        · rw [lookup_setMember, if_neg asked]
        · rfl

/-! ## Neighbouring settings -/

private theorem setMember_comm
    {name name' : String} (differs : name ≠ name') (value value' : AnnotationValue)
    {members : List (String × AnnotationValue)}
    (known : name ∈ members.map Prod.fst ∨ name' ∈ members.map Prod.fst) :
    setMember name' value' (setMember name value members) =
      setMember name value (setMember name' value' members) := by
  induction members with
  | nil => simp at known
  | cons member members inductionHypothesis =>
      obtain ⟨first, old⟩ := member
      by_cases isFirst : first = name
      · subst isFirst
        simp [setMember, differs]
      · by_cases isFirst' : first = name'
        · subst isFirst'
          simp [setMember, isFirst]
        · have rest : name ∈ members.map Prod.fst ∨
              name' ∈ members.map Prod.fst := by
            simpa [Ne.symm isFirst, Ne.symm isFirst'] using known
          simp [setMember, isFirst, isFirst', inductionHypothesis rest]

/-- The order of two settings does not matter when one of them adds nothing. -/
private theorem set_comm
    {usage : AnnotationUse} {name name' : String} (differs : name ≠ name')
    (value value' : AnnotationValue)
    (old : ¬ (usage.IsNew name ∧ usage.IsNew name')) :
    ((usage.set name value).1.set name' value').1 =
      ((usage.set name' value').1.set name value).1 := by
  by_cases spelled : WellSpelled name
  · by_cases spelled' : WellSpelled name'
    · have known : name ∈ usage.memberNames ∨ name' ∈ usage.memberNames := by
        by_contra unknown
        rw [not_or] at unknown
        exact old ⟨⟨spelled, unknown.1⟩, ⟨spelled', unknown.2⟩⟩
      simp only [set_fst_of_spelled spelled, set_fst_of_spelled spelled']
      rw [setMember_comm differs value value' known]
    · simp only [set_fst_of_misspelled spelled']
  · simp only [set_fst_of_misspelled spelled]

/-- Members are never moved or dropped. -/
private theorem memberNames_isPrefix_setAll (usage : AnnotationUse)
    (settings : List (String × AnnotationValue)) :
    usage.memberNames <+: (usage.setAll settings).memberNames := by
  induction settings using List.reverseRecOn with
  | nil => exact List.prefix_rfl
  | append_singleton settings setting inductionHypothesis =>
      rw [setAll_concat]
      by_cases new : (usage.setAll settings).IsNew setting.1
      · rw [memberNames_set_of_isNew new]
        exact inductionHypothesis.trans (List.prefix_append _ _)
      · rw [memberNames_set_of_not_isNew new]
        exact inductionHypothesis

/-- A member that is new stays so when another one is set. -/
theorem IsNew.set
    {usage : AnnotationUse} {name other : String} (new : usage.IsNew name)
    (differs : name ≠ other) (value : AnnotationValue) :
    (usage.set other value).1.IsNew name := by
  refine ⟨new.1, ?_⟩
  by_cases added : usage.IsNew other
  · rw [memberNames_set_of_isNew added]
    simp [new.2, differs]
  · rw [memberNames_set_of_not_isNew added]
    exact new.2

/-- Two settings of different members may change places unless both of them add
their member. -/
theorem setAll_swap_iff
    {usage : AnnotationUse} {first second : String × AnnotationValue}
    (differs : first.1 ≠ second.1) (later : List (String × AnnotationValue)) :
    usage.setAll (first :: second :: later) =
        usage.setAll (second :: first :: later) ↔
      ¬ (usage.IsNew first.1 ∧ usage.IsNew second.1) := by
  constructor
  · rintro same ⟨new, new'⟩
    -- The two new names come last in the order in which they were added, and
    -- what is set later stands behind them.
    have order : usage.memberNames ++ [first.1] ++ [second.1] <+:
        (usage.setAll (first :: second :: later)).memberNames := by
      rw [← memberNames_set_of_isNew new first.2,
        ← memberNames_set_of_isNew
          (new'.set (Ne.symm differs) first.2) second.2]
      exact memberNames_isPrefix_setAll _ later
    have order' : usage.memberNames ++ [second.1] ++ [first.1] <+:
        (usage.setAll (first :: second :: later)).memberNames := by
      rw [same, ← memberNames_set_of_isNew new' second.2,
        ← memberNames_set_of_isNew (new.set differs second.2) first.2]
      exact memberNames_isPrefix_setAll _ later
    have sameOrder := (List.prefix_of_prefix_length_le order order'
      (by simp)).eq_of_length (by simp)
    simp [differs] at sameOrder
  · intro old
    have swapped := set_comm differs first.2 second.2 old
    exact congrArg (fun after => setAll after later) swapped

/-- The members of an annotation are the names among the settings that are
identifiers, each once and in the order of their first settings, with the values
of their last settings.  Settings of other names have no effect.  Two
neighbouring settings of different members may change places, for the members
and for the text of the annotation, exactly when not both of them add their
member; in particular when both members were set before. -/
theorem members_follow_settings (type : Ty) :
    (∀ settings : List (String × AnnotationValue),
      let now := (ofTy type).setAll settings
      now.type = type ∧
        now.memberNames =
          ((settings.map Prod.fst).filter fun name =>
            WellSpelled name).eraseDups ∧
        now.memberNames.Nodup ∧
        (∀ name, now.members.lookup name =
          if WellSpelled name then settings.reverse.lookup name else none) ∧
        now = (ofTy type).setAll
          (settings.filter fun setting => WellSpelled setting.1)) ∧
    ∀ (before later : List (String × AnnotationValue))
      (first second : String × AnnotationValue), first.1 ≠ second.1 →
      let given := (ofTy type).setAll before
      let straight := (ofTy type).setAll (before ++ first :: second :: later)
      let swapped := (ofTy type).setAll (before ++ second :: first :: later)
      (straight.members = swapped.members ↔
        ¬ (given.IsNew first.1 ∧ given.IsNew second.1)) ∧
      (¬ (given.IsNew first.1 ∧ given.IsNew second.1) →
        ∀ env style, straight.render env style = swapped.render env style) := by
  constructor
  · intro settings now
    have valid : now.Valid := (valid_ofTy type).setAll settings
    exact ⟨type_setAll _ settings, memberNames_setAll type settings, valid.once,
      lookup_members_setAll type settings, (setAll_filter _ settings).symm⟩
  · intro before later first second differs given straight swapped
    have exactly : straight = swapped ↔
        ¬ (given.IsNew first.1 ∧ given.IsNew second.1) := by
      simp only [straight, swapped, setAll_append]
      exact setAll_swap_iff differs later
    have sameType : straight.type = swapped.type := by
      simp only [straight, swapped, type_setAll]
    constructor
    · rw [members_eq_iff sameType, exactly]
    · intro old env style
      rw [exactly.mpr old]

/-- Two members, one of them set twice, and a name that is no identifier. -/
def mixedSettings : List (String × AnnotationValue) :=
  [("since", .int 1), ("2x", .bool true), ("name", .str "a"),
    ("since", .int 2)]

theorem members_follow_mixedSettings :
    let usage := (ofTy (.cls (.ofNat 3))).setAll mixedSettings
    usage.memberNames = ["since", "name"] ∧
      usage.members.lookup "since" = some (.int 2) ∧
      usage.members.lookup "2x" = none ∧
      ((ofTy (.cls (.ofNat 3))).setAll
          (mixedSettings ++ [("name", .str "b"), ("since", .int 3)])).members =
        ((ofTy (.cls (.ofNat 3))).setAll
          (mixedSettings ++ [("since", .int 3), ("name", .str "b")])).members ∧
      ((ofTy (.cls (.ofNat 3))).setAll
          [("name", .str "b"), ("since", .int 3)]).members ≠
        ((ofTy (.cls (.ofNat 3))).setAll
          [("since", .int 3), ("name", .str "b")]).members := by
  intro usage
  obtain ⟨names, misspelled, spelledName, spelledSince⟩ :
      ((mixedSettings.map Prod.fst).filter fun name =>
          WellSpelled name).eraseDups = ["since", "name"] ∧
        ¬ WellSpelled "2x" ∧ WellSpelled "name" ∧ WellSpelled "since" := by
    decide +kernel
  obtain ⟨follows, swaps⟩ := members_follow_settings (.cls (.ofNat 3))
  obtain ⟨_, sameNames, _, values, _⟩ := follows mixedSettings
  rw [names] at sameNames
  have bothSet := swaps mixedSettings [] ("name", .str "b") ("since", .int 3)
    (by decide)
  have neitherSet := swaps [] [] ("name", .str "b") ("since", .int 3) (by decide)
  refine ⟨sameNames, ?_, ?_, ?_, ?_⟩
  · rw [values, if_pos spelledSince]
    rfl
  · rw [values, if_neg misspelled]
  · apply bothSet.1.mpr
    rintro ⟨⟨_, unknown⟩, _⟩
    rw [sameNames] at unknown
    exact unknown (by simp)
  · intro same
    apply neitherSet.1.mp same
    exact ⟨⟨spelledName, List.not_mem_nil⟩, ⟨spelledSince, List.not_mem_nil⟩⟩

end AnnotationUse

end JavaTypes
