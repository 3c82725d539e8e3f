import JavaTypes.Config.Toml
import JavaTypes.Proofs.ClassNames
import Mathlib.Data.List.DropRight

/-!
# Names of root classes

The check of a configured root class splits the name at its dots and looks at
the parts.  What it accepts can be said of the characters alone: there is one,
none is white space, and a dot stands neither first nor last nor next to another
dot.

The check splits a name from the front, and a simple name is cut off from the
back.  Both find the same last part, so the root of a fresh model has a simple
name that is itself a part, and what stands before it is again a name that a
root class can have.
-/

namespace JavaTypes

namespace Text

/-- The code points with the property `White_Space`, one by one. -/
def whiteSpaceCodes : List Nat :=
  [0x9, 0xa, 0xb, 0xc, 0xd, 0x20, 0x85, 0xa0, 0x1680, 0x2000, 0x2001, 0x2002,
    0x2003, 0x2004, 0x2005, 0x2006, 0x2007, 0x2008, 0x2009, 0x200a, 0x2028,
    0x2029, 0x202f, 0x205f, 0x3000]

theorem isWhiteSpace_iff (c : Char) :
    isWhiteSpace c = true ↔ c.toNat ∈ whiteSpaceCodes := by
  have expanded : whiteSpaceCodes =
      whiteSpaceRanges.flatMap fun range =>
        List.range' range.1 (range.2 + 1 - range.1) := by
    decide
  rw [isWhiteSpace, inRanges_eq_true_iff (by decide), expanded,
    List.mem_flatMap]
  refine exists_congr fun range => and_congr_right fun _ => ?_
  rw [List.mem_range'_1]
  omega

end Text

namespace Config

/-! ## Texts with dots between their parts -/

/-- A text that is not empty and holds no white space, with a dot neither first
nor last nor next to another dot. -/
structure WellDotted (text : List Char) : Prop where
  nonempty : text ≠ []
  unspaced : ∀ c ∈ text, c.toNat ∉ Text.whiteSpaceCodes
  head_ne : text.head? ≠ some '.'
  getLast_ne : text.getLast? ≠ some '.'
  notDoubled : ¬ ['.', '.'] <:+: text

/-- What the check asks of each part of a name. -/
def IsPart (part : List Char) : Prop :=
  part ≠ [] ∧ ∀ c ∈ part, c.toNat ∉ Text.whiteSpaceCodes

/-- A text is a part without dots, or such a part, a dot and a text. -/
@[elab_as_elim]
private theorem parts_induction
    {motive : List Char → Prop}
    (last : ∀ part, '.' ∉ part → motive part)
    (qualify : ∀ part rest, '.' ∉ part → motive rest →
      motive (part ++ '.' :: rest))
    (text : List Char) : motive text := by
  by_cases dotted : '.' ∈ text
  · obtain ⟨part, rest, rfl, undotted⟩ := List.eq_append_cons_of_mem dotted
    exact qualify part rest undotted (parts_induction last qualify rest)
  · exact last text dotted
termination_by text.length

private theorem wellDotted_of_not_mem
    {part : List Char} (undotted : '.' ∉ part) :
    WellDotted part ↔ IsPart part := by
  constructor
  · intro spelled
    exact ⟨spelled.nonempty, spelled.unspaced⟩
  · intro ⟨nonempty, unspaced⟩
    refine ⟨nonempty, unspaced, ?_, ?_, ?_⟩
    · intro first
      exact undotted (List.mem_of_mem_head? first)
    · intro last
      exact undotted (List.mem_of_getLast? last)
    · intro doubled
      exact undotted (doubled.mem List.mem_cons_self)

private theorem doubled_append_iff
    {part : List Char} (undotted : '.' ∉ part) (text : List Char) :
    ['.', '.'] <:+: part ++ text ↔ ['.', '.'] <:+: text := by
  induction part with
  | nil => rfl
  | cons c part inductionHypothesis =>
      rw [List.mem_cons, not_or] at undotted
      rw [List.cons_append, List.infix_cons_iff,
        inductionHypothesis undotted.2]
      simp [List.cons_prefix_cons, undotted.1]

/-- A dot behind a part without dots is first if the part is empty, last if
nothing follows, and next to another one if that comes first in the rest. -/
private theorem dots_append_dot
    {part : List Char} (undotted : '.' ∉ part) (rest : List Char) :
    ((part ++ '.' :: rest).head? = some '.' ↔ part = []) ∧
      ((part ++ '.' :: rest).getLast? = some '.' ↔
        rest = [] ∨ rest.getLast? = some '.') ∧
      (['.', '.'] <:+: part ++ '.' :: rest ↔
        rest.head? = some '.' ∨ ['.', '.'] <:+: rest) := by
  refine ⟨?_, ?_, ?_⟩
  · cases part with
    | nil => simp
    | cons c part =>
        rw [List.mem_cons, not_or] at undotted
        simp [Ne.symm undotted.1]
  · cases rest with
    | nil => simp
    | cons c rest => simp [List.getLast?_append, List.getLast?_cons]
  · rw [doubled_append_iff undotted, List.infix_cons_iff, List.cons_prefix_cons]
    cases rest with
    | nil => simp
    | cons c rest => simp [eq_comm]

private theorem wellDotted_append_dot
    {part : List Char} (undotted : '.' ∉ part) (rest : List Char) :
    WellDotted (part ++ '.' :: rest) ↔ IsPart part ∧ WellDotted rest := by
  obtain ⟨first, last, doubled⟩ := dots_append_dot undotted rest
  constructor
  · intro spelled
    have unspaced := spelled.unspaced
    simp only [List.mem_append, List.mem_cons] at unspaced
    refine ⟨⟨?_, ?_⟩, ?_, ?_, ?_, ?_, ?_⟩
    · exact fun empty => spelled.head_ne (first.mpr empty)
    · exact fun c member => unspaced c (Or.inl member)
    · exact fun empty => spelled.getLast_ne (last.mpr (Or.inl empty))
    · exact fun c member => unspaced c (Or.inr (Or.inr member))
    · exact fun dot => spelled.notDoubled (doubled.mpr (Or.inl dot))
    · exact fun dot => spelled.getLast_ne (last.mpr (Or.inr dot))
    · exact fun dots => spelled.notDoubled (doubled.mpr (Or.inr dots))
  · intro ⟨⟨nonempty, unspaced⟩, spelled⟩
    refine ⟨by simp, ?_, ?_, ?_, ?_⟩
    · intro c member
      rcases List.mem_append.mp member with inPart | behind
      · exact unspaced c inPart
      · rcases List.mem_cons.mp behind with rfl | inRest
        · decide
        · exact spelled.unspaced c inRest
    · rw [Ne, first]
      exact nonempty
    · rw [Ne, last, not_or]
      exact ⟨spelled.nonempty, spelled.getLast_ne⟩
    · rw [doubled, not_or]
      exact ⟨spelled.head_ne, spelled.notDoubled⟩

/-! ## The check of the parts -/

private theorem segments_eq_splitOn (text : List Char) :
    segments text = text.splitOn '.' := by
  induction text with
  | nil => rfl
  | cons c rest inductionHypothesis =>
      rw [segments, List.splitOn_cons_eq_if_modifyHead, ← inductionHypothesis]
      by_cases dot : c = '.'
      · simp [dot]
      · cases parts : segments rest with
        | nil =>
            rw [inductionHypothesis] at parts
            exact absurd parts (List.splitOn_ne_nil '.' rest)
        | cons first others => simp [dot]

private theorem forall_segments_iff (text : List Char) :
    (∀ segment ∈ segments text, IsPart segment) ↔ WellDotted text := by
  rw [segments_eq_splitOn]
  induction text using parts_induction with
  | last part undotted =>
      rw [List.splitOn_eq_singleton undotted, List.forall_mem_singleton,
        wellDotted_of_not_mem undotted]
  | qualify part rest undotted inductionHypothesis =>
      rw [List.splitOn_append_cons_self_of_not_mem undotted,
        List.forall_mem_cons, inductionHypothesis,
        wellDotted_append_dot undotted]

theorem isRootName_iff (name : String) :
    isRootName name = true ↔ WellDotted name.toList := by
  rw [← forall_segments_iff]
  simp [isRootName, IsPart, Text.isWhiteSpace_iff]

private theorem validate_cases (config : Config) :
    (WellDotted config.rootClass.toList ∧ config.validate = (.ok (), [])) ∨
      (¬ WellDotted config.rootClass.toList ∧
        config.validate =
          (.error config.rootClass,
            [.rootClassRejected config.rootClass])) := by
  rw [← isRootName_iff, validate]
  by_cases accepted : isRootName config.rootClass = true
  · simp [accepted]
  · simp [accepted]

/-- The check is the last step of reading a text. -/
private theorem ofToml_of_ofEntries
    {text : String} {entries : Toml.Entries} {config : Config}
    (read : Toml.document? text = some entries)
    (decoded : ofEntries entries = .ok config) :
    (ofToml text = (.ok config, []) ↔ WellDotted config.rootClass.toList) ∧
      (ofToml text =
          (.error (.rootClass config.rootClass),
            [.rootClassRejected config.rootClass]) ↔
        ¬ WellDotted config.rootClass.toList) := by
  rcases validate_cases config with ⟨spelled, accepts⟩ | ⟨misspelled, refuses⟩
  · simp [ofToml, read, decoded, accepts, spelled]
  · simp [ofToml, read, decoded, refuses, misspelled]

/-! ## Simple names -/

private theorem toList_simpleName (name : String) :
    (simpleName name).toList = name.toList.rtakeWhile (· != '.') := by
  rw [simpleName, String.toList_ofList]
  rfl

private theorem dot_not_mem_simpleName (name : String) :
    '.' ∉ (simpleName name).toList := by
  intro member
  rw [toList_simpleName] at member
  simpa using List.mem_rtakeWhile_imp member

private theorem eq_simpleName_or_exists_qualifier (name : String) :
    name = simpleName name ∨
      ∃ qualifier, name = qualifier ++ "." ++ simpleName name := by
  have whole : name.toList.rdropWhile (· != '.') ++ (simpleName name).toList =
      name.toList := by
    rw [toList_simpleName, List.rdropWhile_append_rtakeWhile]
  by_cases unqualified : name.toList.rdropWhile (· != '.') = []
  · rw [unqualified, List.nil_append] at whole
    exact Or.inl (String.toList_inj.mp whole.symm)
  · -- What is left when the simple name is cut off ends with a dot.
    have dot := List.rdropWhile_last_not (· != '.') name.toList unqualified
    rw [Bool.not_eq_true, bne_eq_false_iff_eq] at dot
    have ends := List.dropLast_concat_getLast unqualified
    rw [dot] at ends
    refine Or.inr ⟨.ofList (name.toList.rdropWhile (· != '.')).dropLast, ?_⟩
    apply String.toList_inj.mp
    calc
      name.toList = name.toList.rdropWhile (· != '.') ++
          (simpleName name).toList := whole.symm
      _ = (name.toList.rdropWhile (· != '.')).dropLast ++ ['.'] ++
          (simpleName name).toList := by rw [ends]
      _ = _ := by simp

/-- Splitting from the front and cutting from the back find the same last
part. -/
private theorem segments_simpleName (name : String) :
    (name = simpleName name ∧
        segments name.toList = [(simpleName name).toList]) ∨
      ∃ qualifier, name = qualifier ++ "." ++ simpleName name ∧
        segments name.toList =
          segments qualifier.toList ++ [(simpleName name).toList] := by
  have lastPart : List.splitOn '.' (simpleName name).toList =
      [(simpleName name).toList] :=
    List.splitOn_eq_singleton (dot_not_mem_simpleName name)
  rcases eq_simpleName_or_exists_qualifier name with
    unqualified | ⟨qualifier, qualified⟩
  · refine Or.inl ⟨unqualified, ?_⟩
    rw [segments_eq_splitOn, ← lastPart, ← unqualified]
  · refine Or.inr ⟨qualifier, qualified, ?_⟩
    have characters : name.toList =
        qualifier.toList ++ '.' :: (simpleName name).toList := by
      simpa using congrArg String.toList qualified
    rw [segments_eq_splitOn, segments_eq_splitOn, ← lastPart,
      ← List.splitOn_append_cons_self]
    exact congrArg (List.splitOn '.') characters

/-- A well-dotted name ends in a part, and what stands before the dot in front
of that part is well dotted too. -/
theorem WellDotted.isPart_simpleName
    {name : String} (spelled : WellDotted name.toList) :
    IsPart (simpleName name).toList ∧
      (name = simpleName name ∨
        ∃ qualifier : String, WellDotted qualifier.toList ∧
          name = qualifier ++ "." ++ simpleName name) := by
  rw [← forall_segments_iff] at spelled
  rcases segments_simpleName name with
    ⟨unqualified, parts⟩ | ⟨qualifier, qualified, parts⟩
  · rw [parts, List.forall_mem_singleton] at spelled
    exact ⟨spelled, Or.inl unqualified⟩
  · rw [parts, List.forall_mem_append, List.forall_mem_singleton,
      forall_segments_iff] at spelled
    exact ⟨spelled.2, Or.inr ⟨qualifier, spelled.1, qualified⟩⟩

end Config

/-! ## The root of a fresh model -/

namespace Model

def RootNamed (name : String) (model : Model) : Prop :=
  model.className? model.root = some name

private theorem Setup.rootNamed
    {before after : Model} (step : Setup before after) {name : String}
    (named : before.RootNamed name) : after.RootNamed name := by
  cases step with
  | reserve free =>
      have inside := lt_size_of_className? named
      rw [RootNamed, className?_push, if_neg (Nat.ne_of_lt inside)]
      exact named
  | allocate name owner => exact named
  | keep flat fresh => exact named
  | reshape sameName flat =>
      rw [RootNamed, className?_modify sameName]
      exact named

/-- The skeleton may give the root a shape, but not another name. -/
theorem rootNamed_new (config : Config) :
    (Model.new config).model.RootNamed config.rootClass := by
  have steps := setups_new config
  generalize (Model.new config).model = fresh at steps
  induction steps with
  | refl => rfl
  | tail _ step inductionHypothesis => exact step.rootNamed inductionHypothesis

private theorem RootNamed.render_rootTy
    {model : Model} {name : String} (named : model.RootNamed name)
    (style : NameStyle) :
    model.render style model.rootTy = style.write name := by
  obtain ⟨definition, declared, sameName⟩ := Option.map_eq_some_iff.mp named
  simp [render, rootTy, Env.render, Env.renderClass, env, declared, sameName]

end Model

namespace Config

/-- A root class is accepted exactly when its name is well dotted, both by the
check and when a text is read whose entries are in order; every other name is
handed back and reported.  The root of a fresh model with an accepted name has a
simple name that is not empty and holds neither dots nor white space.  It is the
full name or stands behind its last dot, and then what stands before that dot
would be accepted too. -/
theorem root_name_accepted_iff_wellDotted (config : Config) :
    (config.validate = (.ok (), []) ↔ WellDotted config.rootClass.toList) ∧
    (config.validate =
        (.error config.rootClass, [.rootClassRejected config.rootClass]) ↔
      ¬ WellDotted config.rootClass.toList) ∧
    (∀ text entries, Toml.document? text = some entries →
      ofEntries entries = .ok config →
        (ofToml text = (.ok config, []) ↔
          WellDotted config.rootClass.toList) ∧
        (ofToml text =
            (.error (.rootClass config.rootClass),
              [.rootClassRejected config.rootClass]) ↔
          ¬ WellDotted config.rootClass.toList)) ∧
    (config.validate.1 = .ok () →
      let model := (Model.new config).model
      let qualified := model.render .qualified model.rootTy
      let simple := model.render .simple model.rootTy
      qualified = config.rootClass ∧
        simple ≠ "" ∧ '.' ∉ simple.toList ∧
          (∀ c ∈ simple.toList, c.toNat ∉ Text.whiteSpaceCodes) ∧
            (qualified = simple ∨
              ∃ qualifier : String, WellDotted qualifier.toList ∧
                qualified = qualifier ++ "." ++ simple)) := by
  rcases validate_cases config with ⟨spelled, accepts⟩ | ⟨misspelled, refuses⟩
  · refine ⟨by simp [accepts, spelled], by simp [accepts, spelled],
      fun _ _ => ofToml_of_ofEntries, ?_⟩
    intro _ model qualified simple
    have rendered (style : NameStyle) :
        model.render style model.rootTy = style.write config.rootClass :=
      (Model.rootNamed_new config).render_rootTy style
    have fullName : qualified = config.rootClass := rendered .qualified
    have lastName : simple = simpleName config.rootClass := rendered .simple
    obtain ⟨⟨nonempty, unspaced⟩, qualifies⟩ := spelled.isPart_simpleName
    rw [fullName, lastName]
    refine ⟨rfl, ?_, dot_not_mem_simpleName _, unspaced, qualifies⟩
    intro empty
    rw [empty] at nonempty
    exact nonempty rfl
  · refine ⟨by simp [refuses, misspelled], by simp [refuses, misspelled],
      fun _ _ => ofToml_of_ofEntries, ?_⟩
    intro accepted
    rw [refuses] at accepted
    cases accepted

/-- The key with this string is the only entry. -/
private def isSole (key text : String) : Toml.Entries → Bool
  | [(key', .string text')] => key' = key && text' = text
  | _ => false

private theorem eq_of_isSole
    {key text : String} {entries : Toml.Entries}
    (sole : isSole key text entries = true) :
    entries = [(key, .string text)] := by
  unfold isSole at sole
  split at sole
  · simpa using sole
  · cases sole

def baseText : String :=
  "root_class = \"org.example.Base\""

def baseEntries : Toml.Entries :=
  [("root_class", .string "org.example.Base")]

def baseConfig : Config :=
  { default with rootClass := "org.example.Base" }

theorem root_name_accepted_baseConfig :
    Toml.document? baseText = some baseEntries ∧
      ofEntries baseEntries = .ok baseConfig ∧
        baseConfig.validate.1 = .ok () ∧
          ofToml baseText = (.ok baseConfig, []) ∧
            let model := (Model.new baseConfig).model
            let simple := model.render .simple model.rootTy
            '.' ∉ simple.toList ∧
              ∃ qualifier : String, WellDotted qualifier.toList ∧
                "org.example.Base" = qualifier ++ "." ++ simple := by
  have read : Toml.document? baseText = some baseEntries := by
    obtain ⟨entries, read, sole⟩ : ∃ entries,
        Toml.document? baseText = some entries ∧
          isSole "root_class" "org.example.Base" entries = true := by
      apply Option.map_eq_some_iff.mp
      decide +kernel
    rw [read, eq_of_isSole sole, baseEntries]
  have decoded : ofEntries baseEntries = .ok baseConfig := rfl
  have checked : baseConfig.validate = (.ok (), []) := by decide +kernel
  have accepted : baseConfig.validate.1 = .ok () := by rw [checked]
  obtain ⟨exactly, _, fromText, named⟩ :=
    root_name_accepted_iff_wellDotted baseConfig
  obtain ⟨fullName, _, undotted, _, qualifies⟩ := named accepted
  rw [fullName] at qualifies
  refine ⟨read, decoded, accepted, ?_, undotted, ?_⟩
  · exact (fromText _ _ read decoded).1.mpr (exactly.mp checked)
  · rcases qualifies with unqualified | qualified
    · rw [← unqualified] at undotted
      exact absurd (by decide) undotted
    · exact qualified

end Config

end JavaTypes
