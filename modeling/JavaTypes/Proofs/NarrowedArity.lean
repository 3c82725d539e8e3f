import JavaTypes.Proofs.FreshModel

/-!
# Nodes keep fitting their classes

A parameterized node fits its class when the class is declared with as many type
parameters as the node has arguments, at least one.  All nodes of a reachable
model fit.  The check that keeps this so asks one node of a class for its number
of arguments, and which node it meets does not matter, because they all fit the
same declaration.

Nodes are never dropped, so a type that narrowing once gave fits its class after
any further operations.
-/

namespace JavaTypes

/-- The number of arguments of the first node of a class in a list. -/
def firstArity? (nodes : List ParameterizedTy) (id : ClassId) : Option Nat :=
  (nodes.find? fun node => node.erasure == id).map fun node => node.args.length

namespace Model

/-- The class of a node is declared with as many type parameters as the node has
arguments, and with at least one. -/
def Fits (model : Model) (node : ParameterizedTy) : Prop :=
  ∃ definition, model.classDef? node.erasure = some definition ∧
    node.args ≠ [] ∧ node.args.length = definition.arity

/-- All nodes of a model fit their classes. -/
def NodesFit (model : Model) : Prop :=
  ∀ node ∈ model.interned.toList, model.Fits node

theorem Fits.length_eq
    {model : Model} {first second : ParameterizedTy}
    (firstFits : model.Fits first) (secondFits : model.Fits second)
    (sameClass : first.erasure = second.erasure) :
    first.args.length = second.args.length := by
  obtain ⟨definition, declared, _, firstLength⟩ := firstFits
  obtain ⟨definition', declared', _, secondLength⟩ := secondFits
  rw [sameClass, declared'] at declared
  cases declared
  rw [firstLength, secondLength]

/-- Among nodes that fit, the first one speaks for all. -/
theorem firstArity?_eq_some_iff
    {model : Model} {nodes : List ParameterizedTy}
    (fit : ∀ node ∈ nodes, model.Fits node) (id : ClassId) (count : Nat) :
    firstArity? nodes id = some count ↔
      ∃ node ∈ nodes, node.erasure = id ∧ node.args.length = count := by
  constructor
  · intro found
    obtain ⟨node, met, sameCount⟩ := Option.map_eq_some_iff.mp found
    exact ⟨node, List.mem_of_find?_eq_some met,
      by simpa using List.find?_some met, sameCount⟩
  · rintro ⟨node, member, rfl, rfl⟩
    cases met : nodes.find? fun other => other.erasure == node.erasure with
    | none =>
        have missed := List.find?_eq_none.mp met node member
        simp at missed
    | some first =>
        have sameClass : first.erasure = node.erasure := by
          simpa using List.find?_some met
        have firstMember := List.mem_of_find?_eq_some met
        simp only [firstArity?, met, Option.map_some, Option.some.injEq]
        exact (fit first firstMember).length_eq (fit node member) sameClass

/-! ## Fresh models and edits -/

theorem Shaped.nodesFit
    {done : List SkeletonClass} {model : Model} (shaped : Shaped done model) :
    model.NodesFit := by
  intro node member
  obtain ⟨applied, shape, shapeMember, bound, sameLength⟩ :=
    shaped.nodes node member
  obtain ⟨id, definition, bound', declared, sameArity⟩ :=
    shaped.arity shape shapeMember
  rw [bound] at bound'
  cases bound'
  exact ⟨definition, declared, applied, sameLength.trans sameArity.symm⟩

theorem nodesFit_new (config : Config) : (Model.new config).model.NodesFit := by
  unfold Model.new
  cases config.bootstrap with
  | rootOnly =>
      intro node member
      cases member
  | javaLang =>
      obtain ⟨done, shaped⟩ := exists_shaped_installSkeleton config
      exact shaped.nodesFit

example :
    (Model.new ⟨"java.lang.Comparable", true,
      .javaLang⟩).model.interned.toList.length = 7 := by
  decide +kernel

theorem Edit.nodesFit
    {before after : Model} (edit : Edit before after)
    (fit : before.NodesFit) : after.NodesFit := by
  cases edit with
  | reserve free =>
      intro node member
      obtain ⟨definition, declared, fits⟩ := fit node member
      exact ⟨definition, classDef?_of_push declared, fits⟩
  | @install id definition checked named fixed =>
      intro node member
      obtain ⟨old, declared, applied, sameLength⟩ := fit node member
      by_cases same : node.erasure = id
      · -- The guard has met some node of the class, and so has met this one.
        have met : before.narrowedArity? id = some node.args.length :=
          (firstArity?_eq_some_iff fit id _).mpr ⟨node, member, same, rfl⟩
        refine ⟨definition, ?_, applied, fixed _ met⟩
        rw [classDef?_setIfInBounds, if_pos same, ← same, declared]
        rfl
      · refine ⟨old, ?_, applied, sameLength⟩
        rw [classDef?_setIfInBounds, if_neg same]
        exact declared
  | allocate definition => exact fit
  | redefine definition known => exact fit
  | keep declared generic sameArity fresh =>
      intro node member
      rcases List.mem_cons.mp member with rfl | old
      · refine ⟨_, declared, ?_, sameArity⟩
        intro empty
        rw [empty] at sameArity
        exact generic sameArity.symm
      · exact fit node old

private theorem Edit.mem_interned
    {before after : Model} (edit : Edit before after)
    {node : ParameterizedTy} (member : node ∈ before.interned.toList) :
    node ∈ after.interned.toList := by
  cases edit with
  | keep => exact List.mem_cons_of_mem _ member
  | _ => exact member

/-! ## Runs -/

theorem NodesFit.run
    {model : Model} (fit : model.NodesFit) (operations : List Operation) :
    (model.run operations).NodesFit :=
  (edits_run model operations).invariant Edit.nodesFit fit

private theorem mem_interned_run
    {model : Model} {node : ParameterizedTy}
    (member : node ∈ model.interned.toList) (operations : List Operation) :
    node ∈ (model.run operations).interned.toList :=
  (edits_run model operations).invariant
    (fun edit => edit.mem_interned) member

/-- A type that narrowing gives fits its class from then on. -/
private theorem NodesFit.fits_of_narrowClass
    {model : Model} (fit : model.NodesFit)
    {id erasure : ClassId} {args nodeArgs : List Ty}
    (answered : (model.narrowClass id args).answer =
      .ok (.parameterized erasure nodeArgs))
    (later : List Operation) :
    ((model.narrowClass id args).model.run later).Fits ⟨erasure, nodeArgs⟩ := by
  obtain ⟨definition, _, _, outcome⟩ := declared_of_narrowClass answered
  rcases outcome with ⟨_, plain⟩ | ⟨_, applied, member⟩
  · cases plain
  · cases applied
    have stillFit :=
      ((edits_narrowClass model id args).invariant Edit.nodesFit fit).run later
    exact stillFit _ (mem_interned_run member later)

theorem NodesFit.fits_of_narrow
    {model : Model} (fit : model.NodesFit)
    {type : Ty} {erasure : ClassId} {args nodeArgs : List Ty}
    (answered : (model.narrow type args).answer =
      .ok (.parameterized erasure nodeArgs))
    (later : List Operation) :
    ((model.narrow type args).model.run later).Fits ⟨erasure, nodeArgs⟩ := by
  obtain ⟨id, _, same⟩ := narrow_eq_narrowClass answered
  rw [same] at answered ⊢
  exact fit.fits_of_narrowClass answered later

/-- In every model that a run leads to, all nodes fit their classes, the nodes
of a class have one number of arguments, which any order of the nodes shows, and
what narrowing gives keeps fitting whatever operations follow. -/
theorem nodes_fit_along_runs (config : Config) (operations : List Operation) :
    let model := (Model.new config).model.run operations
    (∀ node ∈ model.interned.toList, model.Fits node) ∧
      (∀ first ∈ model.interned.toList, ∀ second ∈ model.interned.toList,
        first.erasure = second.erasure →
          first.args.length = second.args.length) ∧
      (∀ order : List ParameterizedTy,
        (∀ node, node ∈ order ↔ node ∈ model.interned.toList) →
          ∀ id, firstArity? order id = model.narrowedArity? id) ∧
      (∀ type args erasure nodeArgs,
        (model.narrow type args).answer =
            .ok (.parameterized erasure nodeArgs) →
          ∀ later,
            ((model.narrow type args).model.run later).Fits
              ⟨erasure, nodeArgs⟩) ∧
      (∀ id args erasure nodeArgs,
        (model.narrowClass id args).answer =
            .ok (.parameterized erasure nodeArgs) →
          ∀ later,
            ((model.narrowClass id args).model.run later).Fits
              ⟨erasure, nodeArgs⟩) := by
  intro model
  have fit : model.NodesFit := (nodesFit_new config).run operations
  refine ⟨fit, ?_, ?_, ?_, ?_⟩
  · intro first firstMember second secondMember sameClass
    exact (fit first firstMember).length_eq (fit second secondMember) sameClass
  · intro order sameNodes id
    have orderFits : ∀ node ∈ order, model.Fits node := fun node member =>
      fit node ((sameNodes node).mp member)
    apply Option.ext
    intro count
    change _ ↔ firstArity? model.interned.toList id = some count
    rw [firstArity?_eq_some_iff orderFits, firstArity?_eq_some_iff fit]
    simp only [sameNodes]
  · intro type args erasure nodeArgs answered later
    exact fit.fits_of_narrow answered later
  · intro id args erasure nodeArgs answered later
    exact fit.fits_of_narrowClass answered later

end Model

end JavaTypes
