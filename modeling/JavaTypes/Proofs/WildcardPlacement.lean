import JavaTypes.Proofs.Construction
import JavaTypes.Proofs.FailedOperations

/-!
# Where wildcards stand

A wildcard belongs into the arguments of a parameterized type, and its bound is
no wildcard itself.  The checked constructors keep wildcards there, and so do
narrowing and the check of supertypes, whatever types callers hand over, as long
as these were built with the same means.

The bounds of type variables are the exception.  A bound is stored as it comes,
and a caller may hand over a wildcard that stands alone.  A model has all its
wildcards in place exactly when no bound of a variable is a wildcard.
-/

namespace JavaTypes

/-- Where a type stands: in an argument list, or elsewhere. -/
inductive Place where
  | argument
  | outside
  deriving DecidableEq

namespace Ty

mutual

/-- Each wildcard of the type stands directly in an argument list; the whole
type may be a wildcard if it stands there itself. -/
def isPlaced (place : Place) : Ty → Bool
  | .array element => isPlaced .outside element
  | .parameterized _ args => arePlaced args
  | .unbounded => place == .argument
  | .upperBounded bound => place == .argument && isPlaced .outside bound
  | .lowerBounded bound => place == .argument && isPlaced .outside bound
  | _ => true

def arePlaced : List Ty → Bool
  | [] => true
  | head :: tail => isPlaced .argument head && arePlaced tail

end

theorem arePlaced_iff (args : List Ty) :
    arePlaced args = true ↔ ∀ arg ∈ args, arg.isPlaced .argument = true := by
  induction args with
  | nil => simp [arePlaced]
  | cons head tail inductionHypothesis =>
      simp [arePlaced, inductionHypothesis]

/-- Outside of argument lists only a type that is no wildcard is in place. -/
theorem isPlaced_outside_iff (type : Ty) :
    type.isPlaced .outside = true ↔
      type.isPlaced .argument = true ∧ type.isWildcard = false := by
  cases type <;> simp [isPlaced, isWildcard]

private theorem isPlaced_outside_of_classId?
    {type : Ty} (placed : type.isPlaced .argument = true)
    (isClass : type.classId?.isSome = true) :
    type.isPlaced .outside = true := by
  rw [isPlaced_outside_iff]
  refine ⟨placed, ?_⟩
  cases type <;> simp_all [classId?, isWildcard]

/-! ## Types that are built in place -/

private theorem isPlaced_of_isAtom
    {type : Ty} (atom : type.isAtom = true) (place : Place) :
    type.isPlaced place = true := by
  cases type <;> simp_all [isAtom, isPlaced]

private theorem isPlaced_of_isFlatClass
    {type : Ty} (flat : type.isFlatClass = true) :
    type.isPlaced .outside = true := by
  cases type with
  | cls id => rfl
  | parameterized erasure args =>
      have atoms : args.all isAtom = true := flat
      rw [List.all_eq_true] at atoms
      exact (arePlaced_iff args).mpr fun arg member =>
        isPlaced_of_isAtom (atoms arg member) .argument
  | _ => cases flat

private theorem isPlaced_outside_of_wildcardBound?
    {type : Ty} (placed : type.isPlaced .argument = true)
    (noWildcard : type.wildcardBound? = none) :
    type.isPlaced .outside = true := by
  rw [isPlaced_outside_iff]
  refine ⟨placed, ?_⟩
  cases type <;> simp_all [wildcardBound?, isWildcard]

theorem isPlaced_extendsOf
    {bound result : Ty} (placed : bound.isPlaced .argument = true)
    (made : bound.extendsOf = .ok result) :
    result.isPlaced .argument = true := by
  unfold extendsOf at made
  split at made
  · cases made
  · rename_i noWildcard
    cases made
    exact isPlaced_outside_of_wildcardBound? placed noWildcard

theorem isPlaced_superOf
    {bound result : Ty} (placed : bound.isPlaced .argument = true)
    (made : bound.superOf = .ok result) :
    result.isPlaced .argument = true := by
  unfold superOf at made
  split at made
  · cases made
  · rename_i noWildcard
    cases made
    exact isPlaced_outside_of_wildcardBound? placed noWildcard

theorem isPlaced_arrayOf
    {element result : Ty} (placed : element.isPlaced .argument = true)
    (made : element.arrayOf = .ok result) :
    result.isPlaced .argument = true := by
  unfold arrayOf at made
  split at made
  · cases made
  · rename_i noWildcard
    cases made
    exact (isPlaced_outside_iff element).mpr ⟨placed, by simpa using noWildcard⟩

/-- The type is made in one step from given types: it is a keyword type, a class,
a variable, the plain wildcard, or what a checked constructor gives. -/
inductive MadeFrom (types : List Ty) : Ty → Prop where
  | primitive (kind : Primitive) : MadeFrom types (.primitive kind)
  | cls (id : ClassId) : MadeFrom types (.cls id)
  | typeVar (var : TypeVarId) : MadeFrom types (.typeVar var)
  | unbounded : MadeFrom types .unbounded
  | upperBounded {bound result : Ty} (given : bound ∈ types)
      (made : bound.extendsOf = .ok result) : MadeFrom types result
  | lowerBounded {bound result : Ty} (given : bound ∈ types)
      (made : bound.superOf = .ok result) : MadeFrom types result
  | array {element result : Ty} (given : element ∈ types)
      (made : element.arrayOf = .ok result) : MadeFrom types result

theorem MadeFrom.isPlaced
    {types : List Ty} {type : Ty} (made : MadeFrom types type)
    (placed : ∀ given ∈ types, given.isPlaced .argument = true) :
    type.isPlaced .argument = true := by
  cases made with
  | primitive kind => rfl
  | cls id => rfl
  | typeVar var => rfl
  | unbounded => rfl
  | upperBounded given made => exact isPlaced_extendsOf (placed _ given) made
  | lowerBounded given made => exact isPlaced_superOf (placed _ given) made
  | array given made => exact isPlaced_arrayOf (placed _ given) made

end Ty

namespace Model

/-! ## The types that a model stores -/

/-- The type is a supertype of a class, the bound of a variable, or a node. -/
inductive Stores (model : Model) : Ty → Prop where
  | supertype {definition : ClassDef} {type : Ty}
      (declared : definition ∈ model.classes)
      (listed : type ∈ definition.supertypes) : Stores model type
  | bound {definition : TypeVarDef} {type : Ty}
      (declared : definition ∈ model.typeVars)
      (given : definition.upperBound = some type) : Stores model type
  | node {node : ParameterizedTy} (kept : node ∈ model.interned.toList) :
      Stores model node.toTy

/-- What operations keep: supertypes and nodes have their wildcards in place, and
bounds of variables would have them as arguments. -/
structure WildcardsPlaced (model : Model) : Prop where
  supertypes : ∀ definition ∈ model.classes, ∀ type ∈ definition.supertypes,
    type.isPlaced .outside = true
  bounds : ∀ definition ∈ model.typeVars, ∀ bound ∈ definition.upperBound,
    bound.isPlaced .argument = true
  nodes : ∀ node ∈ model.interned.toList, ∀ arg ∈ node.args,
    arg.isPlaced .argument = true

namespace WildcardsPlaced

variable {model : Model}

theorem reserve (placed : model.WildcardsPlaced) (name : String)
    (names : NameTable) :
    WildcardsPlaced
      { model with
        classes := model.classes.push (.bare name .cls), names := names } where
  supertypes := by
    intro definition declared type listed
    rcases Array.mem_push.mp declared with old | rfl
    · exact placed.supertypes definition old type listed
    · cases listed
  bounds := placed.bounds
  nodes := placed.nodes

private theorem setDefinition (placed : model.WildcardsPlaced)
    (names : NameTable) (id : ClassId) {definition : ClassDef}
    (given : ∀ type ∈ definition.supertypes, type.isPlaced .outside = true) :
    WildcardsPlaced
      { model with
        names := names
        classes := model.classes.setIfInBounds id.toNat definition } where
  supertypes := by
    intro definition' declared
    rcases Array.mem_or_eq_of_mem_setIfInBounds declared with old | rfl
    · exact placed.supertypes definition' old
    · exact given
  bounds := placed.bounds
  nodes := placed.nodes

theorem allocate (placed : model.WildcardsPlaced) {definition : TypeVarDef}
    (given : ∀ bound ∈ definition.upperBound,
      bound.isPlaced .argument = true) :
    WildcardsPlaced
      { model with typeVars := model.typeVars.push definition } where
  supertypes := placed.supertypes
  bounds := by
    intro definition' declared
    rcases Array.mem_push.mp declared with old | rfl
    · exact placed.bounds definition' old
    · exact given
  nodes := placed.nodes

theorem redefine (placed : model.WildcardsPlaced) (var : TypeVarId)
    {definition : TypeVarDef}
    (given : ∀ bound ∈ definition.upperBound,
      bound.isPlaced .argument = true) :
    WildcardsPlaced
      { model with
        typeVars := model.typeVars.setIfInBounds var.toNat definition } where
  supertypes := placed.supertypes
  bounds := by
    intro definition' declared
    rcases Array.mem_or_eq_of_mem_setIfInBounds declared with old | rfl
    · exact placed.bounds definition' old
    · exact given
  nodes := placed.nodes

theorem keep (placed : model.WildcardsPlaced) {node : ParameterizedTy}
    (given : ∀ arg ∈ node.args, arg.isPlaced .argument = true) :
    WildcardsPlaced
      { model with interned := model.interned.insert node } where
  supertypes := placed.supertypes
  bounds := placed.bounds
  nodes := by
    intro node' kept
    rcases List.mem_cons.mp kept with rfl | old
    · exact given
    · exact placed.nodes node' old

/-! ## Fresh models -/

theorem setUp {before after : Model} (step : Setup before after)
    (placed : before.WildcardsPlaced) : after.WildcardsPlaced := by
  cases step with
  | reserve _ => exact placed.reserve _ _
  | allocate name owner => exact placed.allocate (by simp)
  | keep flat _ =>
      rw [List.all_eq_true] at flat
      apply placed.keep
      intro arg member
      exact Ty.isPlaced_of_isAtom (flat arg member) .argument
  | @reshape id change _ flat =>
      -- The changed definition has new supertypes, any other keeps its own.
      refine ⟨?_, placed.bounds, placed.nodes⟩
      intro definition declared type listed
      obtain ⟨index, inside, rfl⟩ := Array.mem_iff_getElem.mp declared
      rw [Array.getElem_modify] at listed
      split at listed
      · exact Ty.isPlaced_of_isFlatClass (flat _ type listed)
      · exact placed.supertypes _ (Array.getElem_mem _) type listed

theorem rootOnly (config : Config) : (rootOnly config).WildcardsPlaced where
  supertypes := by
    intro definition declared type listed
    have same : definition = .bare config.rootClass .cls := by
      simpa [Model.rootOnly] using declared
    subst same
    cases listed
  bounds := by simp [Model.rootOnly]
  nodes := by simp [Model.rootOnly]

theorem new (config : Config) : (Model.new config).model.WildcardsPlaced :=
  invariant_new rootOnly setUp config

/-! ## Operations -/

theorem internClass (placed : model.WildcardsPlaced) (name : String) :
    (model.internClass name).1.WildcardsPlaced := by
  unfold Model.internClass
  cases model.names.find? name with
  | some id => exact placed
  | none => exact placed.reserve name _

theorem install (placed : model.WildcardsPlaced) (id : ClassId)
    {definition : ClassDef}
    (given : ∀ type ∈ definition.supertypes, type.isPlaced .outside = true) :
    (model.install id definition).model.WildcardsPlaced := by
  have installed := placed.setDefinition (model.renamed id definition.name) id
    given
  unfold Model.install
  split
  · exact installed
  · split
    · exact installed
    · exact placed

/-- A type that passes the check of supertypes is no wildcard. -/
private theorem outside_of_checkSupertypes
    {definition : ClassDef}
    (given : ∀ type ∈ definition.supertypes, type.isPlaced .argument = true)
    (checked : model.checkSupertypes definition = .ok ()) :
    ∀ type ∈ definition.supertypes, type.isPlaced .outside = true := by
  intro type listed
  have isClass := classId?_isSome_of_checkSupertypes checked type listed
  exact Ty.isPlaced_outside_of_classId? (given type listed) isClass

theorem defineClass (placed : model.WildcardsPlaced) (id : ClassId)
    {definition : ClassDef}
    (given : ∀ type ∈ definition.supertypes, type.isPlaced .argument = true) :
    (model.defineClass id definition).model.WildcardsPlaced := by
  unfold Model.defineClass
  split
  · exact placed
  · split
    · exact placed
    · rename_i checked
      have installed := placed.install id
        (outside_of_checkSupertypes given checked)
      split
      · exact installed
      · split
        · exact installed
        · exact placed

theorem addClass (placed : model.WildcardsPlaced) {definition : ClassDef}
    (given : ∀ type ∈ definition.supertypes, type.isPlaced .argument = true) :
    (model.addClass definition).model.WildcardsPlaced := by
  unfold Model.addClass
  split
  · exact placed
  · rename_i checked
    have reserved := placed.internClass definition.name
    exact reserved.install _ (outside_of_checkSupertypes given checked)

theorem defineTypeVar (placed : model.WildcardsPlaced) (var : TypeVarId)
    {definition : TypeVarDef}
    (given : ∀ bound ∈ definition.upperBound,
      bound.isPlaced .argument = true) :
    (model.defineTypeVar var definition).model.WildcardsPlaced := by
  unfold Model.defineTypeVar
  split
  · exact placed
  · exact placed.redefine var given

theorem addTypeParams (placed : model.WildcardsPlaced) (owner : ClassId)
    (names : List String) :
    (model.addTypeParams owner names).model.WildcardsPlaced := by
  induction names generalizing model with
  | nil => exact placed
  | cons name names inductionHypothesis =>
      apply inductionHypothesis
      exact placed.allocate (by simp)

theorem addGeneric (placed : model.WildcardsPlaced) (name : String)
    (kind : ClassKind) (params : List String) {superClass : Option Ty}
    {interfaces : List Ty}
    (given : ∀ type ∈ superClass.toList ++ interfaces,
      type.isPlaced .argument = true) :
    (model.addGeneric name kind params superClass
      interfaces).model.WildcardsPlaced := by
  have reserved := placed.internClass name
  have allocated := reserved.addTypeParams (model.internClass name).2 params
  exact allocated.defineClass _ given

theorem narrowClass (placed : model.WildcardsPlaced) (id : ClassId)
    {args : List Ty} (given : ∀ arg ∈ args, arg.isPlaced .argument = true) :
    (model.narrowClass id args).model.WildcardsPlaced := by
  unfold Model.narrowClass
  split
  · exact placed
  · split
    · exact placed
    · split
      · exact placed
      · simp only [Traced.map, internNode]
        split
        · exact placed
        · exact placed.keep given

theorem narrow (placed : model.WildcardsPlaced) (type : Ty)
    {args : List Ty} (given : ∀ arg ∈ args, arg.isPlaced .argument = true) :
    (model.narrow type args).model.WildcardsPlaced := by
  unfold Model.narrow
  split
  · exact placed
  · exact placed.narrowClass _ given

end WildcardsPlaced

end Model

/-- The types that a caller hands over with an operation. -/
def Operation.types : Operation → List Ty
  | .internClass _ => []
  | .defineClass _ definition => definition.supertypes
  | .addClass definition => definition.supertypes
  | .addTypeVar definition => definition.upperBound.toList
  | .defineTypeVar _ definition => definition.upperBound.toList
  | .addGeneric _ _ _ superClass interfaces => superClass.toList ++ interfaces
  | .narrow type args => type :: args
  | .narrowClass _ args => args

namespace Model

theorem WildcardsPlaced.perform
    {model : Model} (placed : model.WildcardsPlaced) {operation : Operation}
    (given : ∀ type ∈ operation.types, type.isPlaced .argument = true) :
    (model.perform operation).WildcardsPlaced := by
  cases operation with
  | internClass name => exact placed.internClass name
  | defineClass id definition => exact placed.defineClass id given
  | addClass definition => exact placed.addClass given
  | addTypeVar definition =>
      exact placed.allocate fun bound isBound =>
        given bound (Option.mem_toList.mpr isBound)
  | defineTypeVar var definition =>
      exact placed.defineTypeVar var fun bound isBound =>
        given bound (Option.mem_toList.mpr isBound)
  | addGeneric name kind params superClass interfaces =>
      exact placed.addGeneric name kind params given
  | narrow type args =>
      exact placed.narrow type fun arg member =>
        given arg (List.mem_cons_of_mem type member)
  | narrowClass id args => exact placed.narrowClass id given

/-! ## Sessions -/

/-- A model that was used from its construction on, with the types that were
built meanwhile.  Narrowing and the other operations are given such types
only. -/
inductive Session (config : Config) : Model → List Ty → Prop where
  | start : Session config (Model.new config).model []
  | make {model : Model} {types : List Ty} {type : Ty}
      (session : Session config model types)
      (made : Ty.MadeFrom types type) : Session config model (type :: types)
  | narrow {model : Model} {types args : List Ty} {type result : Ty}
      (session : Session config model types) (given : type :: args ⊆ types)
      (answered : (model.narrow type args).answer = .ok result) :
      Session config (model.narrow type args).model (result :: types)
  | perform {model : Model} {types : List Ty} {operation : Operation}
      (session : Session config model types) (given : operation.types ⊆ types) :
      Session config (model.perform operation) types

private theorem isPlaced_of_narrow
    {model : Model} {type result : Ty} {args : List Ty}
    (given : ∀ arg ∈ args, arg.isPlaced .argument = true)
    (answered : (model.narrow type args).answer = .ok result) :
    result.isPlaced .argument = true := by
  obtain ⟨id, _, same⟩ := narrow_eq_narrowClass answered
  rw [same] at answered
  obtain ⟨definition, _, _, outcome⟩ := declared_of_narrowClass answered
  rcases outcome with ⟨_, rfl⟩ | ⟨_, rfl, _⟩
  · rfl
  · exact (Ty.arePlaced_iff args).mpr given

/-- The types that were built have their wildcards in place, the whole type
apart, and so has what the model stores, the bounds of variables apart. -/
theorem Session.placed
    {config : Config} {model : Model} {types : List Ty}
    (session : Session config model types) :
    model.WildcardsPlaced ∧
      ∀ type ∈ types, type.isPlaced .argument = true := by
  induction session with
  | start => exact ⟨.new config, by simp⟩
  | make session made inductionHypothesis =>
      obtain ⟨placed, built⟩ := inductionHypothesis
      have result := made.isPlaced built
      exact ⟨placed, List.forall_mem_cons.mpr ⟨result, built⟩⟩
  | @narrow model types args type result session given answered
      inductionHypothesis =>
      obtain ⟨placed, built⟩ := inductionHypothesis
      have arguments : ∀ arg ∈ args, arg.isPlaced .argument = true :=
        fun arg member => built arg (given (List.mem_cons_of_mem type member))
      have result := isPlaced_of_narrow arguments answered
      exact ⟨placed.narrow type arguments,
        List.forall_mem_cons.mpr ⟨result, built⟩⟩
  | perform session given inductionHypothesis =>
      obtain ⟨placed, built⟩ := inductionHypothesis
      exact ⟨placed.perform fun type member => built type (given member), built⟩

theorem WildcardsPlaced.isPlaced_of_stores
    {model : Model} (placed : model.WildcardsPlaced)
    (plainBounds : ∀ definition ∈ model.typeVars,
      ∀ bound ∈ definition.upperBound, bound.isWildcard = false)
    {type : Ty} (stored : model.Stores type) :
    type.isPlaced .outside = true := by
  cases stored with
  | supertype declared listed => exact placed.supertypes _ declared type listed
  | bound declared given =>
      rw [Ty.isPlaced_outside_iff]
      exact ⟨placed.bounds _ declared type given,
        plainBounds _ declared type given⟩
  | node kept => exact (Ty.arePlaced_iff _).mpr (placed.nodes _ kept)

/-- Throughout every session supertypes and nodes have their wildcards in place,
and a bound of a variable is at worst a wildcard as a whole.  So all stored types
have their wildcards in place exactly when no bound is a wildcard. -/
theorem stored_wildcards_placed_iff (config : Config) (model : Model)
    (types : List Ty) (session : Session config model types) :
    (∀ definition ∈ model.classes, ∀ type ∈ definition.supertypes,
        type.isPlaced .outside = true) ∧
      (∀ node ∈ model.interned.toList, node.toTy.isPlaced .outside = true) ∧
      (∀ definition ∈ model.typeVars, ∀ bound ∈ definition.upperBound,
        bound.isPlaced .argument = true) ∧
      ((∀ type, model.Stores type → type.isPlaced .outside = true) ↔
        ∀ definition ∈ model.typeVars, ∀ bound ∈ definition.upperBound,
          bound.isWildcard = false) := by
  obtain ⟨placed, _⟩ := session.placed
  refine ⟨placed.supertypes, ?_, placed.bounds, ?_, ?_⟩
  · intro node kept
    exact (Ty.arePlaced_iff node.args).mpr (placed.nodes node kept)
  · intro allPlaced definition declared bound given
    have boundPlaced := allPlaced bound (.bound declared given)
    exact ((Ty.isPlaced_outside_iff bound).mp boundPlaced).2
  · intro plainBounds type stored
    exact placed.isPlaced_of_stores plainBounds stored

/-- The interface `Comparable<T>` with the bound `Comparable<? super T>` for its
variable. -/
def selfComparable : Model :=
  (skeleton.narrow (.cls (.ofNat 4))
      [.lowerBounded (.typeVar (.ofNat 0))]).model.perform
    (.defineTypeVar (.ofNat 0)
      ⟨"T", .cls (.ofNat 4), some (.parameterized (.ofNat 4)
        [.lowerBounded (.typeVar (.ofNat 0))])⟩)

theorem stored_wildcards_placed_selfComparable :
    Session ⟨"java.lang.Object", true, .javaLang⟩ selfComparable
        [.parameterized (.ofNat 4) [.lowerBounded (.typeVar (.ofNat 0))],
          .cls (.ofNat 4), .lowerBounded (.typeVar (.ofNat 0)),
          .typeVar (.ofNat 0)] ∧
      ∀ type, selfComparable.Stores type → type.isPlaced .outside = true := by
  obtain ⟨definition, declared, arity⟩ := Option.map_eq_some_iff.mp
    (show (skeleton.classDef? (.ofNat 4)).map ClassDef.arity = some 1 by
      decide +kernel)
  have answered : (skeleton.narrow (.cls (.ofNat 4))
      [.lowerBounded (.typeVar (.ofNat 0))]).answer =
        .ok (.parameterized (.ofNat 4)
          [.lowerBounded (.typeVar (.ofNat 0))]) :=
    answer_narrow_cls declared (by simp [arity]) (by simp [arity])
  have built : Session ⟨"java.lang.Object", true, .javaLang⟩ skeleton
      [.cls (.ofNat 4), .lowerBounded (.typeVar (.ofNat 0)),
        .typeVar (.ofNat 0)] :=
    .make (.make (.make .start (.typeVar _))
      (.lowerBounded List.mem_cons_self rfl)) (.cls _)
  have session : Session ⟨"java.lang.Object", true, .javaLang⟩ selfComparable
      [.parameterized (.ofNat 4) [.lowerBounded (.typeVar (.ofNat 0))],
        .cls (.ofNat 4), .lowerBounded (.typeVar (.ofNat 0)),
        .typeVar (.ofNat 0)] := by
    refine .perform (.narrow built ?_ answered) ?_
    · simp
    · simp [Operation.types]
  have plainBounds : ∀ definition ∈ selfComparable.typeVars,
      ∀ bound ∈ definition.upperBound, bound.isWildcard = false := by
    decide +kernel
  obtain ⟨_, _, _, placed⟩ := stored_wildcards_placed_iff _ _ _ session
  exact ⟨session, placed.mpr plainBounds⟩

/-- A model with a variable that was given the plain wildcard for a bound. -/
def wildcardBounded : Model :=
  ((Model.new ⟨"java.lang.Object", true, .rootOnly⟩).model.perform
      (.addTypeVar ⟨"T", .cls (.ofNat 0), none⟩)).perform
    (.defineTypeVar (.ofNat 0) ⟨"T", .cls (.ofNat 0), some .unbounded⟩)

/-- A session may store a wildcard that is no argument. -/
theorem stored_wildcard_out_of_place :
    Session ⟨"java.lang.Object", true, .rootOnly⟩ wildcardBounded
        [.unbounded] ∧
      wildcardBounded.Stores .unbounded ∧
        Ty.isPlaced .outside .unbounded = false := by
  have session : Session ⟨"java.lang.Object", true, .rootOnly⟩ wildcardBounded
      [.unbounded] := by
    refine .perform (.perform (.make .start .unbounded) ?_) ?_
    · simp [Operation.types]
    · simp [Operation.types]
  have declared : (⟨"T", .cls (.ofNat 0), some .unbounded⟩ : TypeVarDef) ∈
      wildcardBounded.typeVars := by
    decide +kernel
  exact ⟨session, .bound declared rfl, rfl⟩

end Model

end JavaTypes
