import JavaTypes.Erasure
import JavaTypes.Proofs.Acceptance
import JavaTypes.Rendering

/-!
# Environments that know more

Types are written with symbols, the ids of classes and of type variables.  One
environment is extended by another when the other gives every symbol it knows
the same declaration.  The other may declare anything about further symbols.

Suppose the smaller environment is self-contained: supertypes and bounds that it
declares are written with symbols it knows.  Then no question about types of
known symbols leads out of it.  Subclassing, assignability, erasure and
rendering answer alike in both environments.
-/

namespace JavaTypes

/-! ## Symbols of a type -/

/-- What stands for a name in a type. -/
inductive Symbol where
  | cls (id : ClassId)
  | typeVar (var : TypeVarId)
  deriving DecidableEq

namespace Ty

mutual

/-- The classes and type variables that occur in a type. -/
def symbols : Ty → List Symbol
  | .cls id => [.cls id]
  | .array element => symbols element
  | .typeVar var => [.typeVar var]
  | .parameterized erasure args => .cls erasure :: symbolsList args
  | .upperBounded bound => symbols bound
  | .lowerBounded bound => symbols bound
  | _ => []

/-- The classes and type variables that occur in the types of a list. -/
def symbolsList : List Ty → List Symbol
  | [] => []
  | head :: tail => symbols head ++ symbolsList tail

end

theorem symbols_subset_symbolsList
    {type : Ty} {types : List Ty} (member : type ∈ types) :
    type.symbols ⊆ symbolsList types := by
  induction types with
  | nil => cases member
  | cons head tail inductionHypothesis =>
      intro symbol occurs
      rw [symbolsList, List.mem_append]
      rcases List.mem_cons.mp member with rfl | later
      · exact Or.inl occurs
      · exact Or.inr (inductionHypothesis later occurs)

end Ty

namespace Env

/-- The name that an environment gives to a symbol, if it knows the symbol. -/
def name? (env : Env) : Symbol → Option String
  | .cls id => (env.classDef? id).map ClassDef.name
  | .typeVar var => (env.typeVarDef? var).map TypeVarDef.name

/-- The environment knows every symbol of a type. -/
def Knows (env : Env) (type : Ty) : Prop :=
  ∀ symbol ∈ type.symbols, (env.name? symbol).isSome = true

theorem knows_cls_iff {env : Env} {id : ClassId} :
    env.Knows (.cls id) ↔ (env.classDef? id).isSome = true := by
  simp [Knows, Ty.symbols, name?]

theorem knows_typeVar_iff {env : Env} {var : TypeVarId} :
    env.Knows (.typeVar var) ↔ (env.typeVarDef? var).isSome = true := by
  simp [Knows, Ty.symbols, name?]

theorem Knows.erasure
    {env : Env} {erasure : ClassId} {args : List Ty}
    (known : env.Knows (.parameterized erasure args)) :
    env.Knows (.cls erasure) := by
  intro symbol occurs
  rw [Ty.symbols, List.mem_singleton] at occurs
  exact known symbol (occurs ▸ List.mem_cons_self)

theorem Knows.arg
    {env : Env} {erasure : ClassId} {args : List Ty}
    (known : env.Knows (.parameterized erasure args))
    {arg : Ty} (member : arg ∈ args) : env.Knows arg := by
  intro symbol occurs
  have inArgs : symbol ∈ Ty.symbolsList args :=
    Ty.symbols_subset_symbolsList member occurs
  exact known symbol (List.mem_cons_of_mem _ inArgs)

theorem Knows.classId?
    {env : Env} {type : Ty} {id : ClassId} (known : env.Knows type)
    (shape : type.classId? = some id) : env.Knows (.cls id) := by
  cases type with
  | cls id' =>
      cases shape
      exact known
  | parameterized erasure args =>
      cases shape
      exact known.erasure
  | _ => cases shape

theorem Knows.content
    {env : Env} {type : Ty} (known : env.Knows type)
    (rootKnown : env.Knows env.rootTy) :
    env.Knows (env.argument type).content := by
  cases type with
  | unbounded => exact rootKnown
  | _ => exact known

/-! ## Extended environments -/

/-- The second environment declares what the first declares, and maybe more. -/
structure ExtendedBy (env other : Env) : Prop where
  root : env.root = other.root
  uncheckedRaw : env.uncheckedRaw = other.uncheckedRaw
  classDef? : ∀ {id definition}, env.classDef? id = some definition →
    other.classDef? id = some definition
  typeVarDef? : ∀ {var definition}, env.typeVarDef? var = some definition →
    other.typeVarDef? var = some definition

theorem ExtendedBy.refl (env : Env) : env.ExtendedBy env :=
  ⟨rfl, rfl, fun declared => declared, fun declared => declared⟩

theorem ExtendedBy.trans
    {first second third : Env} (before : first.ExtendedBy second)
    (after : second.ExtendedBy third) : first.ExtendedBy third where
  root := before.root.trans after.root
  uncheckedRaw := before.uncheckedRaw.trans after.uncheckedRaw
  classDef? := fun declared => after.classDef? (before.classDef? declared)
  typeVarDef? := fun declared =>
    after.typeVarDef? (before.typeVarDef? declared)

private theorem ExtendedBy.classDef?_eq
    {env other : Env} (extended : env.ExtendedBy other) {id : ClassId}
    (known : env.Knows (.cls id)) : other.classDef? id = env.classDef? id := by
  obtain ⟨definition, declared⟩ :=
    Option.isSome_iff_exists.mp (knows_cls_iff.mp known)
  rw [declared]
  exact extended.classDef? declared

private theorem ExtendedBy.typeVarDef?_eq
    {env other : Env} (extended : env.ExtendedBy other) {var : TypeVarId}
    (known : env.Knows (.typeVar var)) :
    other.typeVarDef? var = env.typeVarDef? var := by
  obtain ⟨definition, declared⟩ :=
    Option.isSome_iff_exists.mp (knows_typeVar_iff.mp known)
  rw [declared]
  exact extended.typeVarDef? declared

private theorem ExtendedBy.declaredBound?_eq
    {env other : Env} (extended : env.ExtendedBy other) {var : TypeVarId}
    (known : env.Knows (.typeVar var)) :
    other.declaredBound? var = env.declaredBound? var := by
  rw [declaredBound?, extended.typeVarDef?_eq known, declaredBound?]

private theorem ExtendedBy.bound_eq
    {env other : Env} (extended : env.ExtendedBy other) {var : TypeVarId}
    (known : env.Knows (.typeVar var)) : other.bound var = env.bound var := by
  rw [bound, extended.declaredBound?_eq known, rootTy, ← extended.root]
  rfl

theorem ExtendedBy.declares_iff
    {env other : Env} (extended : env.ExtendedBy other) {id parent : ClassId}
    (known : env.Knows (.cls id)) :
    other.Declares id parent ↔ env.Declares id parent := by
  rw [Declares, extended.classDef?_eq known, Declares]

/-! ## Rendering -/

mutual

theorem ExtendedBy.render_eq
    {env other : Env} (extended : env.ExtendedBy other) (style : NameStyle) :
    (type : Ty) → env.Knows type →
      other.render style type = env.render style type
  | .primitive kind, _ => by simp only [render]
  | .cls id, known => by
      simp only [render, renderClass, extended.classDef?_eq known]
  | .array element, known => by
      simp only [render, extended.render_eq style element known]
  | .typeVar var, known => by
      simp only [render, renderTypeVar, extended.typeVarDef?_eq known]
  | .parameterized erasure args, known => by
      have sameArgs := extended.renderArgs_eq style args
        fun _ member => known.arg member
      simp only [render, renderClass, extended.classDef?_eq known.erasure,
        sameArgs]
  | .unbounded, _ => by simp only [render]
  | .upperBounded bound, known => by
      simp only [render, extended.render_eq style bound known]
  | .lowerBounded bound, known => by
      simp only [render, extended.render_eq style bound known]

theorem ExtendedBy.renderArgs_eq
    {env other : Env} (extended : env.ExtendedBy other) (style : NameStyle) :
    (types : List Ty) → (∀ type ∈ types, env.Knows type) →
      other.renderArgs style types = env.renderArgs style types
  | [], _ => by simp only [renderArgs]
  | head :: tail, known => by
      have sameHead := extended.render_eq style head
        (known head List.mem_cons_self)
      have sameTail := extended.renderArgs_eq style tail
        fun type member => known type (List.mem_cons_of_mem head member)
      simp only [renderArgs, sameHead, sameTail]

end

/-! ## Questions that follow declarations -/

/-- Declared supertypes and bounds are written with known symbols. -/
structure SelfContained (env : Env) : Prop where
  supertypes : ∀ {id definition}, env.classDef? id = some definition →
    ∀ type ∈ definition.supertypes, env.Knows type
  bounds : ∀ {var definition}, env.typeVarDef? var = some definition →
    ∀ bound ∈ definition.upperBound, env.Knows bound

private theorem SelfContained.knows_parent
    {env : Env} (contained : env.SelfContained) {id parent : ClassId}
    (declared : env.Declares id parent) : env.Knows (.cls parent) := by
  obtain ⟨definition, found, type, listed, shape⟩ := declared
  have member : type ∈ definition.supertypes := by
    simpa [ClassDef.supertypes] using listed
  have typeKnown := contained.supertypes found type member
  exact typeKnown.classId? (Ty.classId?_eq_some_iff.mpr shape)

private theorem SelfContained.knows_declaredBound
    {env : Env} (contained : env.SelfContained) {var : TypeVarId} {bound : Ty}
    (declared : env.declaredBound? var = some bound) : env.Knows bound := by
  obtain ⟨definition, found, bounded⟩ := declaredBound?_eq_some_iff.mp declared
  exact contained.bounds found bound bounded

private theorem SelfContained.knows_bound
    {env : Env} (contained : env.SelfContained)
    (rootKnown : env.Knows env.rootTy) (var : TypeVarId) :
    env.Knows (env.bound var) := by
  unfold bound
  cases declared : env.declaredBound? var with
  | none => exact rootKnown
  | some bound => exact contained.knows_declaredBound declared

section

variable {env other : Env}

/-- A chain that starts at a known class never leaves the known classes. -/
theorem ExtendedBy.inherits_iff
    (extended : env.ExtendedBy other) (contained : env.SelfContained)
    {sub sup : ClassId} (known : env.Knows (.cls sub)) :
    other.Inherits sub sup ↔ env.Inherits sub sup := by
  constructor
  · intro chain
    induction chain using Relation.TransGen.head_induction_on with
    | single declared =>
        exact .single ((extended.declares_iff known).mp declared)
    | head declared _ inductionHypothesis =>
        rw [extended.declares_iff known] at declared
        have middleKnown := contained.knows_parent declared
        exact .head declared (inductionHypothesis middleKnown)
  · intro chain
    induction chain using Relation.TransGen.head_induction_on with
    | single declared =>
        exact .single ((extended.declares_iff known).mpr declared)
    | head declared _ inductionHypothesis =>
        have middleKnown := contained.knows_parent declared
        rw [← extended.declares_iff known] at declared
        exact .head declared (inductionHypothesis middleKnown)

theorem ExtendedBy.isSubclass_eq
    (extended : env.ExtendedBy other) (contained : env.SelfContained)
    {sub : ClassId} (known : env.Knows (.cls sub)) (sup : ClassId) :
    other.isSubclass sub sup = env.isSubclass sub sup := by
  rw [Bool.eq_iff_iff, isSubclass_eq_true_iff, isSubclass_eq_true_iff,
    extended.root, extended.inherits_iff contained known]

theorem ExtendedBy.erase_eq
    (extended : env.ExtendedBy other) (contained : env.SelfContained)
    (guard : List TypeVarId) (type : Ty) (known : env.Knows type) :
    other.erase guard type = env.erase guard type := by
  have sameRootTy : other.rootTy = env.rootTy := by
    simp [rootTy, extended.root]
  induction guard, type using erase.induct env with
  | case1 guard var guarded => simp [erase, guarded, sameRootTy]
  | case2 guard var fresh bound declared inductionHypothesis =>
      have sameBound := extended.declaredBound?_eq known
      have boundKnown := contained.knows_declaredBound declared
      simp [erase, fresh, sameBound, declared, inductionHypothesis boundKnown]
  | case3 guard var fresh undeclared =>
      have sameBound := extended.declaredBound?_eq known
      simp [erase, fresh, sameBound, undeclared, sameRootTy]
  | case4 guard element inductionHypothesis =>
      simp [erase, inductionHypothesis known]
  | case5 guard bound inductionHypothesis =>
      simp [erase, inductionHypothesis known]
  | case6 guard => simp [erase, sameRootTy]
  | case7 guard bound => simp [erase, sameRootTy]
  | case8 guard type notVariable notArray notUpper notUnbounded notLower =>
      cases type <;> simp_all [erase]

/-- The check asks about known symbols only, so it gives the same answer in
both environments, whatever variables it is expanding. -/
theorem ExtendedBy.accepts_eq
    (extended : env.ExtendedBy other) (contained : env.SelfContained)
    (rootKnown : env.Knows env.rootTy)
    (guard : List TypeVarId) (target source : Ty) :
    ∀ {position : Position}, env.Knows target → env.Knows source →
      other.accepts guard position target source =
        env.accepts guard position target source := by
  induction guard, target, source using env.accepts_induction with
  | step guard target source ofBound ofElements ofContents =>
      intro position targetKnown sourceKnown
      apply accepts_congr extended.root extended.uncheckedRaw
      · intro sup sub shape
        exact extended.isSubclass_eq contained (sourceKnown.classId? shape) sup
      · rintro var rfl
        have boundKnown := contained.knows_bound rootKnown var
        refine and_congr_right fun fresh => ?_
        rw [extended.bound_eq sourceKnown,
          ofBound var rfl fresh targetKnown boundKnown]
      · rintro first second rfl rfl
        exact ofElements first second rfl rfl targetKnown sourceKnown
      · rintro erasure args args' rfl rfl first member second member'
        have firstKnown := (targetKnown.arg member).content rootKnown
        have secondKnown := (sourceKnown.arg member').content rootKnown
        obtain ⟨forward, backward⟩ :=
          ofContents _ _ _ _ rfl rfl first member second member'
        exact ⟨forward firstKnown secondKnown, backward secondKnown firstKnown⟩

end

end Env

end JavaTypes
