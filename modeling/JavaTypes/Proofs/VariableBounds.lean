import JavaTypes.Proofs.Acceptance
import JavaTypes.Proofs.Edits

/-!
# A type variable as the source of an assignment

A check does not expand the bound of a variable twice on one path, however many
type arguments lie between the two places.  A variable is therefore accepted
where its bound is accepted while the variable itself is *sealed*: known as
itself and as a reference, but not through its bound.

Sealing takes answers away and never adds any.  It takes none away when neither
the target nor the bound leads back to the variable.  A variable whose bound
mentions it can lose some: with `N extends Node<N>`, the type
`Node<? extends Node>` accepts `Node<N>` but not `N`.
-/

namespace JavaTypes

/-! ## Variables of a type -/

mutual

/-- The type variables that occur in a type. -/
def Ty.vars : Ty → List TypeVarId
  | .array element => Ty.vars element
  | .typeVar var => [var]
  | .parameterized _ args => Ty.varsList args
  | .upperBounded bound => Ty.vars bound
  | .lowerBounded bound => Ty.vars bound
  | _ => []

/-- The type variables that occur in the types of a list. -/
def Ty.varsList : List Ty → List TypeVarId
  | [] => []
  | head :: tail => Ty.vars head ++ Ty.varsList tail

end

theorem Ty.vars_subset_varsList
    {type : Ty} {types : List Ty} (member : type ∈ types) :
    type.vars ⊆ Ty.varsList types := by
  induction types with
  | nil => cases member
  | cons head tail inductionHypothesis =>
      intro var occurs
      rw [Ty.varsList, List.mem_append]
      rcases List.mem_cons.mp member with rfl | later
      · exact Or.inl occurs
      · exact Or.inr (inductionHypothesis later occurs)

namespace Env

theorem vars_content_argument_subset (env : Env) (type : Ty) :
    (env.argument type).content.vars ⊆ type.vars := by
  cases type <;> simp [argument, Argument.content, Ty.vars, rootTy]

/-- A variable occurs in a type, or in the bound of a variable that the type
leads to. -/
inductive Leads (env : Env) : Ty → TypeVarId → Prop where
  | occurs {type : Ty} {var : TypeVarId} (member : var ∈ type.vars) :
      Leads env type var
  | through {type bound : Ty} {middle var : TypeVarId}
      (member : middle ∈ type.vars) (bounded : env.HasBound middle bound)
      (rest : Leads env bound var) : Leads env type var

theorem Leads.of_subset
    {env : Env} {part whole : Ty} {var : TypeVarId}
    (leads : env.Leads part var) (subset : part.vars ⊆ whole.vars) :
    env.Leads whole var := by
  cases leads with
  | occurs member => exact .occurs (subset member)
  | through member bounded rest =>
      exact .through (subset member) bounded rest

/-! ## Smaller guards accept more -/

private theorem simulation_of_subset (env : Env) :
    Simulation env env fun guard guard' _ _ => guard' ⊆ guard where
  sameRoot := rfl
  sameParents := rfl
  element subset := subset
  inner subset := fun _ _ _ _ => ⟨subset, subset⟩
  expand := by
    rintro guard guard' position target var subset _ _ _ ⟨fresh, _⟩
    exact ⟨fun member => fresh (subset member), rfl,
      List.cons_subset_cons var subset⟩

theorem accepts_of_subset
    {env : Env} {guard guard' : List TypeVarId} {position : Position}
    {target source : Ty}
    (subset : guard' ⊆ guard)
    (accepted : env.accepts guard position target source = true) :
    env.accepts guard' position target source = true :=
  (simulation_of_subset env).accepts guard target source subset
    (fun converts => converts) accepted

/-! ## Guards that do not matter -/

/-- A variable that neither type leads to may be taken out of the guard or put
into it. -/
private theorem simulation_of_not_leads (env : Env) (var : TypeVarId) :
    Simulation env env fun guard guard' target source =>
      (∀ other, other ≠ var → other ∈ guard' → other ∈ guard) ∧
        ¬ env.Leads target var ∧ ¬ env.Leads source var where
  sameRoot := rfl
  sameParents := rfl
  element := by
    rintro guard guard' first second ⟨same, noTarget, noSource⟩
    exact ⟨same,
      fun leads => noTarget (leads.of_subset (by simp [Ty.vars])),
      fun leads => noSource (leads.of_subset (by simp [Ty.vars]))⟩
  inner := by
    rintro guard guard' erasure args erasure' args' ⟨same, noTarget, noSource⟩
      first firstMember second secondMember
    have noFirst : ¬ env.Leads (env.argument first).content var := by
      intro leads
      refine noTarget (leads.of_subset fun other occurs => ?_)
      exact Ty.vars_subset_varsList firstMember
        (env.vars_content_argument_subset first occurs)
    have noSecond : ¬ env.Leads (env.argument second).content var := by
      intro leads
      refine noSource (leads.of_subset fun other occurs => ?_)
      exact Ty.vars_subset_varsList secondMember
        (env.vars_content_argument_subset second occurs)
    exact ⟨⟨same, noFirst, noSecond⟩, ⟨same, noSecond, noFirst⟩⟩
  expand := by
    rintro guard guard' position target met ⟨same, noTarget, noSource⟩
      _ _ _ ⟨fresh, _⟩
    have differs : met ≠ var := by
      rintro rfl
      exact noSource (.occurs (by simp [Ty.vars]))
    refine ⟨fun member => fresh (same met differs member), rfl, ?_,
      noTarget, ?_⟩
    · intro other otherDiffers member
      rcases List.mem_cons.mp member with rfl | inGuard
      · exact List.mem_cons_self
      · exact List.mem_cons_of_mem met (same other otherDiffers inGuard)
    · intro leads
      exact noSource
        (.through (by simp [Ty.vars]) (env.hasBound_bound met) leads)

private theorem accepts_cons_of_not_leads
    {env : Env} {guard : List TypeVarId} {position : Position}
    {target source : Ty} {var : TypeVarId}
    (noTarget : ¬ env.Leads target var) (noSource : ¬ env.Leads source var) :
    env.accepts (var :: guard) position target source =
      env.accepts guard position target source := by
  rw [Bool.eq_iff_iff]
  constructor
  · exact accepts_of_subset (List.subset_cons_self var guard)
  · refine (simulation_of_not_leads env var).accepts guard target source
      ⟨?_, noTarget, noSource⟩ (fun converts => converts)
    intro other differs member
    rcases List.mem_cons.mp member with same | inGuard
    · exact absurd same differs
    · exact inGuard

/-! ## Sealed variables -/

/-- The second environment is the first with one variable sealed: the variable
is its own bound, so that expanding it leads nowhere. -/
structure Seals (env other : Env) (var : TypeVarId) : Prop where
  sameRoot : env.root = other.root
  sameParents : env.parents = other.parents
  sameRaw : env.uncheckedRaw = other.uncheckedRaw
  sealed : other.bound var = .typeVar var
  kept : ∀ met, met ≠ var → other.bound met = env.bound met

/-- A guarded variable may be sealed instead. -/
theorem Seals.simulation
    {env other : Env} {var : TypeVarId} (seals : Seals env other var) :
    Simulation env other fun guard guard' _ _ =>
      var ∈ guard ∧ ∀ met, met ≠ var → met ∈ guard' → met ∈ guard where
  sameRoot := seals.sameRoot
  sameParents := seals.sameParents
  element same := same
  inner same := fun _ _ _ _ => ⟨same, same⟩
  expand := by
    rintro guard guard' position target met ⟨guarded, same⟩ _ _ _ ⟨fresh, _⟩
    have differs : met ≠ var := fun equal => fresh (equal ▸ guarded)
    refine ⟨fun member => fresh (same met differs member),
      seals.kept met differs, List.mem_cons_of_mem met guarded, ?_⟩
    intro other otherDiffers member
    rcases List.mem_cons.mp member with rfl | inGuard
    · exact List.mem_cons_self
    · exact List.mem_cons_of_mem met (same other otherDiffers inGuard)

/-- A sealed variable is as good as a guarded one. -/
private theorem Seals.simulation_symm
    {env other : Env} {var : TypeVarId} (seals : Seals env other var) :
    Simulation other env fun guard guard' _ _ =>
      ∀ met, met ∈ guard' → met = var ∨ met ∈ guard where
  sameRoot := seals.sameRoot.symm
  sameParents := seals.sameParents.symm
  element same := same
  inner same := fun _ _ _ _ => ⟨same, same⟩
  expand := by
    rintro guard guard' position target met same targetDiffers reference
      notRoot ⟨fresh, accepted⟩
    -- The bound of the sealed variable is the variable, now guarded.
    have differs : met ≠ var := by
      rintro rfl
      rw [seals.sealed, accepts_typeVar targetDiffers reference notRoot]
        at accepted
      simp at accepted
    refine ⟨?_, (seals.kept met differs).symm, ?_⟩
    · intro member
      rcases same met member with equal | inGuard
      · exact differs equal
      · exact fresh inGuard
    · intro other member
      rcases List.mem_cons.mp member with rfl | inGuard
      · exact Or.inr List.mem_cons_self
      · exact (same other inGuard).imp_right (List.mem_cons_of_mem met)

private theorem Seals.accepts_cons
    {env other : Env} {var : TypeVarId} (seals : Seals env other var)
    (guard : List TypeVarId) (position : Position) (target source : Ty) :
    env.accepts (var :: guard) position target source =
      other.accepts guard position target source := by
  rw [Bool.eq_iff_iff]
  constructor
  · refine seals.simulation.accepts (var :: guard) target source
      ⟨List.mem_cons_self, ?_⟩ (by simp [convertsRaw, seals.sameRaw])
    intro met _ member
    exact List.mem_cons_of_mem var member
  · refine seals.simulation_symm.accepts guard target source ?_
      (by simp [convertsRaw, seals.sameRaw])
    intro met member
    exact List.mem_cons.mp member

/-- A variable is accepted as itself, as a reference, or through its bound with
the variable sealed. -/
theorem Seals.isAssignable_typeVar_iff
    {env other : Env} {var : TypeVarId} (seals : Seals env other var)
    {target : Ty} (reference : target.isReference = true) :
    env.isAssignable target (.typeVar var) = true ↔
      target = .typeVar var ∨ target = env.rootTy ∨
        other.isAssignable target (env.bound var) = true := by
  by_cases same : target = .typeVar var
  · subst same
    simp [isAssignable, accepts_self]
  by_cases atRoot : target = env.rootTy
  · subst atRoot
    have accepted : env.isAssignable env.rootTy (.typeVar var) = true :=
      accepts_root env [] .topLevel rfl
    simp [accepted]
  have expanded :
      env.isAssignable target (.typeVar var) =
        other.isAssignable target (env.bound var) := by
    rw [isAssignable, isAssignable, accepts_typeVar same reference atRoot,
      if_neg List.not_mem_nil, seals.accepts_cons]
  simp [same, atRoot, expanded]

/-- Sealing a variable only takes answers away. -/
private theorem Seals.isAssignable_of_sealed
    {env other : Env} {var : TypeVarId} (seals : Seals env other var)
    {target source : Ty}
    (accepted : other.isAssignable target source = true) :
    env.isAssignable target source = true := by
  rw [isAssignable, ← seals.accepts_cons] at accepted
  exact accepts_of_subset (List.nil_subset [var]) accepted

private theorem Seals.isAssignable_of_not_leads
    {env other : Env} {var : TypeVarId} (seals : Seals env other var)
    {target source : Ty}
    (noTarget : ¬ env.Leads target var) (noSource : ¬ env.Leads source var) :
    other.isAssignable target source = env.isAssignable target source := by
  rw [isAssignable, isAssignable, ← seals.accepts_cons]
  exact accepts_cons_of_not_leads noTarget noSource

private theorem isAssignable_raw_parameterized
    (env : Env) (id : ClassId) (args : List Ty) :
    env.isAssignable (.cls id) (.parameterized id args) = true := by
  rw [isAssignable, accepts_cls_parameterized]
  simp [isSubclass]

/-- A variable whose bound is a class applied to the variable itself is not
accepted where its bound is. -/
theorem isAssignable_selfBounded
    {env : Env} {id : ClassId} {var : TypeVarId}
    (selfBounded : env.bound var = .parameterized id [.typeVar var])
    (notRoot : id ≠ env.root) :
    env.isAssignable (.parameterized id [.upperBounded (.cls id)])
        (env.bound var) = true ∧
      env.isAssignable (.parameterized id [.upperBounded (.cls id)])
        (.typeVar var) = false := by
  have notRootTy : Ty.cls id ≠ env.rootTy := by
    simpa [rootTy] using notRoot
  have classAccepts (guard : List TypeVarId) :
      env.accepts guard .nested (.cls id) (.typeVar var) = true ↔
        var ∉ guard := by
    rw [accepts_typeVar (by simp) rfl notRootTy, selfBounded,
      accepts_cls_parameterized]
    simp [isSubclass]
  have targetAccepts (guard : List TypeVarId) :
      env.accepts guard .topLevel (.parameterized id [.upperBounded (.cls id)])
          (env.bound var) = true ↔
        var ∉ guard := by
    rw [selfBounded, accepts_parameterized_parameterized, Bool.and_eq_true,
      acceptsArgs_eq_true_iff]
    simp [ContainsArgs, containsArg_iff, argument, Argument.Contains,
      classAccepts]
  constructor
  · exact (targetAccepts []).mpr List.not_mem_nil
  · rw [isAssignable, accepts_typeVar (by simp) rfl (by simp [rootTy]),
      if_neg List.not_mem_nil]
    simpa using targetAccepts [var]

end Env

namespace Model

/-- The model in which a type variable is its own bound. -/
def sealVar (model : Model) (var : TypeVarId) (definition : TypeVarDef) :
    Model :=
  (model.defineTypeVar var
    { definition with upperBound := some (.typeVar var) }).model

theorem seals_sealVar
    {model : Model} {var : TypeVarId} {definition : TypeVarDef}
    (declared : model.typeVarDef? var = some definition) :
    model.env.Seals (model.sealVar var definition).env var := by
  have known : (model.typeVarDef? var).isSome = true := by simp [declared]
  rw [sealVar, env_defineTypeVar known]
  refine ⟨rfl, rfl, rfl, ?_, ?_⟩
  · simp [Env.bound, Env.declaredBound?]
  · intro met differs
    simp only [Env.bound, Env.declaredBound?, if_neg differs]
    rfl

/-- The rule of bounds for one target: it accepts a variable as itself, as a
reference, or when it accepts the bound of the variable. -/
def BoundRule (model : Model) (var : TypeVarId) (bound target : Ty) : Prop :=
  model.env.isAssignable target (.typeVar var) = true ↔
    target = .typeVar var ∨ target = model.rootTy ∨
      model.env.isAssignable target bound = true

/-- What a target accepts of a variable, exactly, and when that is the rule of
bounds: when the target accepts the bound of the variable, it does so without
expanding the variable again.  That is so in particular when neither the target
nor the bound leads back to the variable. -/
theorem isAssignable_typeVar_iff_sealed
    (model : Model) (var : TypeVarId) (definition : TypeVarDef)
    (bound target : Ty)
    (declared : model.typeVarDef? var = some definition)
    (bounded : definition.upperBound = some bound)
    (notPrimitive : target.isPrimitive = false)
    (notWildcard : target.isWildcard = false) :
    (model.env.isAssignable target (.typeVar var) = true ↔
        target = .typeVar var ∨ target = model.rootTy ∨
          (model.sealVar var definition).env.isAssignable target bound =
            true) ∧
      (model.BoundRule var bound target ↔
        (target ≠ .typeVar var → target ≠ model.rootTy →
          model.env.isAssignable target bound = true →
            (model.sealVar var definition).env.isAssignable target bound =
              true)) ∧
      (¬ model.env.Leads target var → ¬ model.env.Leads bound var →
        model.BoundRule var bound target) := by
  have seals := seals_sealVar declared
  have boundEq : model.env.bound var = bound := by
    have declaredEnv : model.env.typeVarDef? var = some definition := declared
    simp [Env.bound, Env.declaredBound?, declaredEnv, bounded]
  have reference : target.isReference = true := by
    cases target <;> simp_all [Ty.isPrimitive, Ty.isWildcard, Ty.isReference]
  have exactly := seals.isAssignable_typeVar_iff reference
  rw [boundEq] at exactly
  have fewer :
      (model.sealVar var definition).env.isAssignable target bound = true →
        model.env.isAssignable target bound = true :=
    seals.isAssignable_of_sealed
  have rule :
      model.BoundRule var bound target ↔
        (target ≠ .typeVar var → target ≠ model.rootTy →
          model.env.isAssignable target bound = true →
            (model.sealVar var definition).env.isAssignable target bound =
              true) := by
    rw [BoundRule, exactly]
    constructor
    · intro law notVar notRoot accepted
      rcases law.mpr (Or.inr (Or.inr accepted)) with same | same | kept
      · exact absurd same notVar
      · exact absurd same notRoot
      · exact kept
    · intro keeps
      refine ⟨Or.imp_right (Or.imp_right fewer), ?_⟩
      rintro (same | same | accepted)
      · exact Or.inl same
      · exact Or.inr (Or.inl same)
      · by_cases isVar : target = .typeVar var
        · exact Or.inl isVar
        · by_cases isRoot : target = model.rootTy
          · exact Or.inr (Or.inl isRoot)
          · exact Or.inr (Or.inr (keeps isVar isRoot accepted))
  refine ⟨exactly, rule, fun noTarget noBound => rule.mpr ?_⟩
  intro _ _ accepted
  rwa [seals.isAssignable_of_not_leads noTarget noBound]

/-! ## A variable bounded by itself -/

/-- A class `Node` with the type parameter `N extends Node<N>`. -/
def selfBounded : Model :=
  (Model.new .default).model.run
    [.internClass "com.example.Node",
      .addTypeVar ⟨"N", .cls (.ofNat 1), none⟩,
      .defineClass (.ofNat 1)
        ⟨"com.example.Node", .cls, [.ofNat 0], none, []⟩,
      .narrowClass (.ofNat 1) [.typeVar (.ofNat 0)],
      .defineTypeVar (.ofNat 0)
        ⟨"N", .cls (.ofNat 1),
          some (.parameterized (.ofNat 1) [.typeVar (.ofNat 0)])⟩]

private theorem typeVarDef?_selfBounded :
    selfBounded.typeVarDef? (.ofNat 0) =
      some ⟨"N", .cls (.ofNat 1),
        some (.parameterized (.ofNat 1) [.typeVar (.ofNat 0)])⟩ := by
  decide +kernel

/-- The raw class accepts the variable and its bound, as the rule of bounds
says, although the bound leads back to the variable. -/
theorem boundRule_selfBounded_raw :
    selfBounded.typeVarDef? (.ofNat 0) =
        some ⟨"N", .cls (.ofNat 1),
          some (.parameterized (.ofNat 1) [.typeVar (.ofNat 0)])⟩ ∧
      selfBounded.env.isAssignable (.cls (.ofNat 1)) (.typeVar (.ofNat 0)) =
        true ∧
      selfBounded.BoundRule (.ofNat 0)
        (.parameterized (.ofNat 1) [.typeVar (.ofNat 0)])
        (.cls (.ofNat 1)) := by
  obtain ⟨exactly, rule, _⟩ :=
    isAssignable_typeVar_iff_sealed selfBounded (.ofNat 0) _ _
      (.cls (.ofNat 1)) typeVarDef?_selfBounded rfl rfl rfl
  have accepted (env : Env) := env.isAssignable_raw_parameterized (.ofNat 1)
    [.typeVar (.ofNat 0)]
  exact ⟨typeVarDef?_selfBounded,
    exactly.mpr (Or.inr (Or.inr (accepted _))),
    rule.mpr fun _ _ _ => accepted _⟩

/-- `Node<? extends Node>` accepts the bound `Node<N>` of `N`, but not `N`. -/
theorem not_boundRule_selfBounded :
    selfBounded.Reachable ∧
      selfBounded.typeVarDef? (.ofNat 0) =
        some ⟨"N", .cls (.ofNat 1),
          some (.parameterized (.ofNat 1) [.typeVar (.ofNat 0)])⟩ ∧
      ¬ selfBounded.BoundRule (.ofNat 0)
        (.parameterized (.ofNat 1) [.typeVar (.ofNat 0)])
        (.parameterized (.ofNat 1) [.upperBounded (.cls (.ofNat 1))]) := by
  refine ⟨(reachable_new .default).run _, typeVarDef?_selfBounded,
    fun rule => ?_⟩
  have boundEq :
      selfBounded.env.bound (.ofNat 0) =
        .parameterized (.ofNat 1) [.typeVar (.ofNat 0)] := by
    decide +kernel
  obtain ⟨boundAccepted, variableRefused⟩ :=
    Env.isAssignable_selfBounded boundEq (by decide +kernel)
  rw [boundEq] at boundAccepted
  have accepted := rule.mpr (Or.inr (Or.inr boundAccepted))
  rw [variableRefused] at accepted
  cases accepted

end Model

end JavaTypes
