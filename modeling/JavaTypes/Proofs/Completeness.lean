import JavaTypes.Proofs.Derivations

/-!
# When the check is complete

A derivation may expand one variable several times on a path, and the check does
not.  The two come to the same where no path can meet a variable twice: no bound
leads back to its variable, and target and source lead to no common variable.

Both conditions are needed because a lower bound turns the question around, so
that a variable of the target can be expanded below one of the source.  What the
check keeps on the way is that no variable under expansion can be reached from
either of the two types it compares.
-/

namespace JavaTypes

namespace Env

/-- No variable is reached from its own bound. -/
def Acyclic (env : Env) : Prop :=
  ∀ var bound, env.HasBound var bound → ¬ env.Leads bound var

/-- The two types lead to no common variable. -/
def Apart (env : Env) (first second : Ty) : Prop :=
  ∀ var, env.Leads first var → ¬ env.Leads second var

/-- What holds of the variables of a type and passes from a variable to those of
its bound holds of every variable that the type leads to. -/
private theorem Leads.of_closed
    {env : Env} {holds : TypeVarId → Prop}
    (closed : ∀ var, holds var → ∀ other ∈ (env.bound var).vars, holds other)
    {type : Ty} {var : TypeVarId} (leads : env.Leads type var)
    (start : ∀ other ∈ type.vars, holds other) : holds var := by
  induction leads with
  | occurs member => exact start _ member
  | @through type bound middle var member bounded _ inductionHypothesis =>
      obtain rfl := hasBound_iff.mp bounded
      exact inductionHypothesis (closed middle (start middle member))

theorem apart_of_vars_eq_nil
    {env : Env} {first second : Ty}
    (closed : first.vars = [] ∨ second.vars = []) :
    env.Apart first second := by
  have nowhere {type : Ty} (noVars : type.vars = []) (var : TypeVarId) :
      ¬ env.Leads type var := by
    intro leads
    have member : var ∈ type.vars :=
      leads.of_closed (by simp [noVars]) (fun _ occurs => occurs)
    rw [noVars] at member
    cases member
  intro var firstLeads secondLeads
  rcases closed with noVars | noVars
  · exact nowhere noVars var firstLeads
  · exact nowhere noVars var secondLeads

/-- Two lists without a common variable, each closed under bounds, keep types
apart. -/
theorem apart_of_disjoint
    {env : Env} {first second : Ty} (reached reached' : List TypeVarId)
    (disjoint : ∀ var ∈ reached, var ∉ reached')
    (closed : ∀ var ∈ reached, (env.bound var).vars ⊆ reached)
    (closed' : ∀ var ∈ reached', (env.bound var).vars ⊆ reached')
    (start : first.vars ⊆ reached) (start' : second.vars ⊆ reached') :
    env.Apart first second := by
  intro var firstLeads secondLeads
  have inFirst : var ∈ reached :=
    firstLeads.of_closed (fun met member _ occurs => closed met member occurs)
      (fun _ occurs => start occurs)
  have inSecond : var ∈ reached' :=
    secondLeads.of_closed (fun met member _ occurs => closed' met member occurs)
      (fun _ occurs => start' occurs)
  exact disjoint var inFirst inSecond

/-- Bounds that mention only variables of lower rank are acyclic. -/
theorem acyclic_of_rank
    {env : Env} (rank : TypeVarId → Nat)
    (lower : ∀ var, ∀ other ∈ (env.bound var).vars, rank other < rank var) :
    env.Acyclic := by
  intro var bound bounded leads
  obtain rfl := hasBound_iff.mp bounded
  have below : rank var < rank var :=
    leads.of_closed
      (fun met less other occurs => Nat.lt_trans (lower met other occurs) less)
      (lower var)
  exact Nat.lt_irrefl _ below

/-! ## What the check keeps -/

/-- No variable of the guard is reached from either type, and no variable is
reached from both. -/
structure Unmet (env : Env) (guard : List TypeVarId) (target source : Ty) :
    Prop where
  apart : env.Apart target source
  target : ∀ var ∈ guard, ¬ env.Leads target var
  source : ∀ var ∈ guard, ¬ env.Leads source var

theorem Unmet.symm
    {env : Env} {guard : List TypeVarId} {target source : Ty}
    (unmet : env.Unmet guard target source) :
    env.Unmet guard source target where
  apart := fun var sourceLeads targetLeads =>
    unmet.apart var targetLeads sourceLeads
  target := unmet.source
  source := unmet.target

theorem Unmet.of_subset
    {env : Env} {guard : List TypeVarId} {target source target' source' : Ty}
    (unmet : env.Unmet guard target source)
    (targetSubset : target'.vars ⊆ target.vars)
    (sourceSubset : source'.vars ⊆ source.vars) :
    env.Unmet guard target' source' where
  apart := fun var targetLeads sourceLeads =>
    unmet.apart var (targetLeads.of_subset targetSubset)
      (sourceLeads.of_subset sourceSubset)
  target := fun var guarded leads =>
    unmet.target var guarded (leads.of_subset targetSubset)
  source := fun var guarded leads =>
    unmet.source var guarded (leads.of_subset sourceSubset)

theorem Unmet.contents
    {env : Env} {guard : List TypeVarId} {erasure erasure' : ClassId}
    {args args' : List Ty}
    (unmet : env.Unmet guard (.parameterized erasure args)
      (.parameterized erasure' args'))
    {first second : Ty} (firstMember : first ∈ args)
    (secondMember : second ∈ args') :
    env.Unmet guard (env.argument first).content
      (env.argument second).content := by
  have firstVars :
      (env.argument first).content.vars ⊆ Ty.varsList args := fun _ occurs =>
    Ty.vars_subset_varsList firstMember
      (env.vars_content_argument_subset first occurs)
  have secondVars :
      (env.argument second).content.vars ⊆ Ty.varsList args' := fun _ occurs =>
    Ty.vars_subset_varsList secondMember
      (env.vars_content_argument_subset second occurs)
  exact unmet.of_subset firstVars secondVars

/-- A variable that is expanded was not met before, and cannot be met again. -/
theorem Unmet.expand
    {env : Env} (acyclic : env.Acyclic) {guard : List TypeVarId}
    {target : Ty} {var : TypeVarId}
    (unmet : env.Unmet guard target (.typeVar var)) :
    var ∉ guard ∧ env.Unmet (var :: guard) target (env.bound var) := by
  have here : env.Leads (.typeVar var) var := .occurs (by simp [Ty.vars])
  have beyond {other : TypeVarId} (leads : env.Leads (env.bound var) other) :
      env.Leads (.typeVar var) other :=
    .through (by simp [Ty.vars]) (env.hasBound_bound var) leads
  refine ⟨fun guarded => unmet.source var guarded here, ?_, ?_, ?_⟩
  · intro other targetLeads boundLeads
    exact unmet.apart other targetLeads (beyond boundLeads)
  · intro other member targetLeads
    rcases List.mem_cons.mp member with rfl | guarded
    · exact unmet.apart other targetLeads here
    · exact unmet.target other guarded targetLeads
  · intro other member boundLeads
    rcases List.mem_cons.mp member with rfl | guarded
    · exact acyclic other _ (env.hasBound_bound other) boundLeads
    · exact unmet.source other guarded (beyond boundLeads)

/-! ## Derivations are followed -/

theorem accepts_of_derives
    {env : Env} (acyclic : env.Acyclic) {position : Position}
    {target source : Ty} (derivation : env.Derives position target source)
    {guard : List TypeVarId} (unmet : env.Unmet guard target source) :
    env.accepts guard position target source = true := by
  induction derivation generalizing guard with
  | same position type => exact accepts_self env guard position type
  | @root position source reference =>
      exact accepts_root env guard position reference
  | @bound position target bound var notPrimitive notWildcard bounded _
      inductionHypothesis =>
      obtain rfl := hasBound_iff.mp bounded
      -- The check asks for equality and for the root before it expands.
      by_cases same : target = .typeVar var
      · rw [same]
        exact accepts_self env guard position (.typeVar var)
      by_cases atRoot : target = env.rootTy
      · rw [atRoot]
        exact accepts_root env guard position rfl
      have reference : target.isReference = true :=
        Ty.isReference_iff.mpr ⟨notPrimitive, notWildcard⟩
      obtain ⟨fresh, unmetBound⟩ := unmet.expand acyclic
      rw [accepts_typeVar same reference atRoot, if_neg fresh]
      exact inductionHypothesis unmetBound
  | @array position element element' _ inductionHypothesis =>
      have unmetElements : env.Unmet guard element element' :=
        unmet.of_subset (List.Subset.refl _) (List.Subset.refl _)
      rw [accepts_array_array]
      exact inductionHypothesis unmetElements
  | cls sourceClass above =>
      have subclass := (isSubclass_eq_true_iff env _ _).mpr above
      exact accepts_of_via (.cls sourceClass subclass)
  | raw unchecked =>
      exact accepts_of_via (.raw (by simp [convertsRaw, unchecked]))
  | @args position erasure args args' inner _ contained inductionHypothesis =>
      have accepted :
          env.ContainsArgs
            (fun first second => env.accepts guard .nested first second = true)
            args args' := by
        refine contained.mono fun first firstMember second secondMember => ?_
        have unmetContents := unmet.contents firstMember secondMember
        exact ⟨fun derived => inductionHypothesis _ _ derived unmetContents,
          fun derived => inductionHypothesis _ _ derived unmetContents.symm⟩
      exact accepts_of_via (.args accepted)

/-- Where no bound leads back to its variable, the check accepts what the rules
derive, and nothing else, for all types that lead to no common variable; so it
does in particular when one of the two types has no variables. -/
theorem isAssignable_iff_derives (env : Env) (acyclic : env.Acyclic)
    (target source : Ty) :
    (env.Apart target source →
      (env.isAssignable target source = true ↔
        env.Derives .topLevel target source)) ∧
    (target.vars = [] ∨ source.vars = [] →
      (env.isAssignable target source = true ↔
        env.Derives .topLevel target source)) := by
  have exactly (apart : env.Apart target source) :
      env.isAssignable target source = true ↔
        env.Derives .topLevel target source := by
    have unmet : env.Unmet [] target source := ⟨apart, by simp, by simp⟩
    constructor
    · exact derives_of_accepts [] target source
    · intro derivation
      exact accepts_of_derives acyclic derivation unmet
  exact ⟨exactly, fun closed => exactly (apart_of_vars_eq_nil closed)⟩

end Env

namespace Model

/-- Bounds that mention only variables declared before are acyclic, which can be
checked along the table of variables. -/
theorem acyclic_of_forall
    {model : Model}
    (earlier : ∀ entry ∈ model.typeVars.toList.zipIdx,
      ∀ bound ∈ entry.1.upperBound,
        ∀ other ∈ bound.vars, other.toNat < entry.2) :
    model.env.Acyclic := by
  refine Env.acyclic_of_rank TypeVarId.toNat fun var other occurs => ?_
  unfold Env.bound at occurs
  cases declared : model.env.declaredBound? var with
  | none =>
      rw [declared] at occurs
      cases occurs
  | some bound =>
      rw [declared] at occurs
      obtain ⟨definition, known, bounded⟩ :=
        Env.declaredBound?_eq_some_iff.mp declared
      have member :
          (definition, var.toNat) ∈ model.typeVars.toList.zipIdx := by
        rw [List.mk_mem_zipIdx_iff_getElem?, Array.getElem?_toList]
        exact known
      exact earlier _ member bound bounded other occurs

/-- The classes `Node<T>` and `Pair<A, B>`, and the variables
`U extends Node<T>`, `V extends U` and `W extends Node<?>`. -/
def boundChain : Model :=
  (Model.new .default).model.run
    [.addGeneric "com.example.Node" .cls ["T"] none [],
      .addTypeVar ⟨"U", .cls (.ofNat 1),
        some (.parameterized (.ofNat 1) [.typeVar (.ofNat 0)])⟩,
      .addTypeVar ⟨"V", .cls (.ofNat 1), some (.typeVar (.ofNat 1))⟩,
      .addTypeVar ⟨"W", .cls (.ofNat 1),
        some (.parameterized (.ofNat 1) [.unbounded])⟩,
      .addGeneric "com.example.Pair" .cls ["A", "B"] none []]

/-- That `Pair<? super V, ? extends Node>` accepts `Pair<Node<?>, W>` can be
derived, with variables expanded on both sides, and is found by the check. -/
theorem isAssignable_iff_derives_boundChain :
    let target : Ty :=
      .parameterized (.ofNat 2)
        [.lowerBounded (.typeVar (.ofNat 2)), .upperBounded (.cls (.ofNat 1))]
    let source : Ty :=
      .parameterized (.ofNat 2)
        [.parameterized (.ofNat 1) [.unbounded], .typeVar (.ofNat 3)]
    boundChain.env.Acyclic ∧ boundChain.env.Apart target source ∧
      boundChain.env.Derives .topLevel target source ∧
        boundChain.env.isAssignable target source = true := by
  intro target source
  have acyclic : boundChain.env.Acyclic :=
    acyclic_of_forall (by decide +kernel)
  obtain ⟨boundU, boundV, boundW⟩ :
      boundChain.env.HasBound (.ofNat 1)
          (.parameterized (.ofNat 1) [.typeVar (.ofNat 0)]) ∧
        boundChain.env.HasBound (.ofNat 2) (.typeVar (.ofNat 1)) ∧
          boundChain.env.HasBound (.ofNat 3)
            (.parameterized (.ofNat 1) [.unbounded]) := by
    simp only [Env.hasBound_iff]
    decide +kernel
  have apart : boundChain.env.Apart target source := by
    apply Env.apart_of_disjoint [.ofNat 0, .ofNat 1, .ofNat 2] [.ofNat 3]
    all_goals decide +kernel
  have derivation : boundChain.env.Derives .topLevel target source := by
    have nodeOfT :
        boundChain.env.Derives .nested (.parameterized (.ofNat 1) [.unbounded])
          (.parameterized (.ofNat 1) [.typeVar (.ofNat 0)]) :=
      Env.derives_parameterized_iff.mpr
        ⟨rfl, .cons (.upperExact (Or.inr ⟨rfl, rfl⟩) rfl (.root rfl)) .nil⟩
    have nodeOfV :
        boundChain.env.Derives .nested (.parameterized (.ofNat 1) [.unbounded])
          (.typeVar (.ofNat 2)) :=
      .bound rfl rfl boundV (.bound rfl rfl boundU nodeOfT)
    have rawOfW :
        boundChain.env.Derives .nested (.cls (.ofNat 1))
          (.typeVar (.ofNat 3)) :=
      .bound rfl rfl boundW (.cls rfl (Or.inl rfl))
    exact Env.derives_parameterized_iff.mpr
      ⟨rfl, .cons (.lowerExact rfl nodeOfV)
        (.cons (.upperExact (Or.inl rfl) rfl rawOfW) .nil)⟩
  obtain ⟨exactly, _⟩ :=
    Env.isAssignable_iff_derives boundChain.env acyclic target source
  exact ⟨acyclic, apart, derivation, (exactly apart).mpr derivation⟩

end Model

end JavaTypes
