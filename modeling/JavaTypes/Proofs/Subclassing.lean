import JavaTypes.Proofs.Declared
import JavaTypes.Subclass

/-!
# The subclass search follows declared chains

The search of `Env.searchParents` lets each class wait once.  It finds its goal
exactly when a non-empty chain of declared supertypes leads there from one of
the waiting classes, whatever cycles the declarations have.  Subclassing is
therefore the union of equality, the root, and `Env.Inherits`, and it depends on
nothing but the root and the declared supertypes.

What a search keeps is that a class which waits no longer has shown neither the
goal nor a class that was not seen.
-/

namespace JavaTypes.Env

/-! ## Meeting the supertypes of one class -/

/-- The classes of `ids` that were not seen before. -/
structure NewAmong (seen ids added : List ClassId) : Prop where
  listed : ∀ id ∈ added, id ∈ ids
  complete : ∀ id ∈ ids, id ∈ seen ∨ id ∈ added

private theorem meet_eq_none_iff
    {goal : ClassId} {seen waiting ids : List ClassId} :
    meet goal seen waiting ids = none ↔ goal ∈ ids := by
  fun_induction meet goal seen waiting ids with
  | case1 => simp
  | case2 => simp
  | case3 seen waiting id rest differs _ inductionHypothesis =>
      simp [inductionHypothesis, Ne.symm differs]
  | case4 seen waiting id rest differs _ inductionHypothesis =>
      simp [inductionHypothesis, Ne.symm differs]

private theorem newAmong_of_meet
    {goal : ClassId} {seen waiting ids seen' waiting' : List ClassId}
    (met : meet goal seen waiting ids = some (seen', waiting')) :
    ∃ added, NewAmong seen ids added ∧ seen' = added.reverse ++ seen ∧
      waiting' = waiting ++ added := by
  fun_induction meet goal seen waiting ids with
  | case1 seen waiting =>
      cases met
      exact ⟨[], ⟨by simp, by simp⟩, by simp, by simp⟩
  | case2 => cases met
  | case3 seen waiting id rest _ known inductionHypothesis =>
      obtain ⟨added, new, seenEq, waitingEq⟩ := inductionHypothesis met
      refine ⟨added, ⟨?_, ?_⟩, seenEq, waitingEq⟩
      · intro other member
        exact List.mem_cons_of_mem id (new.listed other member)
      · intro other member
        rcases List.mem_cons.mp member with rfl | later
        · exact Or.inl known
        · exact new.complete other later
  | case4 seen waiting id rest _ _ inductionHypothesis =>
      obtain ⟨added, new, seenEq, waitingEq⟩ := inductionHypothesis met
      refine ⟨id :: added, ⟨?_, ?_⟩, by simp [seenEq], by simp [waitingEq]⟩
      · intro other member
        rcases List.mem_cons.mp member with rfl | later
        · exact List.mem_cons_self
        · exact List.mem_cons_of_mem id (new.listed other later)
      · intro other member
        rcases List.mem_cons.mp member with rfl | later
        · exact Or.inr List.mem_cons_self
        · rcases new.complete other later with known | isNew
          · rcases List.mem_cons.mp known with rfl | old
            · exact Or.inr List.mem_cons_self
            · exact Or.inl old
          · exact Or.inr (List.mem_cons_of_mem id isNew)

/-! ## What is found lies on a chain -/

private theorem inherits_of_searchParents
    {env : Env} {goal : ClassId} {seen waiting : List ClassId}
    (found : env.searchParents goal seen waiting = true) :
    ∃ start ∈ waiting, env.Inherits start goal := by
  fun_induction searchParents env goal seen waiting with
  | case1 => cases found
  | case2 seen current rest met =>
      have declared := mem_parents_iff.mp (meet_eq_none_iff.mp met)
      exact ⟨current, List.mem_cons_self, .single declared⟩
  | case3 seen current rest seen' waiting' met inductionHypothesis =>
      obtain ⟨added, new, _, rfl⟩ := newAmong_of_meet met
      obtain ⟨start, member, chain⟩ := inductionHypothesis found
      rcases List.mem_append.mp member with inRest | isNew
      · exact ⟨start, List.mem_cons_of_mem current inRest, chain⟩
      · have declared := mem_parents_iff.mp (new.listed start isNew)
        exact ⟨current, List.mem_cons_self, .head declared chain⟩

/-! ## A search that fails has looked at every chain -/

/-- The classes that wait no longer have shown neither the goal nor a class that
was not seen. -/
def Expanded (env : Env) (goal : ClassId) (seen waiting : List ClassId) :
    Prop :=
  ∀ id ∈ seen, id ∈ waiting ∨
    goal ∉ env.parents id ∧ ∀ parent ∈ env.parents id, parent ∈ seen

private theorem Expanded.meet
    {env : Env} {goal current : ClassId}
    {seen rest seen' waiting' : List ClassId}
    (expanded : env.Expanded goal seen (current :: rest))
    (met : Env.meet goal seen rest (env.parents current) =
      some (seen', waiting')) :
    env.Expanded goal seen' waiting' := by
  have missed : goal ∉ env.parents current := by
    intro declared
    rw [meet_eq_none_iff.mpr declared] at met
    cases met
  obtain ⟨added, new, rfl, rfl⟩ := newAmong_of_meet met
  have known {id : ClassId} (member : id ∈ seen ∨ id ∈ added) :
      id ∈ added.reverse ++ seen := by
    rw [List.mem_append, List.mem_reverse]
    exact member.symm
  intro id member
  rw [List.mem_append, List.mem_reverse] at member
  rcases member with isNew | old
  · exact Or.inl (List.mem_append_right rest isNew)
  · rcases expanded id old with waits | ⟨noGoal, parentsSeen⟩
    · rcases List.mem_cons.mp waits with rfl | inRest
      · exact Or.inr ⟨missed, fun parent declared =>
          known (new.complete parent declared)⟩
      · exact Or.inl (List.mem_append_left added inRest)
    · exact Or.inr ⟨noGoal, fun parent declared =>
        known (Or.inl (parentsSeen parent declared))⟩

/-- When nothing waits any more, no chain from a class that was seen reaches the
goal. -/
private theorem Expanded.not_inherits
    {env : Env} {goal start : ClassId} {seen : List ClassId}
    (expanded : env.Expanded goal seen []) (member : start ∈ seen) :
    ¬ env.Inherits start goal := by
  intro chain
  have done {id : ClassId} (known : id ∈ seen) :
      goal ∉ env.parents id ∧ ∀ parent ∈ env.parents id, parent ∈ seen := by
    rcases expanded id known with waits | shown
    · cases waits
    · exact shown
  induction chain using Relation.TransGen.head_induction_on with
  | single declared => exact (done member).1 (mem_parents_iff.mpr declared)
  | head declared _ inductionHypothesis =>
      exact inductionHypothesis
        ((done member).2 _ (mem_parents_iff.mpr declared))

private theorem not_inherits_of_searchParents
    {env : Env} {goal : ClassId} {seen waiting : List ClassId}
    (expanded : env.Expanded goal seen waiting)
    (missed : env.searchParents goal seen waiting = false) :
    ∀ start ∈ seen, ¬ env.Inherits start goal := by
  fun_induction searchParents env goal seen waiting with
  | case1 seen =>
      intro start member
      exact expanded.not_inherits member
  | case2 => cases missed
  | case3 seen current rest seen' waiting' met inductionHypothesis =>
      intro start member
      refine inductionHypothesis (expanded.meet met) missed start ?_
      obtain ⟨added, _, rfl, _⟩ := newAmong_of_meet met
      exact List.mem_append_right _ member

theorem searchParents_eq_true_iff (env : Env) (goal sub : ClassId) :
    env.searchParents goal [sub] [sub] = true ↔ env.Inherits sub goal := by
  constructor
  · intro found
    obtain ⟨start, member, chain⟩ := inherits_of_searchParents found
    rw [List.mem_singleton] at member
    exact member ▸ chain
  · intro chain
    cases outcome : env.searchParents goal [sub] [sub] with
    | true => rfl
    | false =>
        have waits : env.Expanded goal [sub] [sub] := fun _ => Or.inl
        exact absurd chain
          (not_inherits_of_searchParents waits outcome sub List.mem_cons_self)

theorem isSubclass_eq_true_iff (env : Env) (sub sup : ClassId) :
    env.isSubclass sub sup = true ↔
      sub = sup ∨ sup = env.root ∨ env.Inherits sub sup := by
  simp [isSubclass, searchParents_eq_true_iff, or_assoc]

/-! ## What subclassing depends on -/

private theorem Inherits.of_parents_eq
    {env other : Env} {sub sup : ClassId}
    (sameParents : env.parents = other.parents)
    (chain : env.Inherits sub sup) :
    other.Inherits sub sup := by
  refine Relation.TransGen.mono (fun low high declared => ?_) sub sup chain
  rw [← mem_parents_iff, ← sameParents]
  exact mem_parents_iff.mpr declared

/-- Environments with the same root and the same declared supertypes have the
same subclasses. -/
theorem isSubclass_congr
    {env other : Env}
    (sameRoot : env.root = other.root)
    (sameParents : env.parents = other.parents) (sub sup : ClassId) :
    env.isSubclass sub sup = other.isSubclass sub sup := by
  have chains : env.Inherits sub sup ↔ other.Inherits sub sup :=
    ⟨.of_parents_eq sameParents, .of_parents_eq sameParents.symm⟩
  rw [Bool.eq_iff_iff, isSubclass_eq_true_iff, isSubclass_eq_true_iff,
    sameRoot, chains]

/-! ## A root without supertypes -/

theorem not_inherits_root
    {env : Env} (bare : env.parents env.root = []) (id : ClassId) :
    ¬ env.Inherits env.root id := by
  intro chain
  obtain ⟨parent, declared, _⟩ := Relation.TransGen.head'_iff.mp chain
  rw [← mem_parents_iff, bare] at declared
  cases declared

/-- A root without supertypes is a subclass of itself alone. -/
theorem isSubclass_root_iff
    {env : Env} (bare : env.parents env.root = []) (id : ClassId) :
    env.isSubclass env.root id = true ↔ id = env.root := by
  rw [isSubclass_eq_true_iff]
  have noChain := not_inherits_root bare id
  constructor
  · rintro (same | atRoot | chain)
    · exact same.symm
    · exact atRoot
    · exact absurd chain noChain
  · intro atRoot
    exact Or.inr (Or.inl atRoot)

theorem isSubclass_trans
    {env : Env} (bare : env.parents env.root = [])
    {low middle high : ClassId}
    (first : env.isSubclass low middle = true)
    (second : env.isSubclass middle high = true) :
    env.isSubclass low high = true := by
  by_cases middleRoot : middle = env.root
  · subst middleRoot
    have atRoot : high = env.root := (isSubclass_root_iff bare high).mp second
    rwa [atRoot]
  rw [isSubclass_eq_true_iff] at first second ⊢
  rcases first with rfl | atRoot | firstChain
  · exact second
  · exact absurd atRoot middleRoot
  rcases second with rfl | atRoot | secondChain
  · exact Or.inr (Or.inr firstChain)
  · exact Or.inr (Or.inl atRoot)
  · exact Or.inr (Or.inr (firstChain.trans secondChain))

end JavaTypes.Env
