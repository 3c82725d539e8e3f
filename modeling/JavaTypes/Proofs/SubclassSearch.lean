import JavaTypes.Model.Operation
import JavaTypes.Proofs.Subclassing
import Mathlib.Logic.Function.Iterate

/-!
# The subclass search ends, and finds declared chains

Classes and their declared supertypes are the edges of a graph, which may have
cycles, diamonds and edges to classes that nothing is known about.  The search
of `Env.searchParents` works on this graph in rounds.  A round takes the first
waiting class away and lets those of its supertypes wait that were not seen
before.  No class waits twice, so every declared supertype is looked at in one
round only.  With finitely many known classes the search is therefore over after
as many rounds as they declare supertypes, and two more.

Its answer is the transitive closure of the edges.
-/

namespace JavaTypes

/-- Where a search for a class stands: it has its answer, or it has seen some
classes, of which some wait. -/
inductive SearchState where
  | done (answer : Bool)
  | running (seen waiting : List ClassId)
  deriving DecidableEq

namespace Env

/-! ## Rounds of the search -/

/-- One round of the search for `goal`. -/
def round (env : Env) (goal : ClassId) : SearchState → SearchState
  | .done answer => .done answer
  | .running _ [] => .done false
  | .running seen (current :: rest) =>
      match meet goal seen rest (env.parents current) with
      | none => .done true
      | some (seen', waiting') => .running seen' waiting'

/-- The answer that a search comes to from where it stands. -/
def outcome (env : Env) (goal : ClassId) : SearchState → Bool
  | .done answer => answer
  | .running seen waiting => env.searchParents goal seen waiting

theorem outcome_round (env : Env) (goal : ClassId) (state : SearchState) :
    env.outcome goal (env.round goal state) = env.outcome goal state := by
  cases state with
  | done answer => rfl
  | running seen waiting =>
      cases waiting with
      | nil => simp [round, outcome, searchParents]
      | cons current rest =>
          rw [outcome, searchParents, round]
          cases meet goal seen rest (env.parents current) with
          | none => rfl
          | some met => rfl

/-! ## A bound for the rounds -/

/-- The number of supertypes that the classes of a list declare, without the
classes that were seen. -/
def edgesLeft (env : Env) (seen : List ClassId) : List ClassId → Nat
  | [] => 0
  | id :: known =>
      (if id ∈ seen then 0 else (env.parents id).length) +
        env.edgesLeft seen known

private theorem edgesLeft_cons_le (env : Env) (current : ClassId)
    (seen known : List ClassId) :
    env.edgesLeft (current :: seen) known ≤ env.edgesLeft seen known := by
  induction known with
  | nil => exact Nat.le_refl 0
  | cons id known inductionHypothesis =>
      simp only [edgesLeft, List.mem_cons]
      by_cases met : id ∈ seen
      · simpa [met] using inductionHypothesis
      · by_cases same : id = current
        · simp only [same, true_or, if_true]
          omega
        · simpa [met, same] using inductionHypothesis

/-- Seeing a known class uses up its supertypes. -/
private theorem edgesLeft_cons_of_mem
    {env : Env} {current : ClassId} {seen known : List ClassId}
    (fresh : current ∉ seen) (member : current ∈ known) :
    env.edgesLeft (current :: seen) known + (env.parents current).length ≤
      env.edgesLeft seen known := by
  induction known with
  | nil => cases member
  | cons id known inductionHypothesis =>
      simp only [edgesLeft, List.mem_cons]
      by_cases same : id = current
      · subst same
        have rest := edgesLeft_cons_le env id seen known
        simp only [true_or, if_true, fresh, if_false]
        omega
      · have later : current ∈ known := by
          rcases List.mem_cons.mp member with here | later
          · exact absurd here.symm same
          · exact later
        have rest := inductionHypothesis later
        simp only [same, false_or]
        omega

/-- The classes of a list are all that the environment defines. -/
def Covers (env : Env) (known : List ClassId) : Prop :=
  ∀ id definition, env.classDef? id = some definition → id ∈ known

/-- The number of supertypes that the waiting classes declare. -/
def edgesWaiting (env : Env) (waiting : List ClassId) : Nat :=
  (waiting.flatMap env.parents).length

/-- An upper bound for the rounds that a search still takes. -/
def roundsLeft (env : Env) (known : List ClassId) : SearchState → Nat
  | .done _ => 0
  | .running seen waiting =>
      waiting.length + env.edgesWaiting waiting + env.edgesLeft seen known + 1

private theorem Covers.edgesLeft_cons
    {env : Env} {known : List ClassId} (covers : env.Covers known)
    {current : ClassId} {seen : List ClassId} (fresh : current ∉ seen) :
    env.edgesLeft (current :: seen) known + (env.parents current).length ≤
      env.edgesLeft seen known := by
  by_cases member : current ∈ known
  · exact edgesLeft_cons_of_mem fresh member
  · -- A class that is not defined declares nothing.
    have undefined : env.classDef? current = none := by
      rw [Option.eq_none_iff_forall_ne_some]
      intro definition declared
      exact member (covers current definition declared)
    have noParents : env.parents current = [] := by
      simp [parents, undefined]
    have fewer := edgesLeft_cons_le env current seen known
    simpa [noParents] using fewer

/-- A class that comes to wait costs one round; its supertypes are counted with
the waiting classes from now on. -/
private theorem Covers.roundsLeft_meet
    {env : Env} {known : List ClassId} (covers : env.Covers known)
    {goal : ClassId} {seen waiting ids seen' waiting' : List ClassId}
    (met : meet goal seen waiting ids = some (seen', waiting')) :
    env.roundsLeft known (.running seen' waiting') ≤
      env.roundsLeft known (.running seen waiting) + ids.length := by
  fun_induction meet goal seen waiting ids with
  | case1 seen waiting =>
      cases met
      exact Nat.le_refl _
  | case2 => cases met
  | case3 seen waiting id rest _ _ inductionHypothesis =>
      have later := inductionHypothesis met
      rw [List.length_cons]
      omega
  | case4 seen waiting id rest _ fresh inductionHypothesis =>
      have spent := covers.edgesLeft_cons fresh
      have later := inductionHypothesis met
      simp only [roundsLeft, edgesWaiting, List.flatMap_append,
        List.flatMap_singleton, List.length_append, List.length_cons,
        List.length_nil] at later ⊢
      omega

theorem Covers.roundsLeft_round
    {env : Env} {known : List ClassId} (covers : env.Covers known)
    (goal : ClassId) (state : SearchState) :
    env.roundsLeft known (env.round goal state) ≤
      env.roundsLeft known state - 1 := by
  cases state with
  | done answer => simp [round, roundsLeft]
  | running seen waiting =>
      cases waiting with
      | nil => simp [round, roundsLeft]
      | cons current rest =>
          rw [round]
          cases met : meet goal seen rest (env.parents current) with
          | none => simp [roundsLeft]
          | some next =>
              have added := covers.roundsLeft_meet met
              simp only [roundsLeft, edgesWaiting, List.flatMap_cons,
                List.length_append, List.length_cons] at added ⊢
              omega

private theorem eq_done_of_roundsLeft
    {env : Env} {known : List ClassId} {state : SearchState}
    (finished : env.roundsLeft known state = 0) (goal : ClassId) :
    state = .done (env.outcome goal state) := by
  cases state with
  | done answer => rfl
  | running seen waiting => simp [roundsLeft] at finished

/-- A search that may take no more than the given rounds has its answer after
them. -/
theorem Covers.iterate_round
    {env : Env} {known : List ClassId} (covers : env.Covers known)
    (goal : ClassId) {limit : Nat} {state : SearchState}
    (enough : env.roundsLeft known state ≤ limit) :
    (env.round goal)^[limit] state = .done (env.outcome goal state) := by
  induction limit generalizing state with
  | zero =>
      have finished : env.roundsLeft known state = 0 := Nat.le_zero.mp enough
      exact eq_done_of_roundsLeft finished goal
  | succ limit inductionHypothesis =>
      have shrinks := covers.roundsLeft_round goal state
      have next := @inductionHypothesis (env.round goal state) (by omega)
      rw [Function.iterate_succ_apply, next, outcome_round]

/-! ## Subclassing -/

/-- In an environment with finitely many defined classes the search for a class
ends, after at most two rounds more than there are declared supertypes.  A class
is a subclass of itself, of the root, and of the classes that a non-empty chain
of declared supertypes leads to. -/
theorem subclass_search_finds_chains (env : Env) (known : List ClassId)
    (covers : env.Covers known) (sub sup : ClassId) :
    (env.round sup)^[env.edgesLeft [] known + 2] (.running [sub] [sub]) =
        .done (env.searchParents sup [sub] [sub]) ∧
      (env.isSubclass sub sup = true ↔
        sub = sup ∨ sup = env.root ∨
          Relation.TransGen env.Declares sub sup) := by
  constructor
  · have spent := covers.edgesLeft_cons (List.not_mem_nil (a := sub))
    have enough : env.roundsLeft known (.running [sub] [sub]) ≤
        env.edgesLeft [] known + 2 := by
      simp only [roundsLeft, edgesWaiting, List.length_singleton,
        List.flatMap_singleton]
      omega
    exact covers.iterate_round sup enough
  · exact isSubclass_eq_true_iff env sub sup

end Env

namespace Model

theorem covers_classIds (model : Model) : model.env.Covers model.classIds := by
  intro id definition declared
  have inside : id.toNat < model.classes.size :=
    (Array.getElem?_eq_some_iff.mp declared).1
  have listed : ClassId.ofNat id.toNat ∈ model.classIds :=
    List.mem_map.mpr ⟨id.toNat, List.mem_range.mpr inside, rfl⟩
  rwa [ClassId.ofNat_toNat] at listed

/-- Two ways lead from `A` to `D`, and `D` names `A` again, itself, and a class
that does not exist. -/
def knot : Model :=
  (Model.new .default).model.run
    [.internClass "A", .internClass "B", .internClass "C", .internClass "D",
      .addClass ⟨"A", .cls, [], some (.cls (.ofNat 2)), [.cls (.ofNat 3)]⟩,
      .addClass ⟨"B", .cls, [], none, [.parameterized (.ofNat 4) [.unbounded]]⟩,
      .addClass ⟨"C", .cls, [], none, [.cls (.ofNat 4)]⟩,
      .addClass ⟨"D", .cls, [], some (.cls (.ofNat 1)),
        [.cls (.ofNat 4), .cls (.ofNat 9)]⟩]

theorem subclass_search_in_knot :
    knot.env.Covers knot.classIds ∧
      knot.env.isSubclass (.ofNat 1) (.ofNat 9) = true ∧
        ¬ Relation.TransGen knot.env.Declares (.ofNat 1) (.ofNat 7) := by
  have covers := covers_classIds knot
  have found :
      (knot.env.round (.ofNat 9))^[knot.env.edgesLeft [] knot.classIds + 2]
          (.running [.ofNat 1] [.ofNat 1]) = .done true := by
    decide +kernel
  have missed :
      (knot.env.round (.ofNat 7))^[knot.env.edgesLeft [] knot.classIds + 2]
          (.running [.ofNat 1] [.ofNat 1]) = .done false := by
    decide +kernel
  obtain ⟨ends, _⟩ :=
    Env.subclass_search_finds_chains knot.env _ covers (.ofNat 1) (.ofNat 9)
  obtain ⟨ends', exactly'⟩ :=
    Env.subclass_search_finds_chains knot.env _ covers (.ofNat 1) (.ofNat 7)
  rw [found, SearchState.done.injEq] at ends
  rw [missed, SearchState.done.injEq] at ends'
  refine ⟨covers, ?_, ?_⟩
  · simp [Env.isSubclass, ← ends]
  · intro chain
    have subclass := exactly'.mpr (Or.inr (Or.inr chain))
    simp only [Env.isSubclass, ← ends', Bool.or_false] at subclass
    revert subclass
    decide +kernel

end Model

end JavaTypes
