import JavaTypes.Env
import JavaTypes.Unused

/-!
# Subclassing

A class is a subclass of itself, of the root, and of every class that a chain
of declared supertypes leads to.  Declarations may be cyclic, so the search
keeps the classes it has seen.
-/

namespace JavaTypes

namespace Env

/-- Look at classes one by one, on a search for `goal`.  The search is over when
the goal is met.  A class that was not seen before is seen now, and waits behind
the others. -/
def meet (goal : ClassId) (seen waiting : List ClassId) :
    List ClassId → Option (List ClassId × List ClassId)
  | [] => some (seen, waiting)
  | id :: rest =>
      if id = goal then none
      else if id ∈ seen then meet goal seen waiting rest
      else meet goal (id :: seen) (waiting ++ [id]) rest

/-- A class that comes to wait uses up an id. -/
theorem unused_add_length_of_meet
    {goal : ClassId} {seen waiting ids seen' waiting' : List ClassId}
    (met : meet goal seen waiting ids = some (seen', waiting')) :
    ClassId.unused seen' + waiting'.length ≤
      ClassId.unused seen + waiting.length := by
  fun_induction meet goal seen waiting ids with
  | case1 seen waiting =>
      cases met
      exact Nat.le_refl _
  | case2 => cases met
  | case3 seen waiting id rest _ known inductionHypothesis =>
      exact inductionHypothesis met
  | case4 seen waiting id rest _ fresh inductionHypothesis =>
      have shrinks := ClassId.unused_cons_lt fresh
      have rest := inductionHypothesis met
      rw [List.length_append, List.length_singleton] at rest
      omega

set_option linter.unusedVariables false in
/-- Search for `goal` among the proper supertypes of the waiting classes, in the
order in which they came to wait.  `seen` holds the classes that wait or did so
before. -/
def searchParents (env : Env) (goal : ClassId) (seen waiting : List ClassId) :
    Bool :=
  match waiting with
  | [] => false
  | current :: rest =>
      match met : meet goal seen rest (env.parents current) with
      | none => true
      | some (seen', waiting') => searchParents env goal seen' waiting'
  termination_by ClassId.unused seen + waiting.length
  decreasing_by
    have shrinks := unused_add_length_of_meet met
    simp only [List.length_cons]
    omega

/-- Whether `sub` is a subclass of `sup`. -/
def isSubclass (env : Env) (sub sup : ClassId) : Bool :=
  sub = sup || sup = env.root || env.searchParents sup [sub] [sub]

end Env

end JavaTypes
