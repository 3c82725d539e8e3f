import JavaTypes.Id

/-!
# Ids not used yet

A walk along declarations that never visits an id twice ends, because it uses
up ids.  `ClassId.unused` and `TypeVarId.unused` count the ids that are left.
-/

namespace JavaTypes

/-- The number of positions below `limit` that do not occur in `used`. -/
def unusedBelow (limit : Nat) (used : List Nat) : Nat :=
  ((List.range limit).filter fun position => decide (position ∉ used)).length

theorem unusedBelow_succ (limit : Nat) (used : List Nat) :
    unusedBelow (limit + 1) used =
      unusedBelow limit used + if limit ∈ used then 0 else 1 := by
  by_cases member : limit ∈ used <;>
    simp [unusedBelow, List.range_succ, List.filter_append, member]

theorem unusedBelow_cons_le (limit position : Nat) (used : List Nat) :
    unusedBelow limit (position :: used) ≤ unusedBelow limit used := by
  induction limit with
  | zero => simp [unusedBelow]
  | succ limit induction =>
      rw [unusedBelow_succ, unusedBelow_succ]
      by_cases member : limit ∈ used
      · simp only [List.mem_cons, member, or_true, if_true]
        omega
      · simp only [List.mem_cons, member, or_false, if_false]
        split <;> omega

theorem unusedBelow_cons_lt {limit position : Nat} {used : List Nat}
    (small : position < limit) (fresh : position ∉ used) :
    unusedBelow limit (position :: used) < unusedBelow limit used := by
  induction limit with
  | zero => omega
  | succ limit induction =>
      rw [unusedBelow_succ, unusedBelow_succ]
      by_cases same : limit = position
      · subst same
        have shrinks := unusedBelow_cons_le limit limit used
        simp [fresh]
        omega
      · have shrinks := induction (by omega)
        by_cases member : limit ∈ used <;> simp [member, same] <;> omega

/-- The number of class ids outside a list. -/
@[irreducible]
def ClassId.unused (used : List ClassId) : Nat :=
  unusedBelow UInt32.size (used.map ClassId.toNat)

/-- The number of type-variable ids outside a list. -/
@[irreducible]
def TypeVarId.unused (used : List TypeVarId) : Nat :=
  unusedBelow UInt32.size (used.map TypeVarId.toNat)

theorem ClassId.unused_cons_lt {id : ClassId} {used : List ClassId}
    (fresh : id ∉ used) : unused (id :: used) < unused used := by
  unfold unused
  rw [List.map_cons]
  apply unusedBelow_cons_lt id.toNat_lt
  simpa [List.mem_map, ClassId.toNat_inj] using fresh

theorem TypeVarId.unused_cons_lt {id : TypeVarId} {used : List TypeVarId}
    (fresh : id ∉ used) : unused (id :: used) < unused used := by
  unfold unused
  rw [List.map_cons]
  apply unusedBelow_cons_lt id.toNat_lt
  simpa [List.mem_map, TypeVarId.toNat_inj] using fresh

end JavaTypes
