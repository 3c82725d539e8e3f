/-!
# Ids of classes and type variables

A model hands out ids in the order in which things are registered.  An id is a
32-bit word, so there are finitely many, and an id need not be allocated.
-/

namespace JavaTypes

/-- The id of a class: its position in the class table of a model. -/
structure ClassId where
  index : UInt32
  deriving DecidableEq, Repr, Inhabited

/-- The id of a type variable: its position in the type-variable table of a
model. -/
structure TypeVarId where
  index : UInt32
  deriving DecidableEq, Repr, Inhabited

namespace ClassId

/-- The table position an id stands for. -/
def toNat (id : ClassId) : Nat :=
  id.index.toNat

/-- The id of a table position; positions from `2 ^ 32` on wrap around. -/
def ofNat (position : Nat) : ClassId :=
  ⟨UInt32.ofNat position⟩

/-- How an id is shown in messages and events. -/
def label (id : ClassId) : String :=
  "ClassId(" ++ toString id.toNat ++ ")"

theorem ofNat_toNat (id : ClassId) : ofNat id.toNat = id := by
  simp [ofNat, toNat]

theorem toNat_ofNat {position : Nat} (small : position < UInt32.size) :
    (ofNat position).toNat = position := by
  simp only [ofNat, toNat]
  exact UInt32.toNat_ofNat_of_lt small

theorem toNat_lt (id : ClassId) : id.toNat < UInt32.size :=
  id.index.toNat_lt_size

theorem toNat_inj {first second : ClassId} :
    first.toNat = second.toNat ↔ first = second := by
  constructor
  · intro same
    rw [← ofNat_toNat first, same, ofNat_toNat]
  · rintro rfl
    rfl

end ClassId

namespace TypeVarId

/-- The table position an id stands for. -/
def toNat (id : TypeVarId) : Nat :=
  id.index.toNat

/-- The id of a table position; positions from `2 ^ 32` on wrap around. -/
def ofNat (position : Nat) : TypeVarId :=
  ⟨UInt32.ofNat position⟩

/-- How an id is shown in messages and events. -/
def label (id : TypeVarId) : String :=
  "TypeVarId(" ++ toString id.toNat ++ ")"

theorem ofNat_toNat (id : TypeVarId) : ofNat id.toNat = id := by
  simp [ofNat, toNat]

theorem toNat_ofNat {position : Nat} (small : position < UInt32.size) :
    (ofNat position).toNat = position := by
  simp only [ofNat, toNat]
  exact UInt32.toNat_ofNat_of_lt small

theorem toNat_lt (id : TypeVarId) : id.toNat < UInt32.size :=
  id.index.toNat_lt_size

theorem toNat_inj {first second : TypeVarId} :
    first.toNat = second.toNat ↔ first = second := by
  constructor
  · intro same
    rw [← ofNat_toNat first, same, ofNat_toNat]
  · rintro rfl
    rfl

end TypeVarId

end JavaTypes
