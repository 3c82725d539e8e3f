import JavaTypes.Id
import JavaTypes.Primitive

/-!
# Types

A type is raw data: nothing here keeps a wildcard out of an array or asks that
an id be allocated.  The checked constructors `Ty.arrayOf`, `Ty.extendsOf` and
`Ty.superOf` keep wildcards where they belong, as type arguments.
-/

namespace JavaTypes

/-- A type as a program may write it, with classes and type variables by id. -/
inductive Ty where
  /-- A keyword type. -/
  | primitive (kind : Primitive)
  /-- A class without arguments: a plain class, or a generic class used raw. -/
  | cls (id : ClassId)
  /-- An array. -/
  | array (element : Ty)
  /-- A type variable. -/
  | typeVar (id : TypeVarId)
  /-- A generic class applied to arguments. -/
  | parameterized (erasure : ClassId) (args : List Ty)
  /-- The wildcard `?`. -/
  | unbounded
  /-- The wildcard `? extends bound`. -/
  | upperBounded (bound : Ty)
  /-- The wildcard `? super bound`. -/
  | lowerBounded (bound : Ty)
  deriving Inhabited

namespace Ty

/-! ## Equality -/

mutual

/-- Structural equality of types. -/
def beq : Ty → Ty → Bool
  | .primitive first, .primitive second => first == second
  | .cls first, .cls second => first == second
  | .array first, .array second => beq first second
  | .typeVar first, .typeVar second => first == second
  | .parameterized first args, .parameterized second args' =>
      first == second && beqList args args'
  | .unbounded, .unbounded => true
  | .upperBounded first, .upperBounded second => beq first second
  | .lowerBounded first, .lowerBounded second => beq first second
  | _, _ => false

/-- Structural equality of argument lists. -/
def beqList : List Ty → List Ty → Bool
  | [], [] => true
  | first :: rest, second :: rest' => beq first second && beqList rest rest'
  | _, _ => false

end

mutual

private theorem eq_of_beq_true :
    (first second : Ty) → beq first second = true → first = second
  | .primitive _, second, same => by
      cases second <;> simp_all [beq]
  | .cls _, second, same => by
      cases second <;> simp_all [beq]
  | .array element, second, same => by
      cases second <;> simp [beq] at same
      rw [eq_of_beq_true element _ same]
  | .typeVar _, second, same => by
      cases second <;> simp_all [beq]
  | .parameterized _ args, second, same => by
      cases second <;> simp [beq] at same
      rw [same.1, eq_of_beqList_true args _ same.2]
  | .unbounded, second, same => by
      cases second <;> simp_all [beq]
  | .upperBounded bound, second, same => by
      cases second <;> simp [beq] at same
      rw [eq_of_beq_true bound _ same]
  | .lowerBounded bound, second, same => by
      cases second <;> simp [beq] at same
      rw [eq_of_beq_true bound _ same]

private theorem eq_of_beqList_true :
    (first second : List Ty) → beqList first second = true → first = second
  | [], second, same => by
      cases second <;> simp_all [beqList]
  | head :: tail, second, same => by
      cases second <;> simp [beqList] at same
      rw [eq_of_beq_true head _ same.1, eq_of_beqList_true tail _ same.2]

end

mutual

private theorem beq_self : (type : Ty) → beq type type = true
  | .primitive _ => by simp [beq]
  | .cls _ => by simp [beq]
  | .array element => by simp [beq, beq_self element]
  | .typeVar _ => by simp [beq]
  | .parameterized _ args => by simp [beq, beqList_self args]
  | .unbounded => by simp [beq]
  | .upperBounded bound => by simp [beq, beq_self bound]
  | .lowerBounded bound => by simp [beq, beq_self bound]

private theorem beqList_self : (types : List Ty) → beqList types types = true
  | [] => by simp [beqList]
  | head :: tail => by simp [beqList, beq_self head, beqList_self tail]

end

theorem beq_iff_eq {first second : Ty} :
    beq first second = true ↔ first = second := by
  constructor
  · exact eq_of_beq_true first second
  · rintro rfl
    exact beq_self first

instance : DecidableEq Ty := fun _ _ => decidable_of_iff _ beq_iff_eq

/-! ## Size -/

mutual

/-- The number of nodes of a type. -/
def size : Ty → Nat
  | .array element => size element + 1
  | .parameterized _ args => sizeList args + 1
  | .upperBounded bound => size bound + 1
  | .lowerBounded bound => size bound + 1
  | _ => 1

/-- The number of nodes of all types of a list. -/
def sizeList : List Ty → Nat
  | [] => 0
  | head :: tail => size head + sizeList tail

end

theorem size_pos (type : Ty) : 0 < type.size := by
  cases type <;> simp [size]

theorem size_le_sizeList {type : Ty} {types : List Ty}
    (member : type ∈ types) : type.size ≤ sizeList types := by
  induction types with
  | nil => cases member
  | cons head tail inductionHypothesis =>
      simp only [sizeList]
      rcases List.mem_cons.mp member with rfl | later
      · omega
      · have := inductionHypothesis later
        omega

/-! ## Views -/

/-- The type is a keyword type. -/
def isPrimitive : Ty → Bool
  | .primitive _ => true
  | _ => false

/-- The type is a wildcard of any of the three kinds. -/
def isWildcard : Ty → Bool
  | .unbounded => true
  | .upperBounded _ => true
  | .lowerBounded _ => true
  | _ => false

/-- The type is a generic class applied to arguments. -/
def isParameterized : Ty → Bool
  | .parameterized _ _ => true
  | _ => false

/-- The type has reference values: a class, an array, a type variable or a
parameterized type. -/
def isReference : Ty → Bool
  | .cls _ => true
  | .array _ => true
  | .typeVar _ => true
  | .parameterized _ _ => true
  | _ => false

/-- The class of a raw or parameterized class type. -/
def classId? : Ty → Option ClassId
  | .cls id => some id
  | .parameterized erasure _ => some erasure
  | _ => none

theorem isReference_iff {type : Ty} :
    type.isReference = true ↔
      type.isPrimitive = false ∧ type.isWildcard = false := by
  cases type <;> simp [isReference, isPrimitive, isWildcard]

theorem isReference_of_classId?
    {type : Ty} {id : ClassId} (shape : type.classId? = some id) :
    type.isReference = true := by
  cases type with
  | cls id' => rfl
  | parameterized erasure args => rfl
  | _ => cases shape

/-- The element type of an array type. -/
def element? : Ty → Option Ty
  | .array element => some element
  | _ => none

/-- The arguments of a parameterized type, none for any other type. -/
def args : Ty → List Ty
  | .parameterized _ args => args
  | _ => []

/-- The type without its arguments.  Array elements lose theirs too; type
variables and wildcards stay, because replacing them needs an environment. -/
def dropArgs : Ty → Ty
  | .parameterized erasure _ => .cls erasure
  | .array element => .array (dropArgs element)
  | type => type

end Ty

/-! ## Wildcards and parameterized nodes -/

/-- What a wildcard says about the types it stands for. -/
inductive WildcardBound where
  /-- Nothing, as in `?`. -/
  | unbounded
  /-- They are assignable to the bound, as in `? extends bound`. -/
  | upper (bound : Ty)
  /-- The bound is assignable to them, as in `? super bound`. -/
  | lower (bound : Ty)
  deriving DecidableEq

/-- The wildcard with a given bound. -/
def WildcardBound.toTy : WildcardBound → Ty
  | .unbounded => .unbounded
  | .upper bound => .upperBounded bound
  | .lower bound => .lowerBounded bound

/-- The bound of a wildcard. -/
def Ty.wildcardBound? : Ty → Option WildcardBound
  | .unbounded => some .unbounded
  | .upperBounded bound => some (.upper bound)
  | .lowerBounded bound => some (.lower bound)
  | _ => none

/-- A generic class applied to arguments, as a node of its own. -/
structure ParameterizedTy where
  erasure : ClassId
  args : List Ty
  deriving DecidableEq

/-- The type a node stands for. -/
def ParameterizedTy.toTy (node : ParameterizedTy) : Ty :=
  .parameterized node.erasure node.args

/-! ## Checked constructors -/

/-- Why a type cannot be built from another one. -/
inductive ConstructionError where
  /-- A wildcard cannot bound another wildcard. -/
  | nestedWildcard (inner : WildcardBound)
  /-- A wildcard cannot be an array element. -/
  | wildcardElement
  deriving DecidableEq

/-- A wildcard in messages, its bound left out. -/
def WildcardBound.outline : WildcardBound → String
  | .unbounded => "?"
  | .upper _ => "? extends ..."
  | .lower _ => "? super ..."

/-- The wording of a construction error. -/
def ConstructionError.message : ConstructionError → String
  | .nestedWildcard inner =>
      "wildcards cannot be nested: `" ++ inner.outline ++ "` is already a wildcard"
  | .wildcardElement =>
      "a wildcard is only valid as a type argument, not as an array element type"

namespace Ty

/-- The wildcard `? extends bound`; refused for a wildcard bound. -/
def extendsOf (bound : Ty) : Except ConstructionError Ty :=
  match bound.wildcardBound? with
  | some inner => .error (.nestedWildcard inner)
  | none => .ok (.upperBounded bound)

/-- The wildcard `? super bound`; refused for a wildcard bound. -/
def superOf (bound : Ty) : Except ConstructionError Ty :=
  match bound.wildcardBound? with
  | some inner => .error (.nestedWildcard inner)
  | none => .ok (.lowerBounded bound)

/-- The array of an element type; refused for a wildcard element. -/
def arrayOf (element : Ty) : Except ConstructionError Ty :=
  if element.isWildcard then .error .wildcardElement else .ok (.array element)

end Ty

end JavaTypes
