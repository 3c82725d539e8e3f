import JavaTypes.Ty

/-!
# Declarations of classes and type variables
-/

namespace JavaTypes

/-- Whether a declaration is a class or an interface. -/
inductive ClassKind where
  | cls
  | interface
  deriving DecidableEq, Repr

/-- What a model knows about a class. -/
structure ClassDef where
  /-- The fully qualified name. -/
  name : String
  kind : ClassKind
  /-- The type parameters, in the order of the declaration. -/
  typeParams : List TypeVarId
  superClass : Option Ty
  interfaces : List Ty
  deriving DecidableEq

namespace ClassDef

/-- A class of which only name and kind are known. -/
def bare (name : String) (kind : ClassKind) : ClassDef where
  name := name
  kind := kind
  typeParams := []
  superClass := none
  interfaces := []

/-- The number of type parameters a class declares. -/
def arity (definition : ClassDef) : Nat :=
  definition.typeParams.length

/-- A class is generic when it declares a type parameter. -/
def isGeneric (definition : ClassDef) : Bool :=
  !definition.typeParams.isEmpty

/-- The declared supertypes, the superclass first. -/
def supertypes (definition : ClassDef) : List Ty :=
  definition.superClass.toList ++ definition.interfaces

/-- The classes of the declared supertypes, raw or parameterized. -/
def parents (definition : ClassDef) : List ClassId :=
  definition.supertypes.filterMap Ty.classId?

end ClassDef

/-- What a type variable belongs to. -/
inductive TypeVarOwner where
  | cls (id : ClassId)
  | method (owner : ClassId) (name : String)
  deriving DecidableEq

/-- What a model knows about a type variable. -/
structure TypeVarDef where
  name : String
  owner : TypeVarOwner
  /-- The declared upper bound; a variable without one is bounded by the root. -/
  upperBound : Option Ty
  deriving DecidableEq

end JavaTypes
