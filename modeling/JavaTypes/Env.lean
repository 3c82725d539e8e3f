import JavaTypes.Declaration

/-!
# Environments

Subclassing, assignability, erasure and rendering read declarations through an
environment, so that they can be asked of a model as well as of a restricted
view of one.
-/

namespace JavaTypes

/-- Read access to the declarations of classes and type variables. -/
structure Env where
  /-- The universal supertype of all reference types. -/
  root : ClassId
  classDef? : ClassId → Option ClassDef
  typeVarDef? : TypeVarId → Option TypeVarDef
  /-- Whether a parameterized type accepts its own raw class at the top level
  of an assignment. -/
  uncheckedRaw : Bool

namespace Env

/-- The root class as a type. -/
def rootTy (env : Env) : Ty :=
  .cls env.root

/-- The declared upper bound of a type variable, if it is known and has one. -/
def declaredBound? (env : Env) (var : TypeVarId) : Option Ty :=
  (env.typeVarDef? var).bind TypeVarDef.upperBound

/-- The bound a type variable is used with: the declared one, else the root. -/
def bound (env : Env) (var : TypeVarId) : Ty :=
  (env.declaredBound? var).getD env.rootTy

/-- The classes that a class names as its supertypes; an unknown class names
none. -/
def parents (env : Env) (id : ClassId) : List ClassId :=
  match env.classDef? id with
  | some definition => definition.parents
  | none => []

end Env

end JavaTypes
