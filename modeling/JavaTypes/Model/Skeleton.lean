import JavaTypes.Model

/-!
# Fresh models

A fresh model holds its root class, and on request a small skeleton of the
standard library.  The skeleton is a table: the classes in the order in which
their ids are reserved, and their shapes in the order in which they are set.
The configured root class may itself be one of the skeleton's classes.
-/

namespace JavaTypes

/-- A supertype in the skeleton, relative to the class that declares it. -/
inductive SkeletonSupertype where
  /-- The root class, whatever its name. -/
  | root
  /-- A class. -/
  | plain (name : String)
  /-- A generic class applied to the declaring class, as in `Comparable<String>`
  for `String`. -/
  | ofSelf (name : String)
  /-- A generic class applied to the type parameters of the declaring class, as
  in `Iterable<E>` for `Collection<E>`. -/
  | ofParams (name : String)
  deriving DecidableEq, Repr

/-- The shape of a class of the skeleton. -/
structure SkeletonClass where
  name : String
  kind : ClassKind
  params : List String
  superClass : Option SkeletonSupertype
  interfaces : List SkeletonSupertype
  deriving DecidableEq, Repr

/-- The classes of the skeleton, in the order of their ids. -/
def skeletonNames : List String :=
  ["java.io.Serializable", "java.lang.Cloneable", "java.lang.CharSequence",
    "java.lang.Comparable", "java.lang.Iterable", "java.lang.String",
    "java.lang.Number", "java.lang.Integer", "java.lang.Long",
    "java.lang.Boolean", "java.util.Collection", "java.util.List",
    "java.util.ArrayList", "java.util.Map"]

/-- The shapes of the skeleton, in the order in which they are set. -/
def skeletonClasses : List SkeletonClass :=
  [⟨"java.io.Serializable", .interface, [], none, []⟩,
    ⟨"java.lang.Cloneable", .interface, [], none, []⟩,
    ⟨"java.lang.CharSequence", .interface, [], none, []⟩,
    ⟨"java.lang.Comparable", .interface, ["T"], none, []⟩,
    ⟨"java.lang.Iterable", .interface, ["T"], none, []⟩,
    ⟨"java.util.Map", .interface, ["K", "V"], none, []⟩,
    ⟨"java.lang.String", .cls, [], some .root,
      [.plain "java.io.Serializable", .ofSelf "java.lang.Comparable",
        .plain "java.lang.CharSequence"]⟩,
    ⟨"java.lang.Number", .cls, [], some .root,
      [.plain "java.io.Serializable"]⟩,
    ⟨"java.lang.Integer", .cls, [], some (.plain "java.lang.Number"),
      [.ofSelf "java.lang.Comparable"]⟩,
    ⟨"java.lang.Long", .cls, [], some (.plain "java.lang.Number"),
      [.ofSelf "java.lang.Comparable"]⟩,
    ⟨"java.lang.Boolean", .cls, [], some .root,
      [.plain "java.io.Serializable", .ofSelf "java.lang.Comparable"]⟩,
    ⟨"java.util.Collection", .interface, ["E"], none,
      [.ofParams "java.lang.Iterable"]⟩,
    ⟨"java.util.List", .interface, ["E"], none,
      [.ofParams "java.util.Collection"]⟩,
    ⟨"java.util.ArrayList", .cls, ["E"], some .root,
      [.ofParams "java.util.List", .plain "java.lang.Cloneable",
        .plain "java.io.Serializable"]⟩]

namespace Model

/-- Reserve classes for all names of a list. -/
def internClasses (model : Model) (names : List String) : Model :=
  names.foldl (fun model name => (model.internClass name).1) model

/-- The type of a supertype of the skeleton; its arguments are not counted. -/
def skeletonSupertype (model : Model) (owner : ClassId)
    (typeParams : List TypeVarId) : SkeletonSupertype → Traced Ty
  | .root => ⟨model, [], model.rootTy⟩
  | .plain name =>
      let (model, id) := model.internClass name
      ⟨model, [], .cls id⟩
  | .ofSelf name =>
      let (model, id) := model.internClass name
      model.internNode ⟨id, [.cls owner]⟩
  | .ofParams name =>
      let (model, id) := model.internClass name
      model.internNode ⟨id, typeParams.map .typeVar⟩

/-- The types of several supertypes of the skeleton. -/
def skeletonSupertypes (model : Model) (owner : ClassId)
    (typeParams : List TypeVarId) :
    List SkeletonSupertype → Traced (List Ty)
  | [] => ⟨model, [], []⟩
  | first :: rest =>
      (model.skeletonSupertype owner typeParams first).andThen
        fun model type =>
          (model.skeletonSupertypes owner typeParams rest).map
            fun types => type :: types

/-- Give a class of the skeleton its shape; it keeps its name. -/
def setShape (model : Model) (shape : SkeletonClass) : Traced Unit :=
  let (model, id) := model.internClass shape.name
  (model.addTypeParams id shape.params).andThen fun model typeParams =>
    (model.skeletonSupertypes id typeParams shape.superClass.toList).andThen
      fun model superClass =>
        (model.skeletonSupertypes id typeParams shape.interfaces).andThen
          fun model interfaces =>
            { model := { model with
                classes := model.classes.modify id.toNat fun definition =>
                  { definition with
                    kind := shape.kind
                    typeParams := typeParams
                    superClass := superClass.head?
                    interfaces := interfaces } }
              events := []
              answer := () }

/-- Set several shapes, one after the other. -/
def setShapes (model : Model) : List SkeletonClass → Traced Unit
  | [] => ⟨model, [], ()⟩
  | first :: rest =>
      (model.setShape first).andThen fun model _ => model.setShapes rest

/-- The model that holds its root class only. -/
def rootOnly (config : Config) : Model where
  config := config
  classes := #[.bare config.rootClass .cls]
  names := NameTable.empty.insert config.rootClass (.ofNat 0)
  typeVars := #[]
  root := .ofNat 0
  interned := .empty

/-- Add the skeleton to a model. -/
def installSkeleton (model : Model) : Traced Unit :=
  ((model.internClasses skeletonNames).setShapes skeletonClasses).andThen
    fun model _ =>
      { model := model
        events :=
          [.skeletonInstalled model.config.rootClass model.classes.size]
        answer := () }

/-- A fresh model, with the events of its construction. -/
def new (config : Config) : Traced Unit :=
  match config.bootstrap with
  | .rootOnly => ⟨rootOnly config, [], ()⟩
  | .javaLang => (rootOnly config).installSkeleton

end Model

end JavaTypes
