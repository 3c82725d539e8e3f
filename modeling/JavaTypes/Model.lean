import JavaTypes.Config
import JavaTypes.Erasure
import JavaTypes.NameTable
import JavaTypes.NodeTable
import JavaTypes.Rendering

/-!
# Models

A model owns the declarations of classes and type variables, a table of class
names, and the parameterized nodes built so far.  An operation on a model gives
the model afterwards, the events it reported, and its answer.  The model
afterwards is given for failures too, because a failing operation may have
changed it.
-/

namespace JavaTypes

/-- Why an operation on a model fails. -/
inductive ModelError where
  /-- A class was applied to the wrong number of arguments. -/
  | arityMismatch (name : String) (expected found : Nat)
  /-- Something other than a class was applied to arguments. -/
  | notGeneric (type : String)
  /-- No class has this id. -/
  | unknownClass (id : ClassId)
  /-- No type variable has this id. -/
  | unknownTypeVar (id : TypeVarId)
  /-- The name belongs to another class. -/
  | duplicateClass (name : String) (existing : ClassId)
  /-- A class that was applied to arguments cannot change their number. -/
  | arityChange (name : String) (narrowed declared : Nat)
  /-- A supertype must be a class, raw or parameterized. -/
  | invalidSupertype (type name : String)
  deriving DecidableEq, Repr

/-- The wording of a model error. -/
def ModelError.message : ModelError → String
  | .arityMismatch name expected found =>
      "`" ++ name ++ "` declares " ++ toString expected ++
        " type parameter(s) but " ++ toString found ++
        " argument(s) were supplied"
  | .notGeneric type =>
      "only classes and parameterized classes can be narrowed, got `" ++
        type ++ "`"
  | .unknownClass id => "unknown class " ++ id.label
  | .unknownTypeVar id => "unknown type parameter " ++ id.label
  | .duplicateClass name existing =>
      "`" ++ name ++ "` is already defined as " ++ existing.label
  | .arityChange name narrowed declared =>
      "`" ++ name ++ "` was narrowed with " ++ toString narrowed ++
        " argument(s) and cannot be redeclared with " ++ toString declared ++
        " type parameter(s)"
  | .invalidSupertype type name =>
      "`" ++ type ++ "` cannot be a supertype of `" ++ name ++ "`"

/-- The declarations known so far, and the parameterized nodes built so far. -/
structure Model where
  config : Config
  /-- The definitions of the classes, by id. -/
  classes : Array ClassDef
  /-- The classes by name. -/
  names : NameTable
  /-- The definitions of the type variables, by id. -/
  typeVars : Array TypeVarDef
  root : ClassId
  /-- The parameterized nodes built so far. -/
  interned : NodeTable

/-- What an operation leaves behind: the model afterwards, the events it
reported, and its answer. -/
structure Traced (α : Type) where
  model : Model
  events : List Event
  answer : α

/-- What an operation that may fail leaves behind. -/
abbrev Outcome (α : Type) : Type :=
  Traced (Except ModelError α)

/-- Go on with the answer of an operation. -/
def Traced.andThen {α β : Type} (first : Traced α)
    (next : Model → α → Traced β) : Traced β :=
  let second := next first.model first.answer
  ⟨second.model, first.events ++ second.events, second.answer⟩

/-- Change the answer of an operation. -/
def Traced.map {α β : Type} (first : Traced α) (change : α → β) : Traced β :=
  ⟨first.model, first.events, change first.answer⟩

namespace Outcome

/-- An operation that fails without doing anything. -/
def fail {α : Type} (model : Model) (error : ModelError) : Outcome α :=
  ⟨model, [], .error error⟩

end Outcome

namespace Model

/-! ## Lookups -/

/-- The definition of a class. -/
def classDef? (model : Model) (id : ClassId) : Option ClassDef :=
  model.classes[id.toNat]?

/-- The definition of a type variable. -/
def typeVarDef? (model : Model) (var : TypeVarId) : Option TypeVarDef :=
  model.typeVars[var.toNat]?

/-- The class with a name. -/
def classId? (model : Model) (name : String) : Option ClassId :=
  model.names.find? name

/-- The name of a class. -/
def className? (model : Model) (id : ClassId) : Option String :=
  (model.classDef? id).map ClassDef.name

/-- The ids of the classes, in order. -/
def classIds (model : Model) : List ClassId :=
  (List.range model.classes.size).map ClassId.ofNat

/-- The environment that a model is. -/
def env (model : Model) : Env where
  root := model.root
  classDef? := model.classDef?
  typeVarDef? := model.typeVarDef?
  uncheckedRaw := model.config.uncheckedRawConversion

/-- The root class as a type. -/
def rootTy (model : Model) : Ty :=
  .cls model.root

/-- The text of a type. -/
def render (model : Model) (style : NameStyle) (type : Ty) : String :=
  model.env.render style type

/-- The erasure of a type. -/
def erasure (model : Model) (type : Ty) : Ty :=
  model.env.erasure type

/-! ## Classes -/

/-- The class with a name, reserved without a definition if there is none. -/
def internClass (model : Model) (name : String) : Model × ClassId :=
  match model.names.find? name with
  | some id => (model, id)
  | none =>
      let id := ClassId.ofNat model.classes.size
      ({ model with
          classes := model.classes.push (.bare name .cls)
          names := model.names.insert name id }, id)

/-- The first declared supertype that is not a class is refused. -/
def checkSupertypes (model : Model) (definition : ClassDef) :
    Except ModelError Unit :=
  match definition.supertypes.find? fun type => type.classId?.isNone with
  | some type =>
      .error (.invalidSupertype (model.render .qualified type) definition.name)
  | none => .ok ()

/-- The number of arguments that a class was applied to, if it was. -/
def narrowedArity? (model : Model) (id : ClassId) : Option Nat :=
  model.interned.arity? id

/-- The name table after a class takes a name: its old name is given up. -/
def renamed (model : Model) (id : ClassId) (name : String) : NameTable :=
  match model.className? id with
  | none => model.names
  | some old =>
      if old = name then model.names
      else if model.names.find? old = some id then
        (model.names.erase old).insert name id
      else model.names.insert name id

/-- Put a definition behind an id, its supertypes checked and its name free or
its own already.  Only the number of type parameters is checked here: it is
fixed once the class was applied to arguments. -/
def install (model : Model) (id : ClassId) (definition : ClassDef) :
    Outcome Unit :=
  let installed : Outcome Unit :=
    { model := { model with
        names := model.renamed id definition.name
        classes := model.classes.setIfInBounds id.toNat definition }
      events := [.classDefined definition.name definition.arity]
      answer := .ok () }
  match model.narrowedArity? id with
  | none => installed
  | some narrowed =>
      if narrowed = definition.arity then installed
      else
        Outcome.fail model
          (.arityChange definition.name narrowed definition.arity)

/-- Replace the definition behind an id. -/
def defineClass (model : Model) (id : ClassId) (definition : ClassDef) :
    Outcome Unit :=
  if (model.classDef? id).isNone then Outcome.fail model (.unknownClass id)
  else
    match model.checkSupertypes definition with
    | .error error => Outcome.fail model error
    | .ok () =>
        match model.names.find? definition.name with
        | none => model.install id definition
        | some existing =>
            if existing = id then model.install id definition
            else Outcome.fail model (.duplicateClass definition.name existing)

/-- Define a class by name; a class of that name is redefined and keeps its
id. -/
def addClass (model : Model) (definition : ClassDef) : Outcome ClassId :=
  match model.checkSupertypes definition with
  | .error error => Outcome.fail model error
  | .ok () =>
      let (reserved, id) := model.internClass definition.name
      (reserved.install id definition).map fun answer => answer.map fun _ => id

/-! ## Type variables -/

/-- Allocate a type variable. -/
def addTypeVar (model : Model) (definition : TypeVarDef) : Traced TypeVarId :=
  let id := TypeVarId.ofNat model.typeVars.size
  { model := { model with typeVars := model.typeVars.push definition }
    events := [.typeVarAllocated definition.name id]
    answer := id }

/-- Replace the definition of a type variable, for instance by one whose bound
mentions the variable. -/
def defineTypeVar (model : Model) (id : TypeVarId) (definition : TypeVarDef) :
    Outcome Unit :=
  if (model.typeVarDef? id).isNone then Outcome.fail model (.unknownTypeVar id)
  else
    { model := { model with
        typeVars := model.typeVars.setIfInBounds id.toNat definition }
      events := []
      answer := .ok () }

/-- Allocate one type variable without a bound per name, for a class. -/
def addTypeParams (model : Model) (owner : ClassId) :
    List String → Traced (List TypeVarId)
  | [] => ⟨model, [], []⟩
  | name :: names =>
      (model.addTypeVar ⟨name, .cls owner, none⟩).andThen fun model id =>
        (model.addTypeParams owner names).map fun ids => id :: ids

/-- Declare a generic class in one step, with type parameters of the given
names. -/
def addGeneric (model : Model) (name : String) (kind : ClassKind)
    (params : List String) (superClass : Option Ty) (interfaces : List Ty) :
    Outcome ClassId :=
  let (reserved, id) := model.internClass name
  (reserved.addTypeParams id params).andThen fun model typeParams =>
    (model.defineClass id
        ⟨name, kind, typeParams, superClass, interfaces⟩).map
      fun answer => answer.map fun _ => id

/-! ## Narrowing -/

/-- The parameterized type of a node, which is kept if it is new. -/
def internNode (model : Model) (node : ParameterizedTy) : Traced Ty :=
  if model.interned.contains node then
    ⟨model, [.nodeFound node.erasure], node.toTy⟩
  else
    { model := { model with interned := model.interned.insert node }
      events := [.nodeInterned node.erasure (model.interned.count + 1)]
      answer := node.toTy }

/-- Apply a class to arguments.  A class without type parameters applied to no
arguments is itself. -/
def narrowClass (model : Model) (id : ClassId) (args : List Ty) : Outcome Ty :=
  match model.classDef? id with
  | none => Outcome.fail model (.unknownClass id)
  | some definition =>
      if args.length ≠ definition.arity then
        Outcome.fail model
          (.arityMismatch definition.name definition.arity args.length)
      else if definition.arity = 0 then ⟨model, [], .ok (.cls id)⟩
      else (model.internNode ⟨id, args⟩).map .ok

/-- Apply the class of a raw or parameterized type to arguments; arguments it
has already are replaced. -/
def narrow (model : Model) (type : Ty) (args : List Ty) : Outcome Ty :=
  match type.classId? with
  | none => Outcome.fail model (.notGeneric (model.render .qualified type))
  | some id => model.narrowClass id args

end Model

end JavaTypes
