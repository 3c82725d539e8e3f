import JavaTypes.AnnotationUse
import JavaTypes.Event
import JavaTypes.Modifiers

/-!
# Declared variables

A declared variable is a local variable, a parameter or a field.  Its name is
an identifier and its type is neither `void` nor a wildcard; every edit checks
what it changes.
-/

namespace JavaTypes

/-- The id of an expression, which is all that is known of an initializer. -/
structure ExprId where
  index : UInt32
  deriving DecidableEq, Repr

/-- How an expression id is shown. -/
def ExprId.label (id : ExprId) : String :=
  "ExprId(" ++ toString id.index.toNat ++ ")"

/-- A variable as it is declared. -/
structure Variable where
  modifiers : Modifiers
  type : Ty
  name : String
  initializer : Option ExprId
  /-- The annotations in the order they were added; absent until the first. -/
  annotations : Option (List AnnotationUse)
  deriving DecidableEq

/-- What an edit leaves behind: the variable afterwards, the events reported,
and the answer. -/
structure Edited (α : Type) where
  after : Variable
  events : List Event
  answer : Except DeclarationError α

namespace Variable

/-- The type of a variable must be there, and be neither `void` nor a
wildcard. -/
def checkType : Option Ty → Except DeclarationError Ty
  | none => .error .missingType
  | some type =>
      if type = .primitive .void then .error .voidVariable
      else if type.isWildcard then .error .wildcardVariable
      else .ok type

/-- Declare a variable.  The type is checked before the name. -/
def declare (modifiers : Modifiers) (type : Option Ty) (name : String)
    (initializer : Option ExprId) : Except DeclarationError Variable :=
  match checkType type with
  | .error error => .error error
  | .ok type =>
      match checkName name with
      | .error error => .error error
      | .ok () => .ok ⟨modifiers, type, name, initializer, none⟩

/-- Change the name. -/
def rename (declared : Variable) (name : String) : Edited Unit :=
  match checkName name with
  | .error error => ⟨declared, [], .error error⟩
  | .ok () =>
      ⟨{ declared with name := name }, [.variableRenamed declared.name name],
        .ok ()⟩

/-- Change the type and answer the one before. -/
def retype (declared : Variable) (type : Option Ty) : Edited Ty :=
  match checkType type with
  | .error error => ⟨declared, [], .error error⟩
  | .ok type =>
      ⟨{ declared with type := type }, [.variableRetyped declared.name],
        .ok declared.type⟩

/-- Change or drop the initializer. -/
def setInitializer (declared : Variable) (initializer : Option ExprId) :
    Variable :=
  { declared with initializer := initializer }

/-- The annotations, in the order they were added. -/
def annotationList (declared : Variable) : List AnnotationUse :=
  declared.annotations.getD []

/-- Whether an annotation was ever added. -/
def isAnnotated (declared : Variable) : Bool :=
  declared.annotations.isSome

/-- Add an annotation without members. -/
def annotate (declared : Variable) (type : Ty) : Variable :=
  { declared with
    annotations := some (declared.annotationList ++ [.ofTy type]) }

/-- Give a member of the annotation at a position its value; a position without
an annotation changes nothing. -/
def setAnnotationMember (declared : Variable) (position : Nat) (name : String)
    (value : AnnotationValue) : Edited Unit :=
  match declared.annotationList[position]? with
  | none => ⟨declared, [], .ok ()⟩
  | some usage =>
      let (changed, answer) := usage.set name value
      ⟨{ declared with
          annotations := some (declared.annotationList.set position changed) },
        [], answer⟩

/-- The declaration without its initializer: annotations, modifiers, type and
name. -/
def renderSignature (env : Env) (style : NameStyle) (declared : Variable) :
    String :=
  String.intercalate " "
    (declared.annotationList.map (AnnotationUse.render env style) ++
      declared.modifiers.keywords ++
      [env.render style declared.type, declared.name])

end Variable

end JavaTypes
