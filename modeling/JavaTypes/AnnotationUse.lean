import JavaTypes.Identifier
import JavaTypes.Rendering
import JavaTypes.Text.StringLiteral

/-!
# Annotations

An annotation use names an annotation type and gives values to its members.
Members keep the order in which they were first set.
-/

namespace JavaTypes

/-- Why a variable or an annotation cannot be declared. -/
inductive DeclarationError where
  /-- A name is not an identifier. -/
  | invalidIdentifier (name : String) (cause : IdentifierError)
  /-- A variable has no type. -/
  | missingType
  /-- A variable cannot have the type `void`. -/
  | voidVariable
  /-- A variable cannot have a wildcard for its type. -/
  | wildcardVariable
  deriving DecidableEq, Repr

/-- The wording of a declaration error. -/
def DeclarationError.message : DeclarationError → String
  | .invalidIdentifier name cause =>
      "`" ++ name ++ "` is not a valid Java identifier: " ++ cause.reason
  | .missingType => "a variable must have a type"
  | .voidVariable => "void cannot be the type of a variable"
  | .wildcardVariable => "a wildcard cannot be the type of a variable"

/-- Check the name of a declaration. -/
def checkName (name : String) : Except DeclarationError Unit :=
  (checkIdentifier name).mapError (.invalidIdentifier name)

/-- The value of an annotation member. -/
inductive AnnotationValue where
  | bool (value : Bool)
  | int (value : Int64)
  | str (value : String)
  /-- A class literal, as in `Foo.class`. -/
  | classLiteral (type : Ty)
  deriving DecidableEq

/-- The text of a member value. -/
def AnnotationValue.render (env : Env) (style : NameStyle) :
    AnnotationValue → String
  | .bool value => if value then "true" else "false"
  | .int value => toString value.toInt
  | .str value => Text.stringLiteral value
  | .classLiteral type => env.render style type ++ ".class"

/-- One use of an annotation. -/
structure AnnotationUse where
  type : Ty
  /-- The members that were given values, in the order of their first values. -/
  members : List (String × AnnotationValue)
  deriving DecidableEq

namespace AnnotationUse

/-- The use of an annotation without members. -/
def ofTy (type : Ty) : AnnotationUse :=
  ⟨type, []⟩

/-- Give a member its value: in place if it has one, at the end otherwise. -/
def setMember (name : String) (value : AnnotationValue) :
    List (String × AnnotationValue) → List (String × AnnotationValue)
  | [] => [(name, value)]
  | (member, old) :: rest =>
      if member = name then (member, value) :: rest
      else (member, old) :: setMember name value rest

/-- Give a member a value; a name that is no identifier changes nothing. -/
def set (usage : AnnotationUse) (name : String) (value : AnnotationValue) :
    AnnotationUse × Except DeclarationError Unit :=
  match checkName name with
  | .error error => (usage, .error error)
  | .ok () =>
      ({ usage with members := setMember name value usage.members },
        .ok ())

/-- The text of a member with its value. -/
def renderMember (env : Env) (style : NameStyle)
    (member : String × AnnotationValue) : String :=
  member.1 ++ " = " ++ member.2.render env style

/-- The text of an annotation use.  A sole member called `value` is written
without its name. -/
def render (env : Env) (style : NameStyle) (usage : AnnotationUse) : String :=
  "@" ++ env.render style usage.type ++
    match usage.members with
    | [] => ""
    | [(name, value)] =>
        if name = "value" then "(" ++ value.render env style ++ ")"
        else "(" ++ renderMember env style (name, value) ++ ")"
    | members =>
        "(" ++ String.intercalate ", " (members.map (renderMember env style)) ++
          ")"

end AnnotationUse

end JavaTypes
