import JavaTypes.Declaration
import JavaTypes.Json

/-!
# Types and declarations as JSON

A type is an object with one key, the name of its kind.  Decoding checks the
shape only: ids need not be allocated, and wildcards may stand anywhere.
-/

namespace JavaTypes

/-! ## Ids and words -/

/-- A class id is an integer. -/
def ClassId.toJson (id : ClassId) : Json :=
  .int id.toNat

/-- A class id from an integer of 32 bits. -/
def ClassId.ofJson? (json : Json) : Option ClassId :=
  (json.natBelow? UInt32.size).map ClassId.ofNat

/-- A type-variable id is an integer. -/
def TypeVarId.toJson (id : TypeVarId) : Json :=
  .int id.toNat

/-- A type-variable id from an integer of 32 bits. -/
def TypeVarId.ofJson? (json : Json) : Option TypeVarId :=
  (json.natBelow? UInt32.size).map TypeVarId.ofNat

/-- A primitive type is its keyword. -/
def Primitive.toJson (kind : Primitive) : Json :=
  .str kind.keyword

/-- A primitive type from its keyword. -/
def Primitive.ofJson? (json : Json) : Option Primitive :=
  json.word?.bind Primitive.ofKeyword?

/-! ## Types -/

mutual

/-- A type as an object with one key. -/
def Ty.toJson : Ty → Json
  | .primitive kind => .obj [("Primitive", kind.toJson)]
  | .cls id => .obj [("Class", id.toJson)]
  | .array element => .obj [("Array", element.toJson)]
  | .typeVar id => .obj [("TypeVar", id.toJson)]
  | .parameterized erasure args =>
      .obj [("Parameterized",
        .obj [("erasure", erasure.toJson), ("args", .list (Ty.listToJson args))])]
  | .unbounded => .obj [("Wildcard", .str "Unbounded")]
  | .upperBounded bound => .obj [("Wildcard", .obj [("Extends", bound.toJson)])]
  | .lowerBounded bound => .obj [("Wildcard", .obj [("Super", bound.toJson)])]

/-- The types of a list. -/
def Ty.listToJson : List Ty → List Json
  | [] => []
  | head :: tail => head.toJson :: Ty.listToJson tail

end

theorem Ty.listToJson_eq_map (types : List Ty) :
    Ty.listToJson types = types.map Ty.toJson := by
  induction types with
  | nil => rfl
  | cons head tail induction => simp [listToJson, induction]

/-- A parameterized node as a record. -/
def ParameterizedTy.toJson (node : ParameterizedTy) : Json :=
  .obj [("erasure", node.erasure.toJson), ("args", .list (node.args.map Ty.toJson))]

/-- The bound of a wildcard. -/
def WildcardBound.toJson : WildcardBound → Json
  | .unbounded => .str "Unbounded"
  | .upper bound => .obj [("Extends", bound.toJson)]
  | .lower bound => .obj [("Super", bound.toJson)]

set_option linter.unusedVariables false in
mutual

/-- A type from an object with one key. -/
def Ty.ofJson? (json : Json) : Option Ty :=
  match json with
  | .obj [("Primitive", content)] => (Primitive.ofJson? content).map .primitive
  | .obj [("Class", content)] => (ClassId.ofJson? content).map .cls
  | .obj [("Array", content)] => (Ty.ofJson? content).map .array
  | .obj [("TypeVar", content)] => (TypeVarId.ofJson? content).map .typeVar
  | .obj [("Parameterized", content)] =>
      (ParameterizedTy.ofJson? content).map ParameterizedTy.toTy
  | .obj [("Wildcard", content)] =>
      (WildcardBound.ofJson? content).map WildcardBound.toTy
  | _ => none
  termination_by sizeOf json

/-- A parameterized node from a record. -/
def ParameterizedTy.ofJson? (json : Json) : Option ParameterizedTy :=
  match json with
  | .obj fields =>
      match args : fields.lookup "args" with
      | some (.list items) =>
          ((fields.lookup "erasure").bind ClassId.ofJson?).bind fun erasure =>
            (Ty.listOfJson? items).map fun args => ⟨erasure, args⟩
      | _ => none
  | .list [erasure, .list items] =>
      (ClassId.ofJson? erasure).bind fun erasure =>
        (Ty.listOfJson? items).map fun args => ⟨erasure, args⟩
  | _ => none
  termination_by sizeOf json
  decreasing_by
    · have smaller := Json.sizeOf_lt_of_lookup args
      simp only [Json.list.sizeOf_spec] at smaller
      simp only [Json.obj.sizeOf_spec]
      omega
    · simp only [Json.list.sizeOf_spec, List.cons.sizeOf_spec]
      omega

/-- The bound of a wildcard. -/
def WildcardBound.ofJson? (json : Json) : Option WildcardBound :=
  match json with
  | .str "Unbounded" => some .unbounded
  | .obj [("Unbounded", .null)] => some .unbounded
  | .obj [("Extends", content)] => (Ty.ofJson? content).map .upper
  | .obj [("Super", content)] => (Ty.ofJson? content).map .lower
  | _ => none
  termination_by sizeOf json

/-- The types of a list, all of which must decode. -/
def Ty.listOfJson? (items : List Json) : Option (List Ty) :=
  match items with
  | [] => some []
  | head :: tail =>
      (Ty.ofJson? head).bind fun type =>
        (Ty.listOfJson? tail).map fun types => type :: types
  termination_by sizeOf items

end

/-! ## Declarations -/

/-- The kind of a class is a word. -/
def ClassKind.toJson : ClassKind → Json
  | .cls => .str "Class"
  | .interface => .str "Interface"

/-- The kind of a class from a word. -/
def ClassKind.ofJson? (json : Json) : Option ClassKind :=
  match json.word? with
  | some "Class" => some .cls
  | some "Interface" => some .interface
  | _ => none

/-- A class definition as a record. -/
def ClassDef.toJson (definition : ClassDef) : Json :=
  .obj [
    ("name", .str definition.name),
    ("kind", definition.kind.toJson),
    ("type_params", .list (definition.typeParams.map TypeVarId.toJson)),
    ("super_class", Json.ofOption Ty.toJson definition.superClass),
    ("interfaces", .list (definition.interfaces.map Ty.toJson))]

/-- A class definition from a record; the superclass may be left out. -/
def ClassDef.ofJson? (json : Json) : Option ClassDef :=
  match json.record?
    ["name", "kind", "type_params", "super_class", "interfaces"] with
  | some [name, kind, typeParams, superClass, interfaces] => do
      let name ← Json.required? Json.string? name
      let kind ← Json.required? ClassKind.ofJson? kind
      let typeParams ← Json.required? (Json.list? TypeVarId.ofJson?) typeParams
      let superClass ← Json.optional? Ty.ofJson? superClass
      let interfaces ← Json.required? (Json.list? Ty.ofJson?) interfaces
      return ⟨name, kind, typeParams, superClass, interfaces⟩
  | _ => none

/-- The owner of a type variable. -/
def TypeVarOwner.toJson : TypeVarOwner → Json
  | .cls id => .obj [("Class", id.toJson)]
  | .method owner name =>
      .obj [("Method", .obj [("class", owner.toJson), ("name", .str name)])]

/-- The owner of a type variable from an object with one key. -/
def TypeVarOwner.ofJson? : Json → Option TypeVarOwner
  | .obj [("Class", content)] => (ClassId.ofJson? content).map .cls
  | .obj [("Method", .obj fields)] => do
      let owner ← Json.required? ClassId.ofJson? (fields.lookup "class")
      let name ← Json.required? Json.string? (fields.lookup "name")
      return .method owner name
  | _ => none

/-- A type-variable definition as a record. -/
def TypeVarDef.toJson (definition : TypeVarDef) : Json :=
  .obj [
    ("name", .str definition.name),
    ("owner", definition.owner.toJson),
    ("upper_bound", Json.ofOption Ty.toJson definition.upperBound)]

/-- A type-variable definition from a record; the bound may be left out. -/
def TypeVarDef.ofJson? (json : Json) : Option TypeVarDef :=
  match json.record? ["name", "owner", "upper_bound"] with
  | some [name, owner, upperBound] => do
      let name ← Json.required? Json.string? name
      let owner ← Json.required? TypeVarOwner.ofJson? owner
      let upperBound ← Json.optional? Ty.ofJson? upperBound
      return ⟨name, owner, upperBound⟩
  | _ => none

end JavaTypes
