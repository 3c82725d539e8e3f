import JavaTypes.Config
import JavaTypes.Json
import JavaTypes.Modifiers

/-!
# Configurations and modifiers as JSON
-/

namespace JavaTypes

/-- The word of a choice of classes. -/
def Bootstrap.word : Bootstrap → String
  | .rootOnly => "none"
  | .javaLang => "java-lang"

/-- The choice of classes that a word names. -/
def Bootstrap.ofWord? : String → Option Bootstrap
  | "none" => some .rootOnly
  | "java-lang" => some .javaLang
  | _ => none

/-- A choice of classes is a word. -/
def Bootstrap.toJson (bootstrap : Bootstrap) : Json :=
  .str bootstrap.word

/-- A choice of classes from a word. -/
def Bootstrap.ofJson? (json : Json) : Option Bootstrap :=
  json.word?.bind Bootstrap.ofWord?

/-- A configuration as a record. -/
def Config.toJson (config : Config) : Json :=
  .obj [
    ("root_class", .str config.rootClass),
    ("unchecked_raw_conversion", .bool config.uncheckedRawConversion),
    ("bootstrap", config.bootstrap.toJson)]

/-- A configuration from a record of which any member may be left out.  The
name of the root class is not checked. -/
def Config.ofJson? (json : Json) : Option Config :=
  match json.partialRecord?
    ["root_class", "unchecked_raw_conversion", "bootstrap"] with
  | some [rootClass, uncheckedRawConversion, bootstrap] => do
      let rootClass ←
        Json.defaulted? Json.string? Config.default.rootClass rootClass
      let uncheckedRawConversion ←
        Json.defaulted? Json.bool? Config.default.uncheckedRawConversion
          uncheckedRawConversion
      let bootstrap ←
        Json.defaulted? Bootstrap.ofJson? Config.default.bootstrap bootstrap
      return ⟨rootClass, uncheckedRawConversion, bootstrap⟩
  | _ => none

/-- A set of modifiers is an integer. -/
def Modifiers.toJson (set : Modifiers) : Json :=
  .int set.bits.toNat

/-- A set of modifiers from an integer of 16 bits. -/
def Modifiers.ofJson? (json : Json) : Option Modifiers :=
  (json.natBelow? UInt16.size).map fun bits => ⟨UInt16.ofNat bits⟩

/-- The JSON schema of a configuration. -/
def Config.schema : Json :=
  .obj [
    ("$schema", .str "http://json-schema.org/draft-07/schema#"),
    ("additionalProperties", .bool false),
    ("definitions", .obj [
      ("Bootstrap", .obj [
        ("description",
          .str "Which classes a fresh [`crate::TypeModel`] starts with."),
        ("oneOf", .list [
          .obj [
            ("description", .str "Only the root class."),
            ("enum", .list [.str "none"]),
            ("type", .str "string")],
          .obj [
            ("description",
              .str "The root class plus a small `java.lang` / `java.util` skeleton."),
            ("enum", .list [.str "java-lang"]),
            ("type", .str "string")]])])]),
    ("properties", .obj [
      ("bootstrap", .obj [
        ("allOf", .list [.obj [("$ref", .str "#/definitions/Bootstrap")]]),
        ("default", Config.default.bootstrap.toJson)]),
      ("root_class", .obj [
        ("default", .str Config.default.rootClass),
        ("description", .str "Fully-qualified name of the universal supertype."),
        ("type", .str "string")]),
      ("unchecked_raw_conversion", .obj [
        ("default", .bool Config.default.uncheckedRawConversion),
        ("description", .str ("Allow `List<String> x = (List) y` at the top " ++
          "level of an assignment.\n\nRaw types are never accepted for a " ++
          "parameterized type nested inside another type, whatever this is " ++
          "set to.")),
        ("type", .str "boolean")])]),
    ("title", .str "ModelConfig"),
    ("type", .str "object")]

end JavaTypes
