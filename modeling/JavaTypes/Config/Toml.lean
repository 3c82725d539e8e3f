import JavaTypes.Decimal.Shortest
import JavaTypes.Json.Settings
import JavaTypes.Text.Quoted
import JavaTypes.Toml.Document

/-!
# Configurations as TOML

A configuration is a document with at most three keys.  Keys are taken in the
order of the document and the first fault is reported; the name of the root
class is checked when everything else is in order.
-/

namespace JavaTypes

/-- Why an entry of a document is no setting. -/
inductive SettingError where
  /-- No setting has this name. -/
  | unknownField (name : String)
  /-- The setting needs another kind of item. -/
  | invalidType (found : Toml.Item) (expected : String)
  /-- The word is no choice of classes. -/
  | unknownWord (word : String)
  /-- A choice of classes is a word, or a table with the word as its key. -/
  | notWordOrTable
  /-- The table that should hold a word is empty. -/
  | noWord
  /-- The table that should hold a word holds several. -/
  | severalWords
  /-- The array of tables behind a word is not empty. -/
  | tablesNotEmpty
  /-- The table, or the array of values, behind a word is not empty. -/
  | valueNotEmpty
  /-- What stands behind a word is neither a table nor an array. -/
  | notTable (kind : String)

/-- Why a text is no configuration. -/
inductive ConfigError where
  /-- The text is not a TOML document. -/
  | notDocument
  /-- An entry is no setting. -/
  | setting (error : SettingError)
  /-- The root class cannot have this name. -/
  | rootClass (name : String)

namespace Toml.Item

/-- What an item is, with its value where it has one. -/
def description : Item → String
  | .string text => "string " ++ Text.quoted text
  | .integer value => "integer `" ++ toString value ++ "`"
  | .float value => "floating point `" ++ value.text ++ "`"
  | .boolean value => "boolean `" ++ (if value then "true" else "false") ++ "`"
  | .datetime => "map"
  | .array _ => "sequence"
  | .table _ _ => "map"
  | .tables _ => "sequence"

/-- The kind of an item. -/
def kind : Item → String
  | .string _ => "string"
  | .integer _ => "integer"
  | .float _ => "float"
  | .boolean _ => "boolean"
  | .datetime => "datetime"
  | .array _ => "array"
  | .table _ _ => "table"
  | .tables _ => "array of tables"

end Toml.Item

/-- The wording of a setting error. -/
def SettingError.message : SettingError → String
  | .unknownField name =>
      "unknown field `" ++ name ++ "`, expected one of `root_class`, " ++
        "`unchecked_raw_conversion`, `bootstrap`"
  | .invalidType found expected =>
      "invalid type: " ++ found.description ++ ", expected " ++ expected
  | .unknownWord word =>
      "unknown variant `" ++ word ++ "`, expected `none` or `java-lang`"
  | .notWordOrTable => "wanted string or table"
  | .noWord => "wanted exactly 1 element, found 0 elements"
  | .severalWords => "wanted exactly 1 element, more than 1 element"
  | .tablesNotEmpty => "expected empty array"
  | .valueNotEmpty => "expected empty table"
  | .notTable kind => "expected table, found " ++ kind

/-- The wording of a configuration error; there is none for a text that is not
a document. -/
def ConfigError.message? : ConfigError → Option String
  | .notDocument => none
  | .setting error => some ("failed to parse toml config: " ++ error.message)
  | .rootClass name => some ("invalid root class name `" ++ name ++ "`")

/-- The choice of classes that a word names. -/
def Bootstrap.ofTomlWord (word : String) : Except SettingError Bootstrap :=
  match Bootstrap.ofWord? word with
  | some bootstrap => .ok bootstrap
  | none => .error (.unknownWord word)

/-- Nothing may stand behind a word in a table.  An empty table is asked for
wherever the document writes a value, be it an array, and an empty array where
it writes headers of an array of tables. -/
def checkNothing : Toml.Item → Except SettingError Unit
  | .array items => if items.isEmpty then .ok () else .error .valueNotEmpty
  | .tables items => if items.isEmpty then .ok () else .error .tablesNotEmpty
  | .table _ entries =>
      if entries.isEmpty then .ok () else .error .valueNotEmpty
  | item => .error (.notTable item.kind)

/-- A choice of classes: a word, or a table with the word as its only key. -/
def Bootstrap.ofToml : Toml.Item → Except SettingError Bootstrap
  | .string word => ofTomlWord word
  | .table _ [] => .error .noWord
  | .table _ [(word, item)] => do
      let bootstrap ← ofTomlWord word
      checkNothing item
      return bootstrap
  | .table _ _ => .error .severalWords
  | _ => .error .notWordOrTable

namespace Config

/-- Take a setting from an entry of a document. -/
def withEntry (config : Config) (name : String) (item : Toml.Item) :
    Except SettingError Config :=
  match name with
  | "root_class" =>
      match item with
      | .string text => .ok { config with rootClass := text }
      | item => .error (.invalidType item "a string")
  | "unchecked_raw_conversion" =>
      match item with
      | .boolean value => .ok { config with uncheckedRawConversion := value }
      | item => .error (.invalidType item "a boolean")
  | "bootstrap" =>
      (Bootstrap.ofToml item).map fun bootstrap =>
        { config with bootstrap := bootstrap }
  | name => .error (.unknownField name)

/-- The configuration of the entries of a document. -/
def ofEntries (entries : Toml.Entries) : Except SettingError Config :=
  entries.foldlM (fun config entry => config.withEntry entry.1 entry.2) default

/-- The configuration of a TOML text, with the events of reading it. -/
def ofToml (text : String) : Except ConfigError Config × List Event :=
  match Toml.document? text with
  | none => (.error .notDocument, [])
  | some entries =>
      match ofEntries entries with
      | .error error => (.error (.setting error), [])
      | .ok config =>
          match config.validate with
          | (.ok (), events) => (.ok config, events)
          | (.error name, events) => (.error (.rootClass name), events)

end Config

end JavaTypes
