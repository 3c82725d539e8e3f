import JavaTypes.Event
import JavaTypes.Text.WhiteSpace

/-!
# Configuration of a model

A configuration names the root class, says whether unchecked raw conversion is
allowed, and chooses the classes that a fresh model holds.
-/

namespace JavaTypes

/-- The classes of a fresh model. -/
inductive Bootstrap where
  /-- The root class alone. -/
  | rootOnly
  /-- The root class and a small skeleton of the standard library. -/
  | javaLang
  deriving DecidableEq, Repr

/-- The settings of a model. -/
structure Config where
  /-- The fully qualified name of the root class. -/
  rootClass : String := "java.lang.Object"
  /-- Whether a parameterized type accepts its raw class at the top level. -/
  uncheckedRawConversion : Bool := true
  bootstrap : Bootstrap := .rootOnly
  deriving DecidableEq, Repr

namespace Config

/-- The configuration that names nothing. -/
def default : Config := {}

/-- The default configuration with the standard skeleton. -/
def javaLang : Config :=
  { default with bootstrap := .javaLang }

/-- The parts of a text between its dots; always at least one. -/
def segments : List Char → List (List Char)
  | [] => [[]]
  | c :: rest =>
      if c = '.' then [] :: segments rest
      else
        match segments rest with
        | [] => [[c]]
        | first :: others => (c :: first) :: others

/-- A name that a root class can have: every part between its dots is
non-empty and free of white space. -/
def isRootName (name : String) : Bool :=
  (segments name.toList).all fun segment =>
    !segment.isEmpty && !segment.any Text.isWhiteSpace

/-- Check the name of the root class; a refusal is reported. -/
def validate (config : Config) : Except String Unit × List Event :=
  if isRootName config.rootClass then (.ok (), [])
  else (.error config.rootClass, [.rootClassRejected config.rootClass])

end Config

end JavaTypes
