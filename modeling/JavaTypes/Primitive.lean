/-!
# Primitive types

The nine keyword types of Java, `void` among them, with their keywords and the
classes that box them.
-/

namespace JavaTypes

/-- A keyword type. -/
inductive Primitive where
  | boolean
  | byte
  | short
  | char
  | int
  | long
  | float
  | double
  | void
  deriving DecidableEq, Repr

namespace Primitive

/-- All keyword types, in their usual order. -/
def all : List Primitive :=
  [boolean, byte, short, char, int, long, float, double, void]

/-- The keyword of a primitive type. -/
def keyword : Primitive → String
  | boolean => "boolean"
  | byte => "byte"
  | short => "short"
  | char => "char"
  | int => "int"
  | long => "long"
  | float => "float"
  | double => "double"
  | void => "void"

/-- The qualified name of the class that boxes a primitive type. -/
def boxedName : Primitive → String
  | boolean => "java.lang.Boolean"
  | byte => "java.lang.Byte"
  | short => "java.lang.Short"
  | char => "java.lang.Character"
  | int => "java.lang.Integer"
  | long => "java.lang.Long"
  | float => "java.lang.Float"
  | double => "java.lang.Double"
  | void => "java.lang.Void"

/-- The position of a primitive type in `all`. -/
def index (kind : Primitive) : Nat :=
  all.idxOf kind

/-- The primitive type a keyword names, in exact case. -/
def ofKeyword? (word : String) : Option Primitive :=
  all.find? fun kind => kind.keyword == word

theorem ofKeyword?_keyword (kind : Primitive) :
    ofKeyword? kind.keyword = some kind := by
  cases kind <;> rfl

theorem keyword_of_ofKeyword? {word : String} {kind : Primitive}
    (found : ofKeyword? word = some kind) : kind.keyword = word := by
  have same := List.find?_some found
  exact eq_of_beq same

end Primitive

end JavaTypes
