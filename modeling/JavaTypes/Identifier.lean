import JavaTypes.Text.IdentifierRanges

/-!
# Identifiers

An identifier starts with a letter, `_` or `$`, goes on with letters, digits,
`_` or `$`, and is not a reserved word.  Letters and digits are those of the
Unicode identifier properties.
-/

namespace JavaTypes

/-- Why a text is not an identifier. -/
inductive IdentifierError where
  | empty
  | invalidStart
  | invalidPart
  | reserved
  deriving DecidableEq, Repr

/-- The wording of a reason. -/
def IdentifierError.reason : IdentifierError → String
  | .empty => "name is empty"
  | .invalidStart => "must start with a letter, '_' or '$'"
  | .invalidPart => "must contain only letters, digits, '_' or '$'"
  | .reserved => "is a reserved word"

/-- An identifier may start with the character. -/
def isIdentifierStart (c : Char) : Bool :=
  c == '_' || c == '$' || Text.isXidStart c

/-- An identifier may go on with the character. -/
def isIdentifierPart (c : Char) : Bool :=
  c == '$' || c == '_' || Text.isXidContinue c

/-- The keywords, the literals `true`, `false` and `null`, and the lone
underscore.  Contextual keywords such as `var` are identifiers. -/
def reservedWords : List String :=
  ["_", "abstract", "assert", "boolean", "break", "byte", "case", "catch",
    "char", "class", "const", "continue", "default", "do", "double", "else",
    "enum", "extends", "false", "final", "finally", "float", "for", "goto",
    "if", "implements", "import", "instanceof", "int", "interface", "long",
    "native", "new", "null", "package", "private", "protected", "public",
    "return", "short", "static", "strictfp", "super", "switch",
    "synchronized", "this", "throw", "throws", "transient", "true", "try",
    "void", "volatile", "while"]

/-- Check that a text is an identifier.  Of several faults the first in the
order of `IdentifierError` is reported. -/
def checkIdentifier (name : String) : Except IdentifierError Unit :=
  match name.toList with
  | [] => .error .empty
  | first :: rest =>
      if !isIdentifierStart first then .error .invalidStart
      else if !rest.all isIdentifierPart then .error .invalidPart
      else if name ∈ reservedWords then .error .reserved
      else .ok ()

/-- The text is an identifier. -/
def IsIdentifier (name : String) : Prop :=
  checkIdentifier name = .ok ()

instance : DecidablePred IsIdentifier := fun name =>
  match checked : checkIdentifier name with
  | .ok () => isTrue checked
  | .error _ => isFalse (by simp [IsIdentifier, checked])

end JavaTypes
