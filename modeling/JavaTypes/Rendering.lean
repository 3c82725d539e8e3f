import JavaTypes.Env

/-!
# Rendering types as text

Types are written as in source text, with class names in full or cut to the
part after the last dot.  An id that the environment does not know is written
as a placeholder.
-/

namespace JavaTypes

/-- How class names are written. -/
inductive NameStyle where
  /-- The full name, as in `java.util.List`. -/
  | qualified
  /-- The part after the last dot, as in `List`. -/
  | simple
  deriving DecidableEq, Repr

/-- The part of a dotted name after its last dot. -/
def simpleName (name : String) : String :=
  String.ofList (name.toList.reverse.takeWhile (· != '.')).reverse

/-- A class name in the given style. -/
def NameStyle.write : NameStyle → String → String
  | .qualified, name => name
  | .simple, name => simpleName name

namespace Env

/-- The text of a class. -/
def renderClass (env : Env) (style : NameStyle) (id : ClassId) : String :=
  match env.classDef? id with
  | some definition => style.write definition.name
  | none => "<unknown class " ++ toString id.toNat ++ ">"

/-- The text of a type variable, which has no qualified form. -/
def renderTypeVar (env : Env) (var : TypeVarId) : String :=
  match env.typeVarDef? var with
  | some definition => definition.name
  | none => "<unknown type variable " ++ toString var.toNat ++ ">"

mutual

/-- The text of a type. -/
def render (env : Env) (style : NameStyle) : Ty → String
  | .primitive kind => kind.keyword
  | .cls id => env.renderClass style id
  | .array element => render env style element ++ "[]"
  | .typeVar var => env.renderTypeVar var
  | .parameterized erasure args =>
      env.renderClass style erasure ++ "<" ++
        String.intercalate ", " (renderArgs env style args) ++ ">"
  | .unbounded => "?"
  | .upperBounded bound => "? extends " ++ render env style bound
  | .lowerBounded bound => "? super " ++ render env style bound

/-- The texts of the types of a list. -/
def renderArgs (env : Env) (style : NameStyle) : List Ty → List String
  | [] => []
  | head :: tail => render env style head :: renderArgs env style tail

end

theorem renderArgs_eq_map (env : Env) (style : NameStyle) (types : List Ty) :
    env.renderArgs style types = types.map (env.render style) := by
  induction types with
  | nil => rfl
  | cons head tail induction => simp [renderArgs, induction]

end Env

end JavaTypes
