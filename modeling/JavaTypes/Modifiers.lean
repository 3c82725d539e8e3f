/-!
# Modifiers

The modifiers of a declaration are a set of bits, with the values that class
files give them.  Bits without a keyword are kept and mean nothing here.
-/

namespace JavaTypes

/-- A set of modifiers. -/
structure Modifiers where
  bits : UInt16
  deriving DecidableEq, Repr

namespace Modifiers

/-- No modifiers. -/
def none : Modifiers := ⟨0x0000⟩

/-- The modifier `public`. -/
def publicFlag : Modifiers := ⟨0x0001⟩

/-- The modifier `private`. -/
def privateFlag : Modifiers := ⟨0x0002⟩

/-- The modifier `protected`. -/
def protectedFlag : Modifiers := ⟨0x0004⟩

/-- The modifier `static`. -/
def staticFlag : Modifiers := ⟨0x0008⟩

/-- The modifier `final`. -/
def finalFlag : Modifiers := ⟨0x0010⟩

/-- The modifier `volatile`. -/
def volatileFlag : Modifiers := ⟨0x0040⟩

/-- The modifier `transient`. -/
def transientFlag : Modifiers := ⟨0x0080⟩

/-- The modifiers of either set. -/
def union (first second : Modifiers) : Modifiers :=
  ⟨first.bits ||| second.bits⟩

/-- Every bit of the second set is in the first. -/
def contains (whole part : Modifiers) : Bool :=
  whole.bits &&& part.bits == part.bits

/-- The set has no bits. -/
def isEmpty (set : Modifiers) : Bool :=
  set.bits == 0

/-- The modifiers with a keyword, in the customary order of source text. -/
def customaryOrder : List (Modifiers × String) :=
  [(publicFlag, "public"), (protectedFlag, "protected"), (privateFlag, "private"),
    (staticFlag, "static"), (finalFlag, "final"), (transientFlag, "transient"),
    (volatileFlag, "volatile")]

/-- The keywords of a set, in the customary order. -/
def keywords (set : Modifiers) : List String :=
  (customaryOrder.filter fun entry => set.contains entry.1).map Prod.snd

/-- The keywords of a set as they stand in source text. -/
def render (set : Modifiers) : String :=
  String.intercalate " " set.keywords

/-- The keywords of a set as a list of quoted words. -/
def renderList (set : Modifiers) : String :=
  "[" ++ String.intercalate ", "
    (set.keywords.map fun word => "\"" ++ word ++ "\"") ++ "]"

end Modifiers

end JavaTypes
