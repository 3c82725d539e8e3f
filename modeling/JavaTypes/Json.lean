/-!
# JSON values

The data of a JSON document, with the views that decoders use.  Numbers that
are not written as integers are kept apart, because ids and modifiers must be
integers.
-/

namespace JavaTypes

/-- A JSON value. -/
inductive Json where
  | null
  | bool (value : Bool)
  | int (value : Int)
  /-- A number with a fraction: `mantissa` divided by a power of ten. -/
  | decimal (mantissa : Int) (exponent : Nat)
  | str (value : String)
  | list (items : List Json)
  | obj (fields : List (String × Json))
  deriving Inhabited

namespace Json

/-- The word of a case without content: a string, or an object with the word as
its only key and nothing behind it. -/
def word? : Json → Option String
  | .str word => some word
  | .obj [(word, .null)] => some word
  | _ => none

/-- An integer from zero up to a limit. -/
def natBelow? (limit : Nat) : Json → Option Nat
  | .int value =>
      if 0 ≤ value ∧ value < limit then some value.toNat else none
  | _ => none

/-- A string. -/
def string? : Json → Option String
  | .str value => some value
  | _ => none

/-- A truth value. -/
def bool? : Json → Option Bool
  | .bool value => some value
  | _ => none

/-- The members of a record: by name in an object, where other names are
ignored, or by position in a list of the right length. -/
def record? (names : List String) : Json → Option (List (Option Json))
  | .obj fields => some (names.map fun name => fields.lookup name)
  | .list items =>
      if items.length = names.length then some (items.map some) else none
  | _ => none

/-- The members of a record whose members all have defaults: an object may
leave any out but have no other names, a list may leave out the last ones. -/
def partialRecord? (names : List String) : Json → Option (List (Option Json))
  | .obj fields =>
      if fields.all fun field => names.contains field.1 then
        some (names.map fun name => fields.lookup name)
      else none
  | .list items =>
      if items.length ≤ names.length then
        some (items.map some ++
          List.replicate (names.length - items.length) none)
      else none
  | _ => none

/-- A member that must be there. -/
def required? {α : Type} (decode : Json → Option α) (member : Option Json) :
    Option α :=
  member.bind decode

/-- A member that may be absent or null. -/
def optional? {α : Type} (decode : Json → Option α) :
    Option Json → Option (Option α)
  | none => some none
  | some .null => some none
  | some json => (decode json).map some

/-- A member that may be absent but not null, with its default. -/
def defaulted? {α : Type} (decode : Json → Option α) (default : α) :
    Option Json → Option α
  | none => some default
  | some json => decode json

/-- A list of values of one kind. -/
def list? {α : Type} (decode : Json → Option α) : Json → Option (List α)
  | .list items => items.mapM decode
  | _ => none

/-- Null for an absent value. -/
def ofOption {α : Type} (encode : α → Json) : Option α → Json
  | none => .null
  | some value => encode value

theorem sizeOf_lt_of_lookup {fields : List (String × Json)} {name : String}
    {json : Json} (found : fields.lookup name = some json) :
    sizeOf json < sizeOf fields := by
  induction fields with
  | nil => simp at found
  | cons field rest induction =>
      obtain ⟨other, value⟩ := field
      rw [List.lookup_cons] at found
      split at found
      · cases found
        simp only [List.cons.sizeOf_spec, Prod.mk.sizeOf_spec]
        omega
      · have := induction found
        simp only [List.cons.sizeOf_spec, Prod.mk.sizeOf_spec]
        omega

end Json

end JavaTypes
