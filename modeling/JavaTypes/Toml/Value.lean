import JavaTypes.Toml.Moment
import JavaTypes.Toml.Number

/-!
# TOML keys and values

Arrays and tables between braces nest, up to a fixed depth.
-/

namespace JavaTypes.Toml

/-- Arrays, braces and dotted keys go less deep than this. -/
def depthLimit : Nat := 80

/-! ## Keys -/

/-- A character of a key without quotes. -/
def isBareKeyChar (c : Char) : Bool :=
  c.isAlphanum || c == '-' || c == '_'

/-- A key without dots. -/
def simpleKey : Reader String :=
  Reader.orElse basicString
    (Reader.orElse literalString
      ((Reader.stretch isBareKeyChar).map String.ofList))

/-- A key without dots, and the blanks around it. -/
def spacedKey : Reader String :=
  fun text =>
    (simpleKey (skipBlanks text)).map fun (key, rest) => (key, skipBlanks rest)

/-- A key of parts between dots: the path to a table and the key in it. -/
def key : Reader (List String × String) :=
  Reader.filterMap
    (Reader.andThen spacedKey fun first text =>
      let (more, rest) :=
        Reader.many ((Reader.char '.').andThen fun _ => spacedKey) text
      some (first :: more, rest))
    fun parts =>
      if parts.length < depthLimit then
        parts.getLast?.map fun last => (parts.dropLast, last)
      else none

/-! ## Values -/

/-- A value that is not made of other values. -/
def scalar : Reader Item :=
  Reader.orElse (Reader.map string .string)
    (Reader.orElse (moment.map fun _ => .datetime)
      (Reader.orElse (Reader.map float .float)
        (Reader.orElse (Reader.map integer .integer)
          (Reader.orElse
            ((Reader.literal ['t', 'r', 'u', 'e']).map fun _ => .boolean true)
            ((Reader.literal ['f', 'a', 'l', 's', 'e']).map
              fun _ => .boolean false)))))

/-- A thing, and further ones of its kind behind commas. -/
def separated {α : Type} (reader : Reader α) : Reader (List α) :=
  reader.andThen fun first text =>
    let (more, rest) :=
      Reader.many ((Reader.char ',').andThen fun _ => reader) text
    some (first :: more, rest)

/-- An element of an array, with the blanks, line ends and comments around
it. -/
def element (value : Reader Item) : Reader Item :=
  fun text =>
    (value (skipLines text)).map fun (item, rest) => (item, skipLines rest)

/-- The rest of an array, behind its opening bracket.  A comma may follow the
last element. -/
def arrayRest (value : Reader Item) : Reader Item :=
  (Reader.optional ((separated (element value)).andThen fun items =>
    (Reader.optional (Reader.char ',')).map fun _ => items)).andThen
    fun items text =>
      (Reader.char ']' (skipLines text)).map fun (_, rest) =>
        (.array (items.getD []), rest)

/-- A key and its value between braces. -/
def bracedEntry (value : Reader Item) : Reader ((List String × String) × Item) :=
  Reader.andThen key fun name =>
    (Reader.char '=').andThen fun _ text =>
      (value (skipBlanks text)).map fun (item, rest) =>
        ((name, item), skipBlanks rest)

/-- The table of keys and values between braces. -/
def bracedTable? (pairs : List ((List String × String) × Item)) : Option Item :=
  (pairs.foldlM (fun (entries : Entries) pair =>
    entries.insertKey .braces pair.1.1 pair.1.2 pair.2) []).map
    fun entries => .table .braces entries

/-- The rest of a table between braces, behind the opening one. -/
def bracesRest (value : Reader Item) : Reader Item :=
  (Reader.optional (separated (bracedEntry value))).andThen fun pairs text =>
    (Reader.char '\x7d' (skipBlanks text)).bind fun (_, rest) =>
      (bracedTable? (pairs.getD [])).map fun item => (item, rest)

/-- A value that nests less deep than a limit. -/
def value : Nat → Reader Item
  | 0 => scalar
  | depth + 1 => fun text =>
      match text with
      | '[' :: rest => arrayRest (value depth) rest
      | '\x7b' :: rest => bracesRest (value depth) rest
      | text => scalar text

end JavaTypes.Toml
