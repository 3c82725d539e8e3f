/-!
# Readers

A reader takes what it understands from the front of a text and gives the rest,
or fails.  After a failure another reader may try the same text.
-/

namespace JavaTypes.Toml

/-- A reader of values from the front of a text. -/
abbrev Reader (α : Type) : Type :=
  List Char → Option (α × List Char)

namespace Reader

/-- Read one thing, then another that may depend on it. -/
def andThen {α β : Type} (first : Reader α) (next : α → Reader β) : Reader β :=
  fun text => (first text).bind fun (value, rest) => next value rest

/-- Change what is read. -/
def map {α β : Type} (reader : Reader α) (change : α → β) : Reader β :=
  fun text => (reader text).map fun (value, rest) => (change value, rest)

/-- Refuse some of what is read. -/
def filterMap {α β : Type} (reader : Reader α) (change : α → Option β) :
    Reader β :=
  fun text => (reader text).bind fun (value, rest) =>
    (change value).map fun value => (value, rest)

/-- Read one thing, or else the other. -/
def orElse {α : Type} (first second : Reader α) : Reader α :=
  fun text => (first text).or (second text)

/-- Read a thing that may be missing. -/
def optional {α : Type} (reader : Reader α) : Reader (Option α) :=
  fun text =>
    match reader text with
    | some (value, rest) => some (some value, rest)
    | none => some (none, text)

/-- Read a thing as often as possible.  The last reading may leave the text as
it is. -/
def many {α : Type} (reader : Reader α) (text : List Char) :
    List α × List Char :=
  match reader text with
  | none => ([], text)
  | some (value, rest) =>
      if rest.length < text.length then
        let (values, rest) := many reader rest
        (value :: values, rest)
      else ([value], rest)
  termination_by text.length

/-- Read a thing as often as possible and forget it. -/
def skipMany {α : Type} (reader : Reader α) (text : List Char) : List Char :=
  (many reader text).2

/-- Read a character of a class. -/
def satisfying (accepts : Char → Bool) : Reader Char
  | c :: rest => if accepts c then some (c, rest) else none
  | [] => none

/-- Read a given character. -/
def char (expected : Char) : Reader Char :=
  satisfying (· == expected)

/-- Read a given text. -/
def literal : List Char → Reader Unit
  | [], text => some ((), text)
  | expected :: more, c :: rest =>
      if c = expected then literal more rest else none
  | _ :: _, [] => none

/-- Read the longest stretch of characters of a class, at least one. -/
def stretch (accepts : Char → Bool) : Reader (List Char) :=
  fun text =>
    match text.takeWhile accepts with
    | [] => none
    | piece => some (piece, text.dropWhile accepts)

/-- Read a given number of characters of a class. -/
def exactly (accepts : Char → Bool) : Nat → Reader (List Char)
  | 0 => fun text => some ([], text)
  | count + 1 => fun text =>
      (satisfying accepts text).bind fun (c, rest) =>
        (exactly accepts count rest).map fun (more, rest) => (c :: more, rest)

end Reader

/-! ## Blanks, line ends and comments -/

/-- A space or a tab. -/
def isBlank (c : Char) : Bool :=
  c == ' ' || c == '\t'

/-- A character that may stand in a comment: a tab, a printable ASCII character
or any character outside ASCII. -/
def isCommentChar (c : Char) : Bool :=
  c == '\t' || (0x20 ≤ c.toNat && c.toNat ≤ 0x7e) || 0x80 ≤ c.toNat

/-- The text behind its leading blanks. -/
def skipBlanks (text : List Char) : List Char :=
  text.dropWhile isBlank

/-- The end of a line: a line feed, with or without a carriage return. -/
def newline : Reader Unit
  | '\n' :: rest => some ((), rest)
  | '\r' :: '\n' :: rest => some ((), rest)
  | _ => none

/-- A comment, up to the end of its line. -/
def comment : Reader Unit
  | '#' :: rest => some ((), rest.dropWhile isCommentChar)
  | _ => none

/-- The rest of a line: blanks and a comment, then the end of the line or of
the document. -/
def endOfLine (text : List Char) : Option (List Char) :=
  let rest := skipBlanks text
  let rest := match comment rest with
    | some (_, rest) => rest
    | none => rest
  match rest with
  | [] => some []
  | rest => (newline rest).map Prod.snd

/-- The text behind any blanks, line ends and comments. -/
def skipLines (text : List Char) : List Char :=
  Reader.skipMany
    (((Reader.satisfying isBlank).map fun _ => ()).orElse
      (Reader.orElse newline comment))
    text

end JavaTypes.Toml
