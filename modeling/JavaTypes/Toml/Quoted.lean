import JavaTypes.Toml.Reader

/-!
# Quoted TOML strings

Strings between double quotes have escapes, strings between single quotes have
none.  Three quotes delimit a string that may span lines; its line ends are
line feeds, and a line end right behind the opening quotes is dropped.
-/

namespace JavaTypes.Toml

/-- A hexadecimal digit of either case. -/
def isHexDigit (c : Char) : Bool :=
  c.isDigit || ('a' ≤ c && c ≤ 'f') || ('A' ≤ c && c ≤ 'F')

/-- The value of a hexadecimal digit. -/
def hexValue (c : Char) : Nat :=
  if c.isDigit then c.toNat - 48
  else if 'a' ≤ c then c.toNat - 87
  else c.toNat - 55

/-- The value of digits in a base. -/
def digitsValue (base : Nat) (digits : List Char) : Nat :=
  digits.foldl (fun value c => value * base + hexValue c) 0

/-- A character given by a number of hexadecimal digits; surrogates and numbers
beyond the last code point are refused. -/
def codePoint (count : Nat) : Reader Char :=
  (Reader.exactly isHexDigit count).filterMap fun digits =>
    let code := digitsValue 16 digits
    if code < 0xd800 || (0xdfff < code && code < 0x110000) then
      some (Char.ofNat code)
    else none

/-- The rest of an escape, behind its backslash. -/
def escape : Reader Char
  | 'b' :: rest => some ('\x08', rest)
  | 't' :: rest => some ('\t', rest)
  | 'n' :: rest => some ('\n', rest)
  | 'f' :: rest => some ('\x0c', rest)
  | 'r' :: rest => some ('\r', rest)
  | '"' :: rest => some ('"', rest)
  | '\\' :: rest => some ('\\', rest)
  | 'u' :: rest => codePoint 4 rest
  | 'U' :: rest => codePoint 8 rest
  | _ => none

/-- A character that needs no escape between double quotes. -/
def isBasicChar (c : Char) : Bool :=
  isCommentChar c && c != '"' && c != '\\'

/-- A character that may stand between single quotes. -/
def isLiteralChar (c : Char) : Bool :=
  isCommentChar c && c != '\''

/-- The text of several readings. -/
def joined (pieces : List (List Char)) : String :=
  String.ofList pieces.flatten

/-! ## Strings on one line -/

/-- A piece of a string between double quotes. -/
def basicPiece : Reader (List Char)
  | '\\' :: rest => (escape rest).map fun (c, rest) => ([c], rest)
  | text => Reader.stretch isBasicChar text

/-- A string between double quotes. -/
def basicString : Reader String
  | '"' :: rest =>
      match Reader.many basicPiece rest with
      | (pieces, '"' :: rest) => some (joined pieces, rest)
      | _ => none
  | _ => none

/-- A string between single quotes. -/
def literalString : Reader String
  | '\'' :: rest =>
      match rest.dropWhile isLiteralChar with
      | '\'' :: behind =>
          some (String.ofList (rest.takeWhile isLiteralChar), behind)
      | _ => none
  | _ => none

/-! ## Strings over several lines -/

/-- The text behind a line end that follows opening quotes. -/
def skipFirstNewline (text : List Char) : List Char :=
  match newline text with
  | some (_, rest) => rest
  | none => text

/-- A line end inside a string, which reads as a line feed. -/
def innerNewline : Reader (List Char) :=
  Reader.map newline fun _ => ['\n']

/-- Behind a backslash at the end of a line: the line end and all blanks and
line ends that follow it, which do not count. -/
def continuedLine (text : List Char) : Option (List Char × List Char) :=
  (newline (skipBlanks text)).map fun (_, rest) =>
    ([], Reader.skipMany
      (((Reader.satisfying isBlank).map fun _ => ()).orElse newline) rest)

/-- One or two quotes that do not end a string, because no third follows. -/
def looseQuotes (quote : Char) : Reader (List Char)
  | first :: second :: third :: rest =>
      if first != quote then none
      else if second != quote then some ([quote], second :: third :: rest)
      else if third != quote then some ([quote, quote], third :: rest)
      else none
  | [first, second] =>
      if first = quote && second != quote then some ([quote], [second]) else none
  | _ => none

/-- A piece of a string between triple double quotes. -/
def basicLinesPiece : Reader (List Char)
  | '\\' :: rest =>
      (continuedLine rest).or
        ((escape rest).map fun (c, rest) => ([c], rest))
  | text =>
      Reader.orElse (Reader.stretch isBasicChar)
        (Reader.orElse innerNewline (looseQuotes '"')) text

/-- A piece of a string between triple single quotes. -/
def literalLinesPiece : Reader (List Char) :=
  Reader.orElse (Reader.stretch isLiteralChar)
    (Reader.orElse innerNewline (looseQuotes '\''))

/-- The end of a string over several lines: three quotes, with up to two more
before them that belong to the string. -/
def closingQuotes (quote : Char) : Reader (List Char) :=
  let closing (loose : Nat) : Reader (List Char) :=
    (Reader.literal (List.replicate (loose + 3) quote)).map
      fun _ => List.replicate loose quote
  Reader.orElse (closing 2) (Reader.orElse (closing 1) (closing 0))

/-- A string over several lines between triples of a quote. -/
def linesString (quote : Char) (piece : Reader (List Char)) : Reader String :=
  (Reader.literal (List.replicate 3 quote)).andThen fun _ text =>
    let (pieces, rest) := Reader.many piece (skipFirstNewline text)
    (closingQuotes quote rest).map fun (loose, rest) =>
      (joined (pieces ++ [loose]), rest)

/-- A string of any of the four kinds. -/
def string : Reader String :=
  Reader.orElse (linesString '"' basicLinesPiece)
    (Reader.orElse basicString
      (Reader.orElse (linesString '\'' literalLinesPiece) literalString))

end JavaTypes.Toml
