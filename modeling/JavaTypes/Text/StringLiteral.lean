/-!
# String literals

A text is quoted as a Java string literal in printable ASCII.  Characters with
an escape of their own use it, other characters outside printable ASCII are
written as the `\u` escapes of their UTF-16 code units.
-/

namespace JavaTypes.Text

/-- The UTF-16 code units of a character: two for code points above `0xffff`. -/
def utf16Units (c : Char) : List Nat :=
  if c.toNat < 0x10000 then [c.toNat]
  else
    [0xd800 + (c.toNat - 0x10000) / 0x400, 0xdc00 + (c.toNat - 0x10000) % 0x400]

/-- A hexadecimal digit, in lower case. -/
def hexDigit (digit : Nat) : Char :=
  if digit < 10 then Char.ofNat (48 + digit) else Char.ofNat (87 + digit)

/-- The escape of a code unit: `\u` and four hexadecimal digits. -/
def unitEscape (unit : Nat) : List Char :=
  ['\\', 'u', hexDigit (unit / 0x1000 % 16), hexDigit (unit / 0x100 % 16),
    hexDigit (unit / 0x10 % 16), hexDigit (unit % 16)]

/-- A character inside a string literal. -/
def escapeChar (c : Char) : List Char :=
  if c = '"' then ['\\', '"']
  else if c = '\\' then ['\\', '\\']
  else if c = '\n' then ['\\', 'n']
  else if c = '\r' then ['\\', 'r']
  else if c = '\t' then ['\\', 't']
  else if c = '\x08' then ['\\', 'b']
  else if c = '\x0c' then ['\\', 'f']
  else if ' ' ≤ c && c ≤ '~' then [c]
  else (utf16Units c).flatMap unitEscape

/-- The characters of the string literal of a text, quotes included. -/
def literalChars (text : List Char) : List Char :=
  '"' :: text.flatMap escapeChar ++ ['"']

/-- The string literal of a text. -/
def stringLiteral (text : String) : String :=
  String.ofList (literalChars text.toList)

end JavaTypes.Text
