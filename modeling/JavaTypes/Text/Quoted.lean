import JavaTypes.Text.StringLiteral
import JavaTypes.Text.UnshownRanges

/-!
# Quoted text

A text is quoted for a message: quotes, backslashes and line controls are
escaped, and characters that cannot be told apart on sight are shown by their
code points.
-/

namespace JavaTypes.Text

/-- A code point in hexadecimal between braces. -/
def codeEscape (c : Char) : String :=
  "\\u\x7b" ++ String.ofList (Nat.toDigits 16 c.toNat) ++ "\x7d"

/-- A character inside quoted text. -/
def quoteChar (c : Char) : String :=
  if c = '\x00' then "\\0"
  else if c = '\t' then "\\t"
  else if c = '\r' then "\\r"
  else if c = '\n' then "\\n"
  else if c = '\\' then "\\\\"
  else if c = '"' then "\\\""
  else if isUnshown c then codeEscape c
  else String.singleton c

/-- A text between quotes. -/
def quoted (text : String) : String :=
  "\"" ++ String.join (text.toList.map quoteChar) ++ "\""

end JavaTypes.Text
