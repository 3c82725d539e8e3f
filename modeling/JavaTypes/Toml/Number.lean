import JavaTypes.Toml.Item
import JavaTypes.Toml.Quoted

/-!
# TOML numbers

Integers have 64 bits and may be written in four bases; a decimal integer has
no leading zeros.  A number with a fraction or an exponent is a floating-point
number.  Single underscores may stand between digits.
-/

namespace JavaTypes.Toml

/-- A digit, or an underscore with a digit behind it. -/
def nextDigit (accepts : Char → Bool) : Reader Char
  | '_' :: rest => Reader.satisfying accepts rest
  | text => Reader.satisfying accepts text

/-- Digits of a class, the underscores between them left out. -/
def digits (accepts : Char → Bool) : Reader (List Char) :=
  (Reader.satisfying accepts).andThen fun first text =>
    let (more, rest) := Reader.many (nextDigit accepts) text
    some (first :: more, rest)

/-- An optional sign; true for a minus. -/
def sign : Reader Bool
  | '-' :: rest => some (true, rest)
  | '+' :: rest => some (false, rest)
  | text => some (false, text)

/-- The digits of a decimal integer: a zero alone, or no zero in front. -/
def decimalDigits : Reader (List Char)
  | '0' :: rest => some (['0'], rest)
  | text => digits Char.isDigit text

/-- An integer with its sign, if it has 64 bits. -/
def signed? (negative : Bool) (magnitude : Nat) : Option Int :=
  let value : Int := if negative then -magnitude else magnitude
  if Int64.minValue.toInt ≤ value ∧ value ≤ Int64.maxValue.toInt then some value
  else none

/-- An integer in decimal. -/
def decimalInteger : Reader Int :=
  sign.andThen fun negative =>
    Reader.filterMap decimalDigits fun digits =>
      signed? negative (digitsValue 10 digits)

/-- An integer behind the mark of its base. -/
def basedInteger (mark : Char) (base : Nat) (accepts : Char → Bool) :
    Reader Int :=
  (Reader.literal ['0', mark]).andThen fun _ =>
    (digits accepts).filterMap fun digits =>
      signed? false (digitsValue base digits)

/-- An integer. -/
def integer : Reader Int
  | '0' :: 'x' :: rest => basedInteger 'x' 16 isHexDigit ('0' :: 'x' :: rest)
  | '0' :: 'o' :: rest =>
      basedInteger 'o' 8 (fun c => '0' ≤ c && c ≤ '7') ('0' :: 'o' :: rest)
  | '0' :: 'b' :: rest =>
      basedInteger 'b' 2 (fun c => c == '0' || c == '1') ('0' :: 'b' :: rest)
  | text => decimalInteger text

/-- The exponent of a floating-point number, with its mark. -/
def exponent : Reader Int :=
  (Reader.satisfying fun c => c == 'e' || c == 'E').andThen fun _ =>
    sign.andThen fun negative =>
      (digits Char.isDigit).map fun digits =>
        let magnitude : Int := digitsValue 10 digits
        if negative then -magnitude else magnitude

/-- The digits behind the point. -/
def fraction : Reader (List Char) :=
  (Reader.char '.').andThen fun _ => digits Char.isDigit

/-- The fraction and the exponent of a floating-point number, at least one of
which must be there. -/
def fractionAndExponent : Reader (List Char × Int) :=
  Reader.orElse (exponent.map fun exponent => ([], exponent))
    (fraction.andThen fun fraction =>
      (Reader.optional exponent).map fun exponent =>
        (fraction, exponent.getD 0))

/-- A number in decimal notation.  A positive number too large for the format
is refused, a negative one is infinite. -/
def decimalFloat : Reader Decimal.Number64 :=
  sign.andThen fun negative =>
    Reader.andThen decimalDigits fun whole =>
      fractionAndExponent.filterMap fun (fraction, exponent) =>
        match Decimal.Binary64.ofDecimal (digitsValue 10 (whole ++ fraction))
            (exponent - fraction.length) with
        | some magnitude => some (.finite negative magnitude)
        | none => if negative then some (.infinite true) else none

/-- An infinity or a number that is none, by its name. -/
def namedFloat : Reader Decimal.Number64 :=
  sign.andThen fun negative =>
    Reader.orElse
      ((Reader.literal ['i', 'n', 'f']).map fun _ => .infinite negative)
      ((Reader.literal ['n', 'a', 'n']).map fun _ => .nan)

/-- A floating-point number. -/
def float : Reader Decimal.Number64 :=
  Reader.orElse decimalFloat namedFloat

end JavaTypes.Toml
