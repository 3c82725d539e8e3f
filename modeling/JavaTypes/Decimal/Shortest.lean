import JavaTypes.Decimal.Binary64

/-!
# Shortest decimals

A binary number is written with the fewest decimal digits that read back as the
same number; of those decimals the nearest is taken, and of two equally near
ones the larger.  The search tries one digit, two digits, and so on, each time
with the two neighbours of the number on the grid of decimals of that length.
-/

namespace JavaTypes.Decimal

/-- A decimal: `digits` times a power of ten. -/
structure Dec where
  digits : Nat
  exponent : Int
  deriving DecidableEq, Repr

namespace Binary64

/-- The position of the decimal point: the number is below this power of ten
and not far below it. -/
def pointPosition (number : Binary64) : Int :=
  let dividend := number.mantissa * power 2 number.exponent
  let divisor := power 2 (-number.exponent)
  if divisor ≤ dividend then (toString (dividend / divisor)).length
  else 1 - ((toString (divisor / dividend)).length : Int)

/-- A decimal that reads back as the number and has its last digit at the given
power of ten. -/
def nearest? (number : Binary64) (exponent : Int) : Option Dec :=
  let quarter := number.exponent - 2
  let scale := power 2 quarter * power 10 (-exponent)
  let unit := power 2 (-quarter) * power 10 exponent
  let narrow :=
    number.mantissa = leastFullMantissa ∧ minExponent < number.exponent
  let value := 4 * number.mantissa * scale
  let low := (4 * number.mantissa - if narrow then 1 else 2) * scale
  let high := (4 * number.mantissa + 2) * scale
  let even := number.mantissa % 2 == 0
  let readsBack (digits : Nat) : Bool :=
    let point := digits * unit
    if even then low ≤ point && point ≤ high else low < point && point < high
  let below := value / unit
  let above := below + 1
  match readsBack below, readsBack above with
  | true, true =>
      if value - below * unit < above * unit - value then
        some ⟨below, exponent⟩
      else some ⟨above, exponent⟩
  | true, false => some ⟨below, exponent⟩
  | false, true => some ⟨above, exponent⟩
  | false, false => none

/-- The number written out in full. -/
def exactly (number : Binary64) : Dec :=
  if 0 ≤ number.exponent then
    ⟨number.mantissa * power 2 number.exponent, 0⟩
  else ⟨number.mantissa * power 5 (-number.exponent), number.exponent⟩

/-- The shortest decimal that reads back as a positive number.  Seventeen
digits always do. -/
def shortest (number : Binary64) : Dec :=
  let point := number.pointPosition
  ((List.range 17).findSome? fun (count : Nat) =>
    number.nearest? (point - count - 1)).getD number.exactly

end Binary64

/-! ## Texts -/

/-- A decimal written with a point and without an exponent.  There is always a
digit on either side of the point. -/
def Dec.positional (decimal : Dec) : String :=
  let text := (toString decimal.digits).toList
  let zeros := (text.reverse.takeWhile (· == '0')).length
  let digits := text.take (text.length - zeros)
  let exponent := decimal.exponent + zeros
  if 0 ≤ exponent then
    String.ofList (digits ++ List.replicate exponent.toNat '0') ++ ".0"
  else
    let places := (-exponent).toNat
    let padded := List.replicate (places + 1 - digits.length) '0' ++ digits
    String.ofList (padded.take (padded.length - places)) ++ "." ++
      String.ofList (padded.drop (padded.length - places))

/-- The text of a number: its shortest decimal, positional at any size. -/
def Number64.text : Number64 → String
  | .nan => "NaN"
  | .infinite negative => if negative then "-inf" else "inf"
  | .finite negative magnitude =>
      (if negative then "-" else "") ++
        if magnitude.mantissa = 0 then "0.0"
        else magnitude.shortest.positional

end JavaTypes.Decimal
