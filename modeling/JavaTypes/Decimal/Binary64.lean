/-!
# Binary floating-point numbers

A finite number of the 64-bit binary format is a 53-bit mantissa times a power
of two.  A decimal is read as the nearest such number, a tie going to the even
mantissa; a decimal too large for the format has none.
-/

namespace JavaTypes.Decimal

/-- A finite non-negative number: the mantissa times a power of two. -/
structure Binary64 where
  mantissa : Nat
  exponent : Int
  deriving DecidableEq, Repr

/-- A number of the 64-bit binary format. -/
inductive Number64 where
  | nan
  | infinite (negative : Bool)
  | finite (negative : Bool) (magnitude : Binary64)
  deriving DecidableEq, Repr

/-- The smallest exponent of the format. -/
def minExponent : Int := -1074

/-- The largest exponent of the format. -/
def maxExponent : Int := 971

/-- Mantissas stay below this power of two. -/
def mantissaLimit : Nat := 0x20000000000000

/-- The smallest mantissa of 53 bits. -/
def leastFullMantissa : Nat := 0x10000000000000

/-- A power with a whole exponent; a negative exponent counts as zero. -/
def power (base : Nat) (exponent : Int) : Nat :=
  Nat.pow base exponent.toNat

/-- A quotient rounded to the nearest integer, a tie going to the even one. -/
def roundQuotient (dividend divisor : Nat) : Nat :=
  let quotient := dividend / divisor
  let twice := 2 * (dividend % divisor)
  if twice > divisor then quotient + 1
  else if twice = divisor then quotient + quotient % 2
  else quotient

namespace Binary64

/-- Zero. -/
def zero : Binary64 := ⟨0, minExponent⟩

/-- The number nearest to a positive quotient, unless it is too large. -/
def ofQuotient (dividend divisor : Nat) : Option Binary64 :=
  let magnitude : Int := (dividend.log2 : Int) - divisor.log2
  let low := max (magnitude - 53) minExponent
  let scaled (exponent : Int) : Nat × Nat :=
    (dividend * power 2 (-exponent), divisor * power 2 exponent)
  let exponent :=
    if (scaled low).1 / (scaled low).2 < mantissaLimit then low else low + 1
  let mantissa := roundQuotient (scaled exponent).1 (scaled exponent).2
  let rounded : Binary64 :=
    if mantissa < mantissaLimit then ⟨mantissa, exponent⟩
    else ⟨leastFullMantissa, exponent + 1⟩
  if rounded.exponent ≤ maxExponent then some rounded else none

/-- The number nearest to `digits` times a power of ten, unless it is too
large. -/
def ofDecimal (digits : Nat) (exponent : Int) : Option Binary64 :=
  let length : Int := (toString digits).length
  if digits = 0 then some zero
  else if length + exponent > 400 then none
  else if length + exponent < -400 then some zero
  else ofQuotient (digits * power 10 exponent) (power 10 (-exponent))

end Binary64

end JavaTypes.Decimal
