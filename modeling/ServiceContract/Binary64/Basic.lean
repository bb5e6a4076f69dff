/-!
# Binary floating-point numbers

The finite numbers of the 64-bit binary floating-point format, held by their three bit fields, with
exact arithmetic on naturals instead of machine floats. Every finite number is a whole multiple of
`2 ^ (-1074)`, the least positive one, so a number is described by the integer `scaled` of such
units it is worth: order, equality of value and wholeness are questions about that integer, and
rounding to the nearest number is a division that chooses a multiple of a power of two.
-/

namespace ServiceContract

/-- A finite 64-bit binary floating-point number, by its bit fields. The exponent field 2047, which
stands for the infinities and for what is not a number, is left out. -/
structure Binary64 where
  /-- The sign bit; zero has two signs. -/
  negative : Bool
  /-- The biased exponent; 0 marks zero and the subnormal numbers. -/
  exponent : Fin 2047
  /-- The 52 fraction bits below the leading bit. -/
  fraction : Fin 4503599627370496
deriving DecidableEq, Repr

namespace Binary64

/-- The significand as a whole number: normal numbers have a leading bit that is not stored. -/
def significand (x : Binary64) : Nat :=
  if x.exponent.val = 0 then x.fraction.val else 4503599627370496 + x.fraction.val

/-- The absolute value in units of `2 ^ (-1074)`. The exponents 0 and 1 share one scale. -/
def magnitude (x : Binary64) : Nat :=
  x.significand * Nat.pow 2 (x.exponent.val - 1)

/-- The value in units of `2 ^ (-1074)`. The two zeros have the same value. -/
def scaled (x : Binary64) : Int :=
  if x.negative then -(x.magnitude : Int) else x.magnitude

/-- How many units of `2 ^ (-1074)` make one. -/
def unitsPerOne : Nat := Nat.pow 2 1074

/-- Positive or negative zero. -/
def zero (negative : Bool) : Binary64 := ⟨negative, 0, 0⟩

/-! ## Order and value -/

/-- Numbers are ordered by their values. -/
def order (x y : Binary64) : Ordering := compare x.scaled y.scaled

/-- Two numbers have the same value; the two zeros do. -/
def sameValue (x y : Binary64) : Bool := x.scaled == y.scaled

/-- The number has no fractional part. -/
def isWhole (x : Binary64) : Bool := x.magnitude % unitsPerOne == 0

/-! ## Rounding to the nearest number -/

/-- The whole number nearest to `num / den`; a half goes to the even neighbour. -/
def roundHalfEven (num den : Nat) : Nat :=
  let quotient := num / den
  let remainder := num % den
  if 2 * remainder < den then quotient
  else if den < 2 * remainder then quotient + 1
  else quotient + quotient % 2

/-- The number worth `units` times `2 ^ (-1074)`, for a multiple that the format can hold; `none`
when it lies beyond the largest number. -/
def ofUnits (negative : Bool) (units : Nat) : Option Binary64 :=
  if h : units < 4503599627370496 then
    some ⟨negative, 0, ⟨units, h⟩⟩
  else
    let shift := units.log2 - 52
    if h : shift + 1 < 2047 then
      some ⟨negative, ⟨shift + 1, h⟩, Fin.ofNat _ (units / Nat.pow 2 shift)⟩
    else
      none

/-- The number nearest to `num / den` units of `2 ^ (-1074)`: of the quotient the leading 53 bits
are kept, and a tie goes to the even neighbour. `none` when the rounded value is too large. -/
def nearest (negative : Bool) (num den : Nat) : Option Binary64 :=
  let step := Nat.pow 2 ((num / den).log2 - 52)
  ofUnits negative (roundHalfEven num (den * step) * step)

/-- The number nearest to an integer. -/
def ofInt? (n : Int) : Option Binary64 :=
  nearest (n < 0) (n.natAbs * unitsPerOne) 1

end Binary64

end ServiceContract
