import ServiceContract.Binary64.Decimal

/-!
# Numbers of a JSON text

A number is either an integer, exact over the joint range of signed and unsigned 64-bit words, or a
floating-point number. The two forms are kept apart, since a text written with a point is written
back with one, but they are compared by value: two integers exactly, otherwise as floating-point
numbers.
-/

namespace ServiceContract.Json

/-- A number as it was written: an integer or a floating-point number. -/
inductive Number where
  /-- An integer within the range of 64-bit words, signed or unsigned. -/
  | integer (value : Int)
    (inRange : -9223372036854775808 ≤ value ∧ value < 18446744073709551616)
  /-- Any other number, as a floating-point number. -/
  | float (value : Binary64)
deriving DecidableEq, Repr

namespace Number

/-- The integer form of `n`, if it is in range. -/
def ofInt? (n : Int) : Option Number :=
  if h : -9223372036854775808 ≤ n ∧ n < 18446744073709551616 then some (.integer n h) else none

/-- A natural number below `2 ^ 64`; larger ones wrap around. -/
def ofNat (n : Nat) : Number :=
  .integer (n % 18446744073709551616 : Nat) (by omega)

/-- The number was written as an integer. -/
def isInteger : Number → Bool
  | .integer .. => true
  | .float _ => false

/-- The value as a natural number, for an integer that is not negative. -/
def toNat? : Number → Option Nat
  | .integer n _ => if 0 ≤ n then some n.toNat else none
  | .float _ => none

/-- The value as a floating-point number; an integer goes to the nearest one. -/
def toBinary64 : Number → Binary64
  | .integer n _ => (Binary64.ofInt? n).getD (Binary64.zero false)
  | .float x => x

/-- The value is a whole number, in whichever form it was written. -/
def isWhole : Number → Bool
  | .integer .. => true
  | .float x => x.isWhole

/-- Integers are compared exactly; with a floating-point number on either side both are compared as
floating-point numbers. -/
def order : Number → Number → Ordering
  | .integer m _, .integer n _ => compare m n
  | a, b => a.toBinary64.order b.toBinary64

/-- The same form and the same value. -/
def same : Number → Number → Bool
  | .integer m _, .integer n _ => m == n
  | .float x, .float y => x.sameValue y
  | _, _ => false

/-- The written form: integers in decimal, floating-point numbers with a point or a power. -/
def text : Number → String
  | .integer n _ => toString n
  | .float x => String.ofList x.chars

end Number

end ServiceContract.Json
