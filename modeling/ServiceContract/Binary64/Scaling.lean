import ServiceContract.Binary64.Basic

/-!
# Scaling by powers of ten

Products and quotients of floating-point numbers, and with them a quick way from a whole number and a
power of ten to a floating-point number: the whole number is rounded, and then multiplied or divided by
a power of ten that is rounded as well. The format holds powers of ten up to `10 ^ 308`, so that more
than one division stands for a power below `10 ^ (-308)`. Since each step rounds, the result lies near
the decimal but need not be the number nearest to it.
-/

namespace ServiceContract.Binary64

/-- The product, rounded once; `none` when it is too large. -/
def times (x y : Binary64) : Option Binary64 :=
  nearest (x.negative != y.negative) (x.magnitude * y.magnitude) unitsPerOne

/-- The quotient by a number other than zero, rounded once; `none` when it is too large. -/
def dividedBy (x y : Binary64) : Option Binary64 :=
  nearest (x.negative != y.negative) (x.magnitude * unitsPerOne) y.magnitude

/-- The number nearest to a power of ten, for the powers that the format holds. -/
def powerOfTen (power : Nat) : Binary64 :=
  (nearest false (Nat.pow 10 power * unitsPerOne) 1).getD (zero false)

/-- Multiplies by a power of ten. A power that the format does not hold leaves zero as it is, and is too
large for any other number. -/
def timesTen (x : Binary64) (power : Nat) : Option Binary64 :=
  if power ≤ 308 then x.times (powerOfTen power)
  else if x.magnitude = 0 then some x
  else none

/-- Divides by a power of ten, by `10 ^ 308` at a time as long as the format does not hold it. -/
def overTen (x : Binary64) (power : Nat) : Option Binary64 :=
  if power ≤ 308 then x.dividedBy (powerOfTen power)
  else if x.magnitude = 0 then some x
  else do (← x.dividedBy (powerOfTen 308)).overTen (power - 308)
termination_by power

/-- A whole number times a power of ten, rounded at each step. -/
def scaled? (negative : Bool) (significand : Nat) (exponent : Int) : Option Binary64 := do
  let x ← ofInt? significand
  let y ← match exponent with
    | .ofNat power => x.timesTen power
    | .negSucc power => x.overTen (power + 1)
  return { y with negative }

end ServiceContract.Binary64
