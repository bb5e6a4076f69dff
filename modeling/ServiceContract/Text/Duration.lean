/-!
# Durations in words

The text of a duration: its largest unit out of seconds, milliseconds, microseconds and nanoseconds
that it is worth one of, with as many decimals as it needs.
-/

namespace ServiceContract.Text

/-- The decimals of a fraction of `10 ^ places`, without zeros at the end. -/
def decimals (places fraction : Nat) : String :=
  let digits := Nat.toDigits 10 fraction
  let padded := List.replicate (places - digits.length) '0' ++ digits
  let kept := (padded.reverse.dropWhile (· = '0')).reverse
  if kept.isEmpty then "" else "." ++ String.ofList kept

/-- The text of a number of nanoseconds. -/
def duration (nanoseconds : Nat) : String :=
  let inUnits := fun (places : Nat) (unit : String) =>
    toString (nanoseconds / Nat.pow 10 places) ++
      decimals places (nanoseconds % Nat.pow 10 places) ++ unit
  if 1000000000 ≤ nanoseconds then inUnits 9 "s"
  else if 1000000 ≤ nanoseconds then inUnits 6 "ms"
  else if 1000 ≤ nanoseconds then inUnits 3 "µs"
  else toString nanoseconds ++ "ns"

end ServiceContract.Text
