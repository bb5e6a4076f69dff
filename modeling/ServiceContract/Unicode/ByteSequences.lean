import ServiceContract.Unicode.CodePoints

/-!
# Characters as bytes

A character is written as one to four bytes. A range of characters is written as a few sequences of
ranges of bytes: a sequence takes in the characters whose first byte lies in the first range, whose
second byte lies in the second one, and so on. `byteSequences` lists these sequences in the order of
the characters.
-/

namespace ServiceContract.Unicode

/-- A closed range of bytes. -/
abbrev ByteRange := Nat × Nat

/-- The bytes of a code point. -/
def bytesOf (n : Nat) : List Nat :=
  if n < 0x80 then [n]
  else if n < 0x800 then [0xc0 + n / 64, 0x80 + n % 64]
  else if n < 0x10000 then [0xe0 + n / 4096, 0x80 + n / 64 % 64, 0x80 + n % 64]
  else [0xf0 + n / 262144, 0x80 + n / 4096 % 64, 0x80 + n / 64 % 64, 0x80 + n % 64]

/-- Where a range is cut because its ends differ in more than a block of a size: behind its first
block if that is not whole, otherwise in front of its last block if that is not whole. -/
def cutAtBlock? (low high block : Nat) : Option Nat :=
  if low / block = high / block then none
  else if low % block ≠ 0 then some ((low / block + 1) * block)
  else if high % block ≠ block - 1 then some (high / block * block)
  else none

/-- Where a range is cut that is no single sequence: where the number of bytes changes, or at the
end of a block of characters that have all but the last one, two or three bytes in common. -/
def cut? (low high : Nat) : Option Nat :=
  ([0x80, 0x800, 0x10000].find? fun start => low < start && start ≤ high).or
    (if high < 0x80 then none else [64, 4096, 262144].findSome? (cutAtBlock? low high))

/-- The sequences of a range without surrogates. -/
def byteSequencesBetween (low high : Nat) : List (List ByteRange) :=
  match cut? low high with
  | some middle =>
    if _ : low < middle ∧ middle ≤ high then
      byteSequencesBetween low (middle - 1) ++ byteSequencesBetween middle high
    else []
  | none => if low ≤ high then [(bytesOf low).zip (bytesOf high)] else []
termination_by high - low

/-- The sequences of a range of code points, of which surrogates are not written. -/
def byteSequences (low high : Nat) : List (List ByteRange) :=
  if low ≤ CodePoints.lastSurrogate ∧ CodePoints.firstSurrogate ≤ high then
    byteSequencesBetween low (min high (CodePoints.firstSurrogate - 1)) ++
      byteSequencesBetween (max low (CodePoints.lastSurrogate + 1)) high
  else byteSequencesBetween low high

end ServiceContract.Unicode
