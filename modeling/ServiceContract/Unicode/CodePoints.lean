/-!
# Sets of code points

A set of characters is a list of closed ranges of code points, ascending and with gaps between
them. Sets are put together by collecting ranges in any order and merging them once; a complement
is taken within a given last code point, which is that of Unicode or of the single bytes.

The surrogates lie between the characters and are none. A range may run across them, but it neither
starts nor ends there, and two ranges that meet at them stay apart.
-/

namespace ServiceContract.Unicode

/-- Closed ranges of code points. -/
abbrev CodePoints := List (Nat × Nat)

namespace CodePoints

/-- The last code point of Unicode. -/
def lastCodePoint : Nat := 0x10ffff

/-- The first code point that is no character. -/
def firstSurrogate : Nat := 0xd800

/-- The last code point below `lastCodePoint` that is no character. -/
def lastSurrogate : Nat := 0xdfff

/-- The code point is no character. -/
def isSurrogate (n : Nat) : Bool := firstSurrogate ≤ n && n ≤ lastSurrogate

/-- The code point lies in one of the ranges. -/
def contains (set : CodePoints) (n : Nat) : Bool := set.any fun (low, high) => low ≤ n && n ≤ high

/-- Merges ranges that touch or overlap; the ranges come in ascending order of their starts. -/
def merge : CodePoints → CodePoints
  | [] => []
  | range :: rest => go range rest
where
  /-- Merges into the range at hand what starts in it or right behind it. -/
  go (range : Nat × Nat) : CodePoints → CodePoints
    | [] => [range]
    | next :: rest =>
      if next.1 ≤ range.2 + 1 then go (range.1, max range.2 next.2) rest
      else range :: go next rest

/-- The set of all code points in some ranges, given in any order. -/
def ofRanges (ranges : List (Nat × Nat)) : CodePoints :=
  merge (ranges.mergeSort fun a b => a.1 ≤ b.1)

/-- The set of one code point. -/
def single (n : Nat) : CodePoints := [(n, n)]

/-- What is in one set or the other. -/
def union (a b : CodePoints) : CodePoints := ofRanges (a ++ b)

/-- What is in both sets. -/
def inter (a b : CodePoints) : CodePoints :=
  ofRanges (a.flatMap fun (low, high) =>
    b.filterMap fun (low', high') =>
      if max low low' ≤ min high high' then some (max low low', min high high') else none)

/-! ## Complements -/

/-- The gaps before, between and behind the ranges, from a first to a last code point. -/
def gapsFrom (start last : Nat) : CodePoints → CodePoints
  | [] => if start ≤ last then [(start, last)] else []
  | (low, high) :: rest =>
    (if start < low then [(start, low - 1)] else []) ++ gapsFrom (high + 1) last rest

/-- A range without the surrogates at its ends. The second part is not below the first unless no
character was in the range. -/
def trimSurrogates (range : Nat × Nat) : Nat × Nat :=
  (if isSurrogate range.1 then lastSurrogate + 1 else range.1,
    if isSurrogate range.2 then firstSurrogate - 1 else range.2)

/-- What is in the first set and not in the second. -/
def diff (a b : CodePoints) : CodePoints :=
  ((a.inter (gapsFrom 0 lastCodePoint b)).map trimSurrogates).filter fun (low, high) => low ≤ high

/-- What is in exactly one of the sets. -/
def symmDiff (a b : CodePoints) : CodePoints := diff (union a b) (inter a b)

/-- What is not in the set, up to a last code point. A gap of surrogates alone has no character of
its own and stands for the two characters beside it. -/
def complement (last : Nat) (set : CodePoints) : CodePoints :=
  (gapsFrom 0 last set).map fun gap =>
    let (low, high) := trimSurrogates gap
    (min low high, max low high)

/-! ## Tables -/

/-- The number that hexadecimal digits stand for. -/
def hexNumber (cs : List Char) : Nat :=
  cs.foldl (fun n c =>
    n * 16 + (if c.isDigit then c.toNat - '0'.toNat else c.toNat - 'a'.toNat + 10)) 0

/-- Reads ranges such as "41-5a aa", hexadecimal with blanks or line ends between them. -/
def ofTable (table : String) : CodePoints :=
  (words table.toList).map fun word =>
    match word.span (· ≠ '-') with
    | (low, _ :: high) => (hexNumber low, hexNumber high)
    | (low, []) => (hexNumber low, hexNumber low)
where
  /-- The words between blanks and line ends. -/
  words (cs : List Char) : List (List Char) :=
    let step := fun c (acc : List Char × List (List Char)) =>
      if c = ' ' ∨ c = '\n' then ([], if acc.1.isEmpty then acc.2 else acc.1 :: acc.2)
      else (c :: acc.1, acc.2)
    let (word, done) := cs.foldr step ([], [])
    if word.isEmpty then done else word :: done

/-- Reads the ranges of the entry that goes by a name. -/
def ofNamedTable? (entries : List (List String × String)) (name : String) : Option CodePoints :=
  (entries.find? fun (names, _) => name ∈ names).map fun (_, table) => ofTable table

end CodePoints

end ServiceContract.Unicode
