import ServiceContract.Text.Blank

/-!
# Versions

Semantic versions: three numbers of at most 64 bits without superfluous zeros in front, then, if
wanted, a pre-release behind a dash and build metadata behind a plus, both lists of identifiers
between dots. Reading a version and writing it back gives the same text.
-/

namespace ServiceContract

/-- A semantic version. -/
structure Version where
  /-- The first number. -/
  major : Nat
  /-- The second number. -/
  minor : Nat
  /-- The third number. -/
  patch : Nat
  /-- What stands behind the dash; empty without one. -/
  preRelease : String
  /-- What stands behind the plus; empty without one. -/
  build : String
deriving DecidableEq, Repr

namespace Version

/-- The written form. -/
def text (v : Version) : String :=
  s!"{v.major}.{v.minor}.{v.patch}" ++
    (if v.preRelease = "" then "" else "-" ++ v.preRelease) ++
    (if v.build = "" then "" else "+" ++ v.build)

/-- A decimal digit. -/
def isDigit (c : Char) : Bool := c.isDigit

/-- A character of an identifier: a letter or digit of ASCII, or a dash. -/
def isIdentifierChar (c : Char) : Bool := c.isAlphanum || c == '-'

/-- A zero in front of other digits. -/
def hasLeadingZero : List Char → Bool
  | '0' :: _ :: _ => true
  | _ => false

/-- A number at the front of a text, below `2 ^ 64` and without a zero in front. -/
def number? (cs : List Char) : Option (Nat × List Char) :=
  let (digits, rest) := cs.span isDigit
  let n := digits.foldl (fun n c => n * 10 + (c.toNat - '0'.toNat)) 0
  if digits.isEmpty || hasLeadingZero digits || 18446744073709551616 ≤ n then none else some (n, rest)

/-- Identifiers between dots, none of them empty; a pre-release has no number with a zero in
front. -/
def areIdentifiers (zerosAllowed : Bool) (cs : List Char) : Bool :=
  (Text.splitAt '.' cs).all fun piece =>
    !piece.isEmpty && piece.all isIdentifierChar &&
      (zerosAllowed || !(piece.all isDigit && hasLeadingZero piece))

/-- The text behind a dot. -/
def dot? : List Char → Option (List Char)
  | '.' :: rest => some rest
  | _ => none

/-- The pre-release at the front of a text, and what follows it. -/
def preRelease? : List Char → Option (List Char × List Char)
  | '-' :: rest =>
    let (pre, rest) := rest.span (· ≠ '+')
    if areIdentifiers false pre then some (pre, rest) else none
  | rest => some ([], rest)

/-- The build metadata that makes up the rest of a text. -/
def build? : List Char → Option (List Char)
  | [] => some []
  | '+' :: rest => if areIdentifiers true rest then some rest else none
  | _ => none

/-- Reads a semantic version. -/
def ofText? (s : String) : Option Version := do
  let (major, cs) ← number? s.toList
  let (minor, cs) ← number? (← dot? cs)
  let (patch, cs) ← number? (← dot? cs)
  let (pre, cs) ← preRelease? cs
  let build ← build? cs
  return ⟨major, minor, patch, String.ofList pre, String.ofList build⟩

end Version

end ServiceContract
