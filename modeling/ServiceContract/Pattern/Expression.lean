import ServiceContract.Unicode.Property

/-!
# Pattern expressions

What fits a stretch of a text. Expressions are put together by functions that keep them in a simple
form: a sequence holds no sequence, nothing empty and no two literals in a row (`Expression.concat`),
a choice holds no choice and is a set of characters if its alternatives are
(`Expression.alternation`), and what takes no character is repeated at most once
(`Expression.repetition`). The simple form decides how large a pattern becomes when it is compiled.

A pattern is only ever asked whether it fits somewhere in a text, so the greed of a repetition and
the number of a group leave no trace in the answer. They do tell expressions apart.
-/

namespace ServiceContract.Pattern

open Unicode (CodePoints)

/-- A condition on the place between two characters. -/
inductive Assertion where
  /-- The start of the text. -/
  | textStart
  /-- The end of the text. -/
  | textEnd
  /-- The start of a line. -/
  | lineStart
  /-- The end of a line. -/
  | lineEnd
  /-- The start of a line where carriage return and line feed end one together or alone. -/
  | lineStartAnyEnding
  /-- The end of a line where carriage return and line feed end one together or alone. -/
  | lineEndAnyEnding
  /-- A word character on exactly one side. -/
  | wordBoundary (unicode : Bool)
  /-- A word character on both sides or on none. -/
  | noWordBoundary (unicode : Bool)
  /-- A word character behind the place and none before it. -/
  | wordStart (unicode : Bool)
  /-- A word character before the place and none behind it. -/
  | wordEnd (unicode : Bool)
  /-- No word character before the place. -/
  | wordStartHalf (unicode : Bool)
  /-- No word character behind the place. -/
  | wordEndHalf (unicode : Bool)
deriving DecidableEq, Repr

/-- What fits a stretch of text. -/
inductive Expression where
  /-- No character, anywhere. -/
  | empty
  /-- Some characters in a row. -/
  | literal (text : List Char)
  /-- One character out of a set. -/
  | character (set : CodePoints)
  /-- No character, at a place with a property. -/
  | assertion (condition : Assertion)
  /-- The same several times, with a least and perhaps a most number. -/
  | repeated (part : Expression) (least : Nat) (most : Option Nat) (greedy : Bool)
  /-- A part that has a number. -/
  | group (number : Nat) (part : Expression)
  /-- One behind the other. -/
  | sequence (parts : List Expression)
  /-- Any one of them. -/
  | choice (alternatives : List Expression)
deriving Repr

/-! ## Shapes -/

/-- What is known of all fits of an expression. -/
structure Shape where
  /-- The fewest characters that a fit takes; `none` if some part never fits. -/
  least : Option Nat
  /-- The most characters that a fit takes, if there is such a number. -/
  most : Option Nat
  /-- A fit starts only at the start of the text. -/
  atStart : Bool
  /-- A fit ends only at the end of the text. -/
  atEnd : Bool
deriving DecidableEq, Repr

namespace Shape

/-- A number of characters. -/
def ofLength (n : Nat) : Shape := ⟨some n, some n, false, false⟩

/-- What is never there. -/
def never : Shape := ⟨none, none, false, false⟩

/-- One behind the other. -/
def append (a b : Shape) : Shape where
  least := do return (← a.least) + (← b.least)
  most := do return (← a.most) + (← b.most)
  atStart := a.atStart || (a.most == some 0 && b.atStart)
  atEnd := b.atEnd || (b.most == some 0 && a.atEnd)

/-- One or the other. -/
def either (a b : Shape) : Shape where
  least := do return min (← a.least) (← b.least)
  most := do return max (← a.most) (← b.most)
  atStart := a.atStart && b.atStart
  atEnd := a.atEnd && b.atEnd

/-- The same several times. -/
def times (a : Shape) (least : Nat) (most : Option Nat) : Shape where
  least := a.least.map (· * least)
  most := do return (← a.most) * (← most)
  atStart := least != 0 && a.atStart
  atEnd := least != 0 && a.atEnd

end Shape

namespace Expression

mutual

/-- The shape of an expression. -/
def shape : Expression → Shape
  | .empty => .ofLength 0
  | .literal text => .ofLength text.length
  | .character set => if set.isEmpty then .never else .ofLength 1
  | .assertion condition => ⟨some 0, some 0, condition == .textStart, condition == .textEnd⟩
  | .repeated part least most _ => part.shape.times least most
  | .group _ part => part.shape
  | .sequence parts => shapeOfSequence (.ofLength 0) parts
  | .choice alternatives => (shapeOfChoice none alternatives).getD .never
termination_by structural e => e

/-- The shape of parts in a row behind others. -/
def shapeOfSequence (before : Shape) : List Expression → Shape
  | [] => before
  | part :: rest => shapeOfSequence (before.append part.shape) rest
termination_by structural parts => parts

/-- The shape of alternatives with those before them, if there are any. -/
def shapeOfChoice (before : Option Shape) : List Expression → Option Shape
  | [] => before
  | alternative :: rest =>
    let shape := alternative.shape
    shapeOfChoice (some ((before.map (·.either shape)).getD shape)) rest
termination_by structural alternatives => alternatives

end

/-! ## Equality -/

mutual

/-- Two expressions are the same. -/
def same : Expression → Expression → Bool
  | .empty, .empty => true
  | .literal a, .literal b => a == b
  | .character a, .character b => a == b
  | .assertion a, .assertion b => a == b
  | .repeated a least most greedy, .repeated b least' most' greedy' =>
    least == least' && most == most' && greedy == greedy' && a.same b
  | .group n a, .group m b => n == m && a.same b
  | .sequence a, .sequence b => allSame a b
  | .choice a, .choice b => allSame a b
  | _, _ => false
termination_by structural e => e

/-- Two lists hold the same expressions. -/
def allSame : List Expression → List Expression → Bool
  | [], [] => true
  | a :: as, b :: bs => a.same b && allSame as bs
  | _, _ => false
termination_by structural es => es

end

/-! ## Putting expressions together -/

/-- Any character of a set. -/
def ofSet : CodePoints → Expression
  | [(low, high)] => if low = high then .literal [Char.ofNat low] else .character [(low, high)]
  | set => .character set

/-- Joins literals in a row. -/
def joinLiterals (parts : List Expression) : List Expression :=
  parts.foldr (fun part rest =>
    match part, rest with
    | .literal a, .literal b :: rest => .literal (a ++ b) :: rest
    | part, rest => part :: rest) []

/-- One behind the other. -/
def concat (parts : List Expression) : Expression :=
  let flat := parts.flatMap fun
    | .sequence inner => inner
    | .empty => []
    | part => [part]
  match joinLiterals flat with
  | [] => .empty
  | [part] => part
  | parts => .sequence parts

/-- The characters of an expression that is a single one. -/
def singleCharacter? : Expression → Option (Nat × Nat)
  | .literal [c] => some (c.toNat, c.toNat)
  | _ => none

/-- The set of an expression that is one. -/
def characterSet? : Expression → Option CodePoints
  | .character set => some set
  | _ => none

/-- The parts of an expression that is a sequence. -/
def sequenceParts? : Expression → Option (List Expression)
  | .sequence parts => some parts
  | _ => none

/-- The alternatives with those of choices among them in their place. -/
def flattenChoices (alternatives : List Expression) : List Expression :=
  alternatives.flatMap fun
    | .choice inner => inner
    | alternative => [alternative]

/-- Any one of them, where they have nothing in common. -/
def choiceOf (alternatives : List Expression) : Expression :=
  match flattenChoices alternatives with
  | [] => .character []
  | [alternative] => alternative
  | flat =>
    match flat.mapM singleCharacter?, flat.mapM characterSet? with
    | some ranges, _ => ofSet (CodePoints.ofRanges ranges)
    | none, some sets => ofSet (CodePoints.ofRanges sets.flatten)
    | none, none => .choice flat

/-- The parts with which two sequences start. -/
def commonStart : List Expression → List Expression → List Expression
  | a :: as, b :: bs => if a.same b then a :: commonStart as bs else []
  | _, _ => []

/-- Any one of them. Alternatives that start with the same parts share these. -/
def alternation (alternatives : List Expression) : Expression :=
  match choiceOf alternatives with
  | .choice flat =>
    match flat.mapM sequenceParts? with
    | some (first :: others) =>
      match others.foldl commonStart first with
      | [] => .choice flat
      | start =>
        let ends := (first :: others).map fun parts => concat (parts.drop start.length)
        concat (start ++ [choiceOf ends])
    | _ => .choice flat
  | simple => simple

/-- The same several times. What takes no character does nothing after the first time. -/
def repetition (part : Expression) (least : Nat) (most : Option Nat) (greedy : Bool) :
    Expression :=
  let (least, most) :=
    if part.shape.most = some 0 then (min least 1, some (min (most.getD 1) 1)) else (least, most)
  if least = 0 ∧ most = some 0 then .empty
  else if least = 1 ∧ most = some 1 then part
  else .repeated part least most greedy

end Expression

end ServiceContract.Pattern
