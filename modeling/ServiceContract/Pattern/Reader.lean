import ServiceContract.Pattern.CharacterClass
import ServiceContract.Pattern.Footprint

/-!
# Reading patterns

The text of a pattern is read from left to right, one item at a time, with the groups that are open
on a stack. Flags can be set for the rest of a group and decide right away what an item means, so
the result needs no flags.

There are no look-around and no references back to a group; they are faults, like letters that are
escaped without a meaning, repetitions of nothing and braces that are not a repetition.
-/

namespace ServiceContract.Pattern

open Unicode (CodePoints)

/-! ## Groups and repetitions -/

/-- An item of a sequence. -/
structure Piece where
  /-- What it fits. -/
  expression : Expression
  /-- How deeply items lie inside it. -/
  depth : Nat
  /-- It is more than a setting of flags. -/
  repeatable : Bool

/-- A group whose end has not come yet. -/
structure OpenGroup where
  /-- The items before it, latest first. -/
  pieces : List Piece
  /-- The alternatives before it, latest first. -/
  alternatives : List Piece
  /-- The flags that hold behind it. -/
  flags : Flags
  /-- The number of the group, if it has one. -/
  number : Option Nat

/-- A pattern as it is being read. -/
structure State where
  /-- The pattern from here on. -/
  rest : List Char
  /-- The flags that hold here. -/
  flags : Flags
  /-- The items of the current alternative, latest first. -/
  pieces : List Piece
  /-- The alternatives before it in the innermost group, latest first. -/
  alternatives : List Piece
  /-- The open groups, innermost first. -/
  groups : List OpenGroup
  /-- The names of groups so far. -/
  names : List String
  /-- How many groups with a number there are so far. -/
  numbered : Nat

/-- The greatest depth of some items. -/
def depthOf (pieces : List Piece) : Nat := pieces.foldl (fun depth piece => max depth piece.depth) 0

/-- The current alternative as one item; a single item needs no sequence around it. -/
def State.sequence (state : State) : Piece :=
  match state.pieces with
  | [] => ⟨.empty, 0, true⟩
  | [piece] => piece
  | pieces => ⟨.concat (pieces.reverse.map Piece.expression), depthOf pieces + 1, true⟩

/-- The innermost group as one item. -/
def State.choice (state : State) : Piece :=
  match state.alternatives with
  | [] => state.sequence
  | alternatives =>
    let all := state.sequence :: alternatives
    ⟨.alternation (all.reverse.map Piece.expression), depthOf all + 1, true⟩

/-- Goes on behind an item. -/
def State.push (state : State) (piece : Piece) (rest : List Char) : State :=
  { state with rest, pieces := piece :: state.pieces }

/-- Goes on inside a group. -/
def State.openGroup (state : State) (flags : Flags) (number : Option Nat) (rest : List Char) :
    State :=
  { state with
    rest, flags, pieces := [], alternatives := []
    groups := ⟨state.pieces, state.alternatives, state.flags, number⟩ :: state.groups }

/-- Goes on inside a group that gets the next number. -/
def State.openNumbered (state : State) (rest : List Char) : State :=
  let number := state.numbered + 1
  { state.openGroup state.flags (some number) rest with numbered := number }

/-- Goes on behind a group. -/
def State.closeGroup (state : State) (rest : List Char) : Except Fault State :=
  match state.groups with
  | [] => .error .unopenedGroup
  | group :: groups =>
    let inner := state.choice
    let expression := match group.number with
      | some number => .group number inner.expression
      | none => inner.expression
    .ok { state with
      rest, flags := group.flags, alternatives := group.alternatives, groups
      pieces := ⟨expression, inner.depth + 1, true⟩ :: group.pieces }

/-- A character of the name of a group. -/
def isGroupNameChar (first : Bool) (c : Char) : Bool :=
  if c = '_' || Unicode.alphabetic.contains c.toNat then true
  else !first && (c ∈ ['.', '[', ']'] || Unicode.numeric.contains c.toNat)

/-- The name of a group up to its closing angle. -/
def groupName (names : List String) (text : List Char) : Except Fault (String × List Char) :=
  match text.span (· ≠ '>') with
  | (first :: name, '>' :: rest) =>
    let full := String.ofList (first :: name)
    if isGroupNameChar true first && name.all (isGroupNameChar false) && !(full ∈ names) then
      .ok (full, rest)
    else .error .badGroupName
  | _ => .error .badGroupName

/-- Sets the flag of a letter. -/
def Flags.set? (flags : Flags) (on : Bool) : Char → Option Flags
  | 'i' => some { flags with ignoreCase := on }
  | 'm' => some { flags with multiLine := on }
  | 's' => some { flags with dotAll := on }
  | 'U' => some { flags with lazy := on }
  | 'u' => some { flags with unicode := on }
  | 'R' => some { flags with anyEnding := on }
  | 'x' => some { flags with ignoreBlanks := on }
  | _ => none

/-- Flags up to a colon or a closing parenthesis, each at most once and the minus at most once and
not last. The letters met so far come with them, latest first. -/
def readFlags (flags : Flags) (on : Bool) (seen : List Char) :
    List Char → Except Fault (Flags × List Char × Char × List Char)
  | [] => .error .badFlags
  | c :: rest =>
    if c = ':' ∨ c = ')' then
      if seen.head? = some '-' then .error .badFlags else .ok (flags, seen, c, rest)
    else if c ∈ seen then .error .badFlags
    else if c = '-' then readFlags flags false (c :: seen) rest
    else
      match flags.set? on c with
      | some flags => readFlags flags on (c :: seen) rest
      | none => .error .badFlags

/-- What follows the opening parenthesis: a named or a plain group, a group with flags, or flags for
the rest of the group around. -/
def State.parenthesis (state : State) (text : List Char) : Except Fault State :=
  let text := state.flags.skip text
  match text with
  | '?' :: '=' :: _ | '?' :: '!' :: _ | '?' :: '<' :: '=' :: _ | '?' :: '<' :: '!' :: _ =>
    .error .lookAround
  | '?' :: 'P' :: '<' :: rest | '?' :: '<' :: rest => do
    let (name, rest) ← groupName state.names rest
    return { state.openNumbered rest with names := name :: state.names }
  | '?' :: rest => do
    let (flags, seen, close, rest) ← readFlags state.flags true [] rest
    if close = ':' then return state.openGroup flags none rest
    else if seen.isEmpty then throw .nothingToRepeat
    else return { state.push ⟨.empty, 0, false⟩ rest with flags }
  | text => .ok (state.openNumbered text)

/-- The mark of a lazy repetition, and the pattern behind it. -/
def lazyMark : List Char → Bool × List Char
  | '?' :: rest => (true, rest)
  | text => (false, text)

/-- Repeats the last item. -/
def State.repeatLast (state : State) (least : Nat) (most : Option Nat) (rest : List Char) :
    Except Fault State :=
  match state.pieces with
  | ⟨e, depth, true⟩ :: pieces =>
    let (marked, rest) := lazyMark rest
    let repeated := Expression.repetition e least most (marked == state.flags.lazy)
    .ok { state with rest, pieces := ⟨repeated, depth + 1, true⟩ :: pieces }
  | _ => .error .nothingToRepeat

/-- The digits of a count and the pattern behind them, without blanks and comments where these stand
for nothing. -/
def countDigits (flags : Flags) : (inComment : Bool) → List Char → List Char × List Char
  | _, [] => ([], [])
  | true, c :: rest => countDigits flags (c != '\n') rest
  | false, c :: rest =>
    if c.isDigit then
      let (digits, rest) := countDigits flags false rest
      (c :: digits, rest)
    else if flags.ignoreBlanks && Text.isWhiteSpace c then countDigits flags false rest
    else if flags.ignoreBlanks && c = '#' then countDigits flags true rest
    else ([], c :: rest)

/-- A count of a repetition below `2 ^ 32`, with white space around it. -/
def count (flags : Flags) (text : List Char) : Except Fault (Nat × List Char) :=
  let (digits, rest) := countDigits flags false (text.dropWhile Text.isWhiteSpace)
  let n := digits.foldl (fun n c => n * 10 + (c.toNat - '0'.toNat)) 0
  if digits.isEmpty || 4294967296 ≤ n then .error .badCount
  else .ok (n, flags.skip (rest.dropWhile Text.isWhiteSpace))

/-- A repetition in braces, behind the opening one. -/
def State.counted (state : State) (text : List Char) : Except Fault State := do
  let flags := state.flags
  if state.pieces.isEmpty then throw .nothingToRepeat
  let (least, rest) ← count flags (flags.skip text)
  let (most, rest) ← match rest with
    | ',' :: rest =>
      match flags.skip rest with
      | '}' :: rest => pure (none, rest)
      | rest =>
        match ← count flags rest with
        | (most, '}' :: rest) => pure (some most, rest)
        | _ => throw .badCount
    | '}' :: rest => pure (some least, rest)
    | _ => throw .badCount
  if most.any (· < least) then throw .badCount
  state.repeatLast least most (flags.skip rest)

/-- The item of any character of a set. -/
def setPiece (set : CodePoints) (depth : Nat) : Piece := ⟨.ofSet set, depth, true⟩

/-- The item of one character. -/
def Flags.characterPiece (flags : Flags) (c : Char) : Piece :=
  let set := CodePoints.single c.toNat
  setPiece (if flags.unicode || c.toNat < 0x80 then flags.fold set else set) 0

/-- The item of the dot: any character that does not end a line, or really any. -/
def Flags.dotPiece (flags : Flags) : Except Fault Piece :=
  let ends : CodePoints :=
    if flags.dotAll then [] else if flags.anyEnding then [(0x0a, 0x0a), (0x0d, 0x0d)]
    else [(0x0a, 0x0a)]
  if flags.unicode then .ok (setPiece (ends.complement CodePoints.lastCodePoint) 0)
  else .error .notText

/-- The condition of the anchor for a start. -/
def Flags.startAnchor (flags : Flags) : Assertion :=
  if flags.multiLine then if flags.anyEnding then .lineStartAnyEnding else .lineStart
  else .textStart

/-- The condition of the anchor for an end. -/
def Flags.endAnchor (flags : Flags) : Assertion :=
  if flags.multiLine then if flags.anyEnding then .lineEndAnyEnding else .lineEnd
  else .textEnd

/-- The item of an escape. -/
def Flags.atomPiece (flags : Flags) : Atom → Except Fault Piece
  | .literal c => .ok (flags.characterPiece c)
  | .byte c => if flags.unicode then .ok (flags.characterPiece c) else .error .notText
  | .members set => .ok (setPiece set 0)
  | .condition a => .ok ⟨.assertion a, 0, true⟩

/-- Reads the next item; `none` at the end of the pattern. The bound is at least the length of the
pattern that is left. -/
def State.step (bound : Nat) (state : State) : Except Fault (Option State) := do
  let flags := state.flags
  match flags.skip state.rest with
  | [] => return none
  | '(' :: rest => return some (← state.parenthesis rest)
  | ')' :: rest => return some (← state.closeGroup rest)
  | '|' :: rest =>
    return some { state with
      rest, pieces := [], alternatives := state.sequence :: state.alternatives }
  | '[' :: rest =>
    let (set, depth, rest) ← bracketSet flags bound rest
    return some (state.push (setPiece set depth) rest)
  | '?' :: rest => return some (← state.repeatLast 0 (some 1) rest)
  | '*' :: rest => return some (← state.repeatLast 0 none rest)
  | '+' :: rest => return some (← state.repeatLast 1 none rest)
  | '{' :: rest => return some (← state.counted rest)
  | '\\' :: rest =>
    let (atom, rest) ← escape flags rest
    return some (state.push (← flags.atomPiece atom) rest)
  | '.' :: rest => return some (state.push (← flags.dotPiece) rest)
  | '^' :: rest => return some (state.push ⟨.assertion flags.startAnchor, 0, true⟩ rest)
  | '$' :: rest => return some (state.push ⟨.assertion flags.endAnchor, 0, true⟩ rest)
  | c :: rest => return some (state.push (flags.characterPiece c) rest)

/-- Reads items to the end; every one takes a character, so the length of the pattern bounds their
number. -/
def State.run : Nat → State → Except Fault State
  | 0, state => .ok state
  | bound + 1, state => do
    match ← state.step (bound + 1) with
    | some state => state.run bound
    | none => return state

/-- How deeply items may lie inside one another. -/
def nestLimit : Nat := 250

/-- Reads a pattern. -/
def read (text : String) : Except Fault Expression := do
  let cs := text.toList
  let state ← State.run (cs.length + 1) ⟨cs, .start, [], [], [], [], 0⟩
  if !state.groups.isEmpty then throw .unclosedGroup
  let whole := state.choice
  if nestLimit < whole.depth then throw .nestingTooDeep
  if !whole.expression.isCompact then throw .tooLarge
  return whole.expression

end ServiceContract.Pattern
