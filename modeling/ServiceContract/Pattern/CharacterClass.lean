import ServiceContract.Pattern.Expression
import ServiceContract.Pattern.Flags
import ServiceContract.Unicode.Age
import ServiceContract.Unicode.CaseFolding
import ServiceContract.Unicode.Script
import ServiceContract.Unicode.Segmentation

/-!
# Escapes and sets of characters

What a pattern says of a single character or a single place: escapes with a letter, by a code point
or by a property, and sets of characters between brackets. Sets are read by a machine of their own,
which has its own stack for sets inside sets and for set operators.
-/

namespace ServiceContract.Pattern

open Unicode (CodePoints)

/-! ## Classes -/

/-- The three classes that have a letter of their own. -/
inductive LetterClass where
  /-- Decimal digits. -/
  | digit
  /-- White space. -/
  | space
  /-- Word characters. -/
  | word

/-- The class of a letter. -/
def letterClass? (letter : Char) : Option LetterClass :=
  match letter.toLower with
  | 'd' => some .digit
  | 's' => some .space
  | 'w' => some .word
  | _ => none

/-- The characters of a class, of Unicode or of ASCII. -/
def LetterClass.characters (unicode : Bool) : LetterClass → CodePoints
  | .digit => if unicode then Unicode.decimalDigits else [(0x30, 0x39)]
  | .space => if unicode then Unicode.whiteSpace else [(0x09, 0x0d), (0x20, 0x20)]
  | .word => if unicode then Unicode.wordCharacters else Unicode.asciiWordCharacters

/-- The classes of ASCII that are named inside a set. -/
def namedClass? (name : String) : Option CodePoints :=
  [("alnum", [(0x30, 0x39), (0x41, 0x5a), (0x61, 0x7a)]),
    ("alpha", [(0x41, 0x5a), (0x61, 0x7a)]),
    ("ascii", [(0x00, 0x7f)]),
    ("blank", [(0x09, 0x09), (0x20, 0x20)]),
    ("cntrl", [(0x00, 0x1f), (0x7f, 0x7f)]),
    ("digit", [(0x30, 0x39)]),
    ("graph", [(0x21, 0x7e)]),
    ("lower", [(0x61, 0x7a)]),
    ("print", [(0x20, 0x7e)]),
    ("punct", [(0x21, 0x2f), (0x3a, 0x40), (0x5b, 0x60), (0x7b, 0x7e)]),
    ("space", [(0x09, 0x0d), (0x20, 0x20)]),
    ("upper", [(0x41, 0x5a)]),
    ("word", Unicode.asciiWordCharacters),
    ("xdigit", [(0x30, 0x39), (0x41, 0x46), (0x61, 0x66)])].lookup name

/-- The last member that a set can have. -/
def Flags.last (flags : Flags) : Nat := if flags.unicode then CodePoints.lastCodePoint else 0xff

/-- A set closed under the other case, if case is ignored. -/
def Flags.fold (flags : Flags) (set : CodePoints) : CodePoints :=
  if flags.ignoreCase then
    if flags.unicode then set.caseClosure else set.asciiCaseClosure
  else set

/-- A set, or what is not in it. Without Unicode a set stands for bytes, and only those of ASCII are
text by themselves. -/
def Flags.negate (flags : Flags) (negated : Bool) (set : CodePoints) : Except Fault CodePoints :=
  let set := if negated then set.complement flags.last else set
  if flags.unicode || set.all fun (_, high) => high < 0x80 then .ok set else .error .notText

/-! ### Properties -/

/-- A name without case, blanks, dashes, underscores and a leading "is". -/
def normalName (name : List Char) : String :=
  let isPrefixed := match name with
    | i :: s :: _ => i.toLower = 'i' && s.toLower = 's'
    | _ => false
  let rest := (if isPrefixed then name.drop 2 else name).filter fun c =>
    c.toNat < 0x80 && !(c = ' ' || c = '_' || c = '-')
  let short := String.ofList (rest.map Char.toLower)
  if isPrefixed && short = "c" then "isc" else short

/-- The characters of a property, a category or a script. Three short names of categories are also
names of other things, which do not stand for a set. -/
def classOfName? (name : List Char) : Option CodePoints :=
  let name := normalName name
  let plain := if name ∈ ["cf", "sc", "lc"] then none else Unicode.property? name
  plain.or ((Unicode.generalCategory? name).or ((Unicode.script? name).map Unicode.Script.characters))

/-- The characters for which a property has a value. -/
def classOfValue? (name value : List Char) : Option CodePoints :=
  let value := normalName value
  match normalName name with
  | "gc" | "generalcategory" => Unicode.generalCategory? value
  | "sc" | "script" => (Unicode.script? value).map Unicode.Script.characters
  | "scx" | "scriptextensions" => (Unicode.script? value).map Unicode.Script.extendedCharacters
  | "age" => Unicode.age? value
  | "gcb" | "graphemeclusterbreak" => Unicode.graphemeBreak? value
  | "wb" | "wordbreak" => Unicode.wordBreak? value
  | "sb" | "sentencebreak" => Unicode.sentenceBreak? value
  | _ => none

/-- What stands before and behind two characters in a row. -/
def cutAtPair (a b : Char) : List Char → Option (List Char × List Char)
  | [] => none
  | [_] => none
  | c :: d :: rest =>
    if c = a ∧ d = b then some ([], rest)
    else (cutAtPair a b (d :: rest)).map fun (before, behind) => (c :: before, behind)

/-- The characters that the words between the braces of a property escape name, and whether the
words ask for all others. -/
def classOfBraces? (words : List Char) : Option (CodePoints × Bool) :=
  match cutAtPair '!' '=' words with
  | some (name, value) => (classOfValue? name value).map (·, true)
  | none =>
    match (Text.cutAt ':' words).or (Text.cutAt '=' words) with
    | some (name, value) => (classOfValue? name value).map (·, false)
    | none => (classOfName? words).map (·, false)

/-! ## Escapes -/

/-- What an escape, or a character without one, stands for. -/
inductive Atom where
  /-- One character. -/
  | literal (c : Char)
  /-- A byte beyond ASCII, written with two hexadecimal digits. -/
  | byte (c : Char)
  /-- Any of a set, which case does not change any more. -/
  | members (set : CodePoints)
  /-- A condition on a place. -/
  | condition (a : Assertion)

/-- A hexadecimal digit. -/
def isHexDigit (c : Char) : Bool :=
  c.isDigit || ('a' ≤ c && c ≤ 'f') || ('A' ≤ c && c ≤ 'F')

/-- The character of a code point written in hexadecimal digits. -/
def hexCharacter? (digits : List Char) : Except Fault Char :=
  let n := CodePoints.hexNumber (digits.map Char.toLower)
  if h : n.isValidChar then .ok (Char.ofNatAux n h) else .error .badEscape

/-- A number of hexadecimal digits, with what may stand between them. -/
def hexDigits (flags : Flags) : Nat → List Char → Except Fault (List Char × List Char)
  | 0, text => .ok ([], text)
  | _ + 1, [] => .error .badEscape
  | count + 1, c :: rest =>
    if isHexDigit c then do
      let (digits, rest) ← hexDigits flags count (flags.skip rest)
      return (c :: digits, rest)
    else .error .badEscape

/-- Characters up to a closing brace, without blanks and comments between them where these stand for
nothing. -/
def upToBrace (flags : Flags) : (inComment : Bool) → List Char → Option (List Char × List Char)
  | _, [] => none
  | true, c :: rest => upToBrace flags (c != '\n') rest
  | false, c :: rest =>
    if c = '}' then some ([], rest)
    else if flags.ignoreBlanks && Text.isWhiteSpace c then upToBrace flags false rest
    else if flags.ignoreBlanks && c = '#' then upToBrace flags true rest
    else (upToBrace flags false rest).map fun (cs, rest) => (c :: cs, rest)

/-- The escape of a code point behind its letter. -/
def hexEscape (flags : Flags) (letter : Char) (text : List Char) :
    Except Fault (Atom × List Char) := do
  match flags.skip text with
  | [] => throw .badEscape
  | '{' :: rest =>
    match upToBrace flags false rest with
    | none => throw .badEscape
    | some (digits, rest) =>
      if digits.isEmpty || !digits.all isHexDigit then throw .badEscape
      return (.literal (← hexCharacter? digits), flags.skip rest)
  | rest =>
    let count := match letter with
      | 'x' => 2
      | 'u' => 4
      | _ => 8
    let (digits, rest) ← hexDigits flags count rest
    let c ← hexCharacter? digits
    return (if count = 2 ∧ 0x80 ≤ c.toNat then .byte c else .literal c, rest)

/-- The escape of a property behind its letter. -/
def propertyEscape (flags : Flags) (letter : Char) (text : List Char) :
    Except Fault (Atom × List Char) := do
  let (set, rest) ← match flags.skip text with
    | [] => throw .badEscape
    | '{' :: rest =>
      match upToBrace flags false rest with
      | none => throw .badEscape
      | some (words, rest) => pure (classOfBraces? words, rest)
    | '\\' :: _ => throw .badEscape
    | c :: rest => pure ((classOfName? [c]).map (·, false), flags.skip rest)
  if !flags.unicode then throw .unicodeOff
  match set with
  | none => throw .unknownProperty
  | some (set, others) =>
    return (.members (← flags.negate ((letter == 'P') != others) (flags.fold set)), rest)

/-- A character of the names of word boundaries. -/
def isBoundaryNameChar (c : Char) : Bool := c.isAlpha || c = '-'

/-- Word boundaries can be told more closely by a name in braces; braces that cannot hold a name are
left to be a count. -/
def boundaryEscape (flags : Flags) (text : List Char) : Except Fault (Atom × List Char) :=
  let plain := .ok (.condition (.wordBoundary flags.unicode), text)
  match text with
  | '{' :: rest =>
    match flags.skip rest with
    | [] => .error .badCount
    | c :: rest =>
      if isBoundaryNameChar c then
        match upToBrace flags false (c :: rest) with
        | none => .error .badEscape
        | some (name, rest) =>
          match String.ofList name with
          | "start" => .ok (.condition (.wordStart flags.unicode), rest)
          | "end" => .ok (.condition (.wordEnd flags.unicode), rest)
          | "start-half" => .ok (.condition (.wordStartHalf flags.unicode), rest)
          | "end-half" => .ok (.condition (.wordEndHalf flags.unicode), rest)
          | _ => .error .badEscape
      else plain
  | _ => plain

/-- An escape behind its backslash. -/
def escape (flags : Flags) (text : List Char) : Except Fault (Atom × List Char) :=
  match text with
  | [] => .error .badEscape
  | c :: rest =>
    if c ∈ ['x', 'u', 'U'] then hexEscape flags c rest
    else if c ∈ ['p', 'P'] then propertyEscape flags c rest
    else
      match c, letterClass? c with
      | _, some cls => do
        return (.members (← flags.negate c.isUpper (cls.characters flags.unicode)), rest)
      | 'a', _ => .ok (.literal '\x07', rest)
      | 'f', _ => .ok (.literal '\x0c', rest)
      | 't', _ => .ok (.literal '\t', rest)
      | 'n', _ => .ok (.literal '\n', rest)
      | 'r', _ => .ok (.literal '\r', rest)
      | 'v', _ => .ok (.literal '\x0b', rest)
      | 'A', _ => .ok (.condition .textStart, rest)
      | 'z', _ => .ok (.condition .textEnd, rest)
      | 'b', _ => boundaryEscape flags rest
      | 'B', _ => .ok (.condition (.noWordBoundary flags.unicode), rest)
      | '<', _ => .ok (.condition (.wordStart flags.unicode), rest)
      | '>', _ => .ok (.condition (.wordEnd flags.unicode), rest)
      | c, _ =>
        if c.toNat < 0x80 ∧ !c.isAlphanum then .ok (.literal c, rest) else .error .badEscape

/-! ## Sets of characters -/

/-- What has been collected between brackets. -/
structure Collected where
  /-- The ranges, in no order. -/
  ranges : CodePoints
  /-- How many items they come from. -/
  count : Nat
  /-- How deeply sets lie inside one another. -/
  depth : Nat

namespace Collected

/-- Nothing. -/
def none : Collected := ⟨[], 0, 0⟩

/-- Adds an item. -/
def add (items : Collected) (ranges : CodePoints) (depth : Nat) : Collected :=
  ⟨ranges ++ items.ranges, items.count + 1, max items.depth depth⟩

/-- The depth with the collection itself, which counts from two items on. -/
def fullDepth (items : Collected) : Nat :=
  if items.count < 2 then items.depth else items.depth + 1

end Collected

/-- The operators between sets. -/
inductive SetOperator where
  /-- What is in both. -/
  | intersection
  /-- What is in the left and not in the right one. -/
  | difference
  /-- What is in exactly one. -/
  | symmetricDifference

/-- Applies an operator. -/
def SetOperator.apply : SetOperator → CodePoints → CodePoints → CodePoints
  | .intersection => CodePoints.inter
  | .difference => CodePoints.diff
  | .symmetricDifference => CodePoints.symmDiff

/-- What waits while a set or an operand is being collected. -/
inductive SetFrame where
  /-- A set was opened; the items before it and whether it is negated. -/
  | opened (outer : Collected) (negated : Bool)
  /-- An operator was met; its left operand. -/
  | operator (op : SetOperator) (left : Collected)

/-- A set as it is being read. -/
structure SetState where
  /-- The pattern from here on. -/
  rest : List Char
  /-- The items of the innermost set or operand. -/
  items : Collected
  /-- What waits, innermost first. -/
  frames : List SetFrame

/-- Takes an operand to the operator that waits for it, if one does. -/
def applyOperator (flags : Flags) (items : Collected) : List SetFrame → Collected × List SetFrame
  | .operator op left :: frames =>
    let a := flags.fold (CodePoints.ofRanges left.ranges)
    let b := flags.fold (CodePoints.ofRanges items.ranges)
    (⟨op.apply a b, 1, max left.fullDepth items.fullDepth + 1⟩, frames)
  | frames => (items, frames)

/-- Starts the right operand of an operator. -/
def SetState.operate (flags : Flags) (state : SetState) (op : SetOperator) (rest : List Char) :
    SetState :=
  let (left, frames) := applyOperator flags state.items state.frames
  ⟨rest, .none, .operator op left :: frames⟩

/-- Dashes at the start of a set stand for themselves. -/
def leadingDashes (flags : Flags) : Nat → List Char → Collected → List Char × Collected
  | 0, text, items => (text, items)
  | bound + 1, text, items =>
    match text with
    | '-' :: rest =>
      leadingDashes flags bound (flags.skip rest) (items.add (CodePoints.single '-'.toNat) 0)
    | text => (text, items)

/-- Opens a set behind its bracket. A closing bracket that comes first stands for itself. The bound is
at least the length of the pattern that is left. -/
def SetState.openSet (flags : Flags) (bound : Nat) (state : SetState) (text : List Char) :
    Except Fault SetState := do
  let text := flags.skip text
  let (negated, text) := match text with
    | '^' :: rest => (true, flags.skip rest)
    | text => (false, text)
  let (text, items) := leadingDashes flags bound text .none
  let (text, items) := match text, items.count with
    | ']' :: rest, 0 => (flags.skip rest, items.add (CodePoints.single ']'.toNat) 0)
    | text, _ => (text, items)
  if text.isEmpty then throw .unclosedSet
  return ⟨text, items, .opened state.items negated :: state.frames⟩

/-- A named class at a bracket inside a set: its characters, whether it is negated, and the pattern
behind it. -/
def namedClassAt? (text : List Char) : Option (CodePoints × Bool × List Char) :=
  match text with
  | ':' :: rest =>
    let (negated, rest) := match rest with
      | '^' :: rest => (true, rest)
      | rest => (false, rest)
    match rest.span (· ≠ ':') with
    | (name, ':' :: ']' :: rest) =>
      (namedClass? (String.ofList name)).map fun set => (set, negated, rest)
    | _ => none
  | _ => none

/-- One item of a set, with or without a backslash. -/
def setAtom (flags : Flags) : List Char → Except Fault (Atom × List Char)
  | [] => .error .unclosedSet
  | '\\' :: rest => escape flags rest
  | c :: rest => .ok (.literal c, rest)

/-- The code of a character in a set, which without Unicode is a byte. -/
def Flags.setMember (flags : Flags) (c : Char) : Except Fault Nat :=
  if flags.unicode || c.toNat < 0x80 then .ok c.toNat else .error .unicodeOff

/-- The character that an end of a range stands for. -/
def Flags.rangeEnd (flags : Flags) : Atom → Except Fault Nat
  | .literal c => flags.setMember c
  | .byte c => if flags.unicode then .ok c.toNat else .error .notText
  | _ => .error .badRange

/-- The members that an item of a set stands for. -/
def Flags.membersOf (flags : Flags) : Atom → Except Fault CodePoints
  | .members set => .ok set
  | .condition _ => .error .badEscape
  | atom => do return CodePoints.single (← flags.rangeEnd atom)

/-- An item of a set or a range of characters. A dash before the closing bracket stands for itself,
and two dashes are an operator. -/
def setRange (flags : Flags) (text : List Char) : Except Fault (CodePoints × List Char) := do
  let (first, rest) ← setAtom flags text
  let rest := flags.skip rest
  match rest with
  | [] => throw .unclosedSet
  | '-' :: behind =>
    let ahead := flags.lookAhead behind
    if ahead = some ']' ∨ ahead = some '-' then return (← flags.membersOf first, rest)
    match flags.skip behind with
    | [] => throw .unclosedSet
    | behind =>
      let (second, rest) ← setAtom flags behind
      let low ← flags.rangeEnd first
      let high ← flags.rangeEnd second
      if high < low then throw .badRange
      return ([(low, high)], rest)
  | _ => return (← flags.membersOf first, rest)

/-- A step of reading a set: the next state, or the finished set with its depth. -/
def SetState.step (flags : Flags) (bound : Nat) (state : SetState) :
    Except Fault (SetState ⊕ (CodePoints × Nat × List Char)) := do
  match flags.skip state.rest with
  | [] => throw .unclosedSet
  | '[' :: rest =>
    match namedClassAt? rest with
    | some (set, negated, rest) =>
      let set ← flags.negate negated (flags.fold set)
      return .inl { state with rest, items := state.items.add set 0 }
    | none => return .inl (← state.openSet flags bound rest)
  | ']' :: rest =>
    let (items, frames) := applyOperator flags state.items state.frames
    match frames with
    | .opened outer negated :: frames =>
      let set ← flags.negate negated (flags.fold (CodePoints.ofRanges items.ranges))
      let depth := items.fullDepth + 1
      if frames.isEmpty then return .inr (set, depth, rest)
      else return .inl ⟨rest, outer.add set depth, frames⟩
    | _ => throw .unclosedSet
  | '&' :: '&' :: rest => return .inl (state.operate flags .intersection rest)
  | '-' :: '-' :: rest => return .inl (state.operate flags .difference rest)
  | '~' :: '~' :: rest => return .inl (state.operate flags .symmetricDifference rest)
  | text =>
    let (set, rest) ← setRange flags text
    return .inl { state with rest, items := state.items.add set 0 }

/-- Reads a set to its end; every step takes a character, so the length of the pattern bounds their
number. -/
def SetState.run (flags : Flags) : Nat → SetState → Except Fault (CodePoints × Nat × List Char)
  | 0, _ => .error .unclosedSet
  | bound + 1, state => do
    match ← state.step flags bound with
    | .inl state => state.run flags bound
    | .inr result => return result

/-- A set behind its opening bracket, with its depth and the pattern behind it. The bound is at least
the length of the pattern that is left. -/
def bracketSet (flags : Flags) (bound : Nat) (text : List Char) :
    Except Fault (CodePoints × Nat × List Char) := do
  let state ← SetState.openSet flags bound ⟨text, .none, []⟩ text
  state.run flags bound

end ServiceContract.Pattern
