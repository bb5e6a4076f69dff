import ServiceContract.Text.Blank

/-!
# Flags of patterns

The flags that decide what an item of a pattern means, the blanks and comments that one of them
allows between items, and the faults that keep a pattern from being read.
-/

namespace ServiceContract.Pattern

/-- Why a pattern cannot be read. -/
inductive Fault where
  /-- A group is not closed. -/
  | unclosedGroup
  /-- A group is closed that is not open. -/
  | unopenedGroup
  /-- A set of characters is not closed. -/
  | unclosedSet
  /-- A repetition has nothing in front of it, or flags. -/
  | nothingToRepeat
  /-- Braces do not hold a count or a range of counts. -/
  | badCount
  /-- An escape has no meaning or is cut off. -/
  | badEscape
  /-- A range of characters has an end that is no character or lies before its start. -/
  | badRange
  /-- No property of characters has this name. -/
  | unknownProperty
  /-- A group looks around. -/
  | lookAround
  /-- A flag does not exist, is repeated or is missing. -/
  | badFlags
  /-- The name of a group is malformed or used twice. -/
  | badGroupName
  /-- Something needs Unicode where it is turned off. -/
  | unicodeOff
  /-- The pattern could match bytes that are not text. -/
  | notText
  /-- Items lie too deeply inside one another. -/
  | nestingTooDeep
  /-- The pattern is too large when it is written out. -/
  | tooLarge
deriving DecidableEq, Repr

/-- The wording of a fault. -/
def Fault.message : Fault → String
  | .unclosedGroup => "unclosed group"
  | .unopenedGroup => "unopened group"
  | .unclosedSet => "unclosed character class"
  | .nothingToRepeat => "repetition operator missing expression"
  | .badCount => "malformed repetition count"
  | .badEscape => "unrecognized escape sequence"
  | .badRange => "invalid character class range"
  | .unknownProperty => "Unicode property not found"
  | .lookAround => "look-around is not supported"
  | .badFlags => "malformed flags"
  | .badGroupName => "malformed group name"
  | .unicodeOff => "Unicode not allowed here"
  | .notText => "pattern can match invalid UTF-8"
  | .nestingTooDeep => "pattern nests too deeply"
  | .tooLarge => "compiled pattern is too large"

/-- What decides the meaning of an item. -/
structure Flags where
  /-- Letters match in either case. -/
  ignoreCase : Bool
  /-- The anchors match at lines. -/
  multiLine : Bool
  /-- The dot matches the end of a line too. -/
  dotAll : Bool
  /-- A carriage return ends a line too. -/
  anyEnding : Bool
  /-- Classes and cases are those of Unicode. -/
  unicode : Bool
  /-- Blanks and comments stand for nothing. -/
  ignoreBlanks : Bool
  /-- Repetitions are lazy unless they are marked. -/
  lazy : Bool

/-- The flags at the start of a pattern. -/
def Flags.start : Flags := ⟨false, false, false, false, true, false, false⟩

/-! ## Blanks -/

/-- The pattern behind blanks and comments. -/
def dropBlanks : (inComment : Bool) → List Char → List Char
  | _, [] => []
  | true, c :: rest => dropBlanks (c != '\n') rest
  | false, c :: rest =>
    if Text.isWhiteSpace c then dropBlanks false rest
    else if c = '#' then dropBlanks true rest
    else c :: rest

/-- The pattern behind what stands for nothing. -/
def Flags.skip (flags : Flags) (text : List Char) : List Char :=
  if flags.ignoreBlanks then dropBlanks false text else text

/-- The first character behind blanks and the signs that begin comments; of a comment itself only
blanks are passed over. A pattern that ends there shows its next character. -/
def Flags.lookAhead (flags : Flags) (text : List Char) : Option Char :=
  if flags.ignoreBlanks then (passBlanks false text).or text.head? else text.head?
where
  /-- The first character that is neither blank nor the sign of the first comment. -/
  passBlanks : (inComment : Bool) → List Char → Option Char
    | _, [] => none
    | inComment, c :: rest =>
      if Text.isWhiteSpace c then passBlanks inComment rest
      else if !inComment && c = '#' then passBlanks true rest
      else some c

end ServiceContract.Pattern
