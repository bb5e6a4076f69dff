import ServiceContract.Binary64.Scaling
import ServiceContract.Json.Number

/-!
# Lexemes of a JSON text

The parts of a JSON text that hold no other values, read off a list of bytes: blanks, quoted strings
and numbers. Each reader gives what it read and the bytes behind it. Strings are collected as bytes
and must be valid UTF-8 as a whole; an escaped surrogate needs its partner. What is only skipped is
held to the grammar alone: neither the surrogates nor the UTF-8 of a skipped string are looked at,
and a skipped number may have any size. A number with a point or a power is read quickly rather than
exactly: it need not come out as the floating-point number that is nearest to its digits.
-/

namespace ServiceContract.Json

/-- Why a JSON text cannot be read. -/
inductive Fault where
  /-- The text ends inside a value. -/
  | endOfText
  /-- A byte that no value continues with. -/
  | unexpected (byte : UInt8)
  /-- A control character inside a string. -/
  | controlCharacter
  /-- An escape that the format does not know, or half of a surrogate pair. -/
  | invalidEscape
  /-- A string that is not UTF-8. -/
  | invalidText
  /-- A number that comes out beyond the largest floating-point number. -/
  | numberOutOfRange
  /-- More arrays and objects inside one another than are accepted. -/
  | nestingTooDeep
  /-- Something follows the value. -/
  | trailing
  /-- A well-formed value of the wrong shape. -/
  | shape (expected : String)
deriving DecidableEq, Repr

/-- The wording of a fault. -/
def Fault.message : Fault → String
  | .endOfText => "the text ends inside a value"
  | .unexpected byte => s!"unexpected byte {byte}"
  | .controlCharacter => "control character inside a string"
  | .invalidEscape => "invalid escape"
  | .invalidText => "invalid UTF-8"
  | .numberOutOfRange => "number out of range"
  | .nestingTooDeep => "values nest too deeply"
  | .trailing => "characters after the value"
  | .shape expected => s!"expected {expected}"

/-- Reads something off the front of a text, and gives the rest. -/
abbrev Reading (α : Type) := List UInt8 → Except Fault (α × List UInt8)

/-- The fault of a text that does not go on as it has to. -/
def faultAt : List UInt8 → Fault
  | [] => .endOfText
  | byte :: _ => .unexpected byte

/-- Blank, tabulator, line feed and carriage return. -/
def isBlank (byte : UInt8) : Bool :=
  byte == 0x20 || byte == 0x09 || byte == 0x0a || byte == 0x0d

/-- The text behind the blanks at its front. -/
def skipBlanks (text : List UInt8) : List UInt8 := text.dropWhile isBlank

/-! ## Strings -/

/-- The value of a hexadecimal digit. -/
def hexValue? (byte : UInt8) : Option Nat :=
  if 0x30 ≤ byte ∧ byte ≤ 0x39 then some (byte.toNat - 0x30)
  else if 0x41 ≤ byte ∧ byte ≤ 0x46 then some (byte.toNat - 0x41 + 10)
  else if 0x61 ≤ byte ∧ byte ≤ 0x66 then some (byte.toNat - 0x61 + 10)
  else none

/-- The code unit of four hexadecimal digits. -/
def hexUnit? (a b c d : UInt8) : Option Nat := do
  return (((← hexValue? a) * 16 + (← hexValue? b)) * 16 + (← hexValue? c)) * 16 + (← hexValue? d)

/-- The character of an escape with one letter. -/
def shortEscape? : UInt8 → Option UInt8
  | 0x22 => some 0x22
  | 0x5c => some 0x5c
  | 0x2f => some 0x2f
  | 0x62 => some 0x08
  | 0x66 => some 0x0c
  | 0x6e => some 0x0a
  | 0x72 => some 0x0d
  | 0x74 => some 0x09
  | _ => none

/-- The first half of a surrogate pair. -/
def isHighSurrogate (unit : Nat) : Bool := 0xd800 ≤ unit && unit < 0xdc00

/-- The second half of a surrogate pair. -/
def isLowSurrogate (unit : Nat) : Bool := 0xdc00 ≤ unit && unit < 0xe000

/-- The UTF-8 bytes of a code point that is not a surrogate. -/
def codePointBytes (code : Nat) : List UInt8 := String.utf8EncodeChar (Char.ofNat code)

/-- One unit of a string behind its opening quote: a byte that stands for itself, or an escape. The
closing quote is not one. -/
def stringUnit : Reading (List UInt8)
  | [] => .error .endOfText
  | 0x5c :: 0x75 :: a :: b :: c :: d :: rest =>
    match hexUnit? a b c d with
    | none => .error .invalidEscape
    | some unit =>
      if isHighSurrogate unit then
        match rest with
        | 0x5c :: 0x75 :: e :: f :: g :: h :: rest =>
          match hexUnit? e f g h with
          | none => .error .invalidEscape
          | some low =>
            if isLowSurrogate low then
              .ok (codePointBytes (0x10000 + (unit - 0xd800) * 0x400 + (low - 0xdc00)), rest)
            else .error .invalidEscape
        | _ => .error .invalidEscape
      else if isLowSurrogate unit then .error .invalidEscape
      else .ok (codePointBytes unit, rest)
  | 0x5c :: letter :: rest =>
    match shortEscape? letter with
    | some byte => .ok ([byte], rest)
    | none => .error .invalidEscape
  | [0x5c] => .error .endOfText
  | byte :: rest => if byte < 0x20 then .error .controlCharacter else .ok ([byte], rest)

/-- One unit of a string that is skipped: an escape needs its letter or its four digits. -/
def skippedUnit : List UInt8 → Except Fault (List UInt8)
  | [] => .error .endOfText
  | 0x5c :: 0x75 :: a :: b :: c :: d :: rest =>
    if (hexUnit? a b c d).isSome then .ok rest else .error .invalidEscape
  | 0x5c :: letter :: rest =>
    if (shortEscape? letter).isSome then .ok rest else .error .invalidEscape
  | [0x5c] => .error .endOfText
  | byte :: rest => if byte < 0x20 then .error .controlCharacter else .ok rest

/-- The bytes of a string behind its opening quote, up to and over the closing one. The first
argument bounds the number of units; the length of the text is enough. -/
def stringBytes : Nat → Reading (List UInt8)
  | 0, _ => .error .endOfText
  | bound + 1, text =>
    match text with
    | 0x22 :: rest => .ok ([], rest)
    | text => do
      let (unit, text) ← stringUnit text
      let (units, text) ← stringBytes bound text
      return (unit ++ units, text)

/-- Passes over a string behind its opening quote. -/
def skipStringTail : Nat → List UInt8 → Except Fault (List UInt8)
  | 0, _ => .error .endOfText
  | bound + 1, text =>
    match text with
    | 0x22 :: rest => .ok rest
    | text => do skipStringTail bound (← skippedUnit text)

/-- A string, from behind its opening quote. -/
def stringTail : Reading String := fun text => do
  let (bytes, rest) ← stringBytes (text.length + 1) text
  match String.fromUTF8? ⟨bytes.toArray⟩ with
  | some s => return (s, rest)
  | none => .error .invalidText

/-- A quoted string, behind blanks. -/
def string : Reading String := fun text =>
  match skipBlanks text with
  | 0x22 :: rest => stringTail rest
  | rest => .error (faultAt rest)

/-! ## Numbers -/

/-- A decimal digit. -/
def isDigit (byte : UInt8) : Bool := 0x30 ≤ byte && byte ≤ 0x39

/-- The number that digits stand for. -/
def digitsValue (digits : List UInt8) : Nat :=
  digits.foldl (fun n digit => n * 10 + (digit.toNat - 0x30)) 0

/-- The parts of a written number. -/
structure NumberText where
  /-- A minus stands in front. -/
  negative : Bool
  /-- The digits before the point. -/
  whole : List UInt8
  /-- The digits behind the point, if there is one. -/
  fraction : Option (List UInt8)
  /-- The power of ten, if there is one. -/
  exponent : Option Int
deriving Repr

/-- At least one digit. -/
def someDigits : Reading (List UInt8) := fun text =>
  match text.span isDigit with
  | ([], rest) => .error (faultAt rest)
  | (digits, rest) => .ok (digits, rest)

/-- The digits before the point; a zero stands alone. -/
def wholePart : Reading (List UInt8) := fun text =>
  match text with
  | 0x30 :: rest =>
    match rest with
    | byte :: _ => if isDigit byte then .error (.unexpected byte) else .ok ([0x30], rest)
    | [] => .ok ([0x30], [])
  | text => someDigits text

/-- The digits behind a point, if one comes. -/
def fractionPart : Reading (Option (List UInt8)) := fun text =>
  match text with
  | 0x2e :: rest => do
    let (digits, rest) ← someDigits rest
    return (some digits, rest)
  | text => .ok (none, text)

/-- The power of ten, if one comes. -/
def exponentPart : Reading (Option Int) := fun text =>
  match text with
  | letter :: rest =>
    if letter == 0x65 || letter == 0x45 then
      match rest with
      | 0x2d :: rest => do
        let (digits, rest) ← someDigits rest
        return (some (-(digitsValue digits : Int)), rest)
      | 0x2b :: rest => do
        let (digits, rest) ← someDigits rest
        return (some (digitsValue digits), rest)
      | rest => do
        let (digits, rest) ← someDigits rest
        return (some (digitsValue digits), rest)
    else .ok (none, text)
  | [] => .ok (none, [])

/-- The parts of a number at the front of a text. -/
def numberText : Reading NumberText := fun text => do
  let (negative, text) := match text with
    | 0x2d :: rest => (true, rest)
    | text => (false, text)
  let (whole, text) ← wholePart text
  let (fraction, text) ← fractionPart text
  let (exponent, text) ← exponentPart text
  return (⟨negative, whole, fraction, exponent⟩, text)

/-- Collects digits into a whole number as long as it stays below `2 ^ 64`, and gives the digits that
are left. -/
def collectDigits (n : Nat) : List UInt8 → Nat × List UInt8
  | [] => (n, [])
  | digit :: digits =>
    let next := n * 10 + (digit.toNat - 0x30)
    if next < 18446744073709551616 then collectDigits next digits else (n, digit :: digits)

/-- The floating-point number that a text is read as. As many digits as a 64-bit word holds are scaled
by a power of ten. Those that it does not hold are dropped; before the point each counts as a factor of
ten, behind it they do not count. -/
def NumberText.float? (t : NumberText) : Option Binary64 :=
  let fraction := t.fraction.getD []
  let (whole, dropped) := collectDigits 0 t.whole
  let (significand, ignored) := collectDigits whole fraction
  let places := fraction.length - ignored.length
  Binary64.scaled? t.negative significand (t.exponent.getD 0 + dropped.length - places)

/-- The number of a text, given what the text is worth as a floating-point number. Without point and
power it is an integer if it is in range; minus zero and everything else is the floating-point
number. -/
def NumberText.number? (t : NumberText) (float : Option Binary64) : Option Number :=
  let whole := digitsValue t.whole
  if t.fraction.isSome || t.exponent.isSome then float.map Number.float
  else if t.negative then
    if whole = 0 then float.map Number.float
    else (Number.ofInt? (-whole)).or (float.map Number.float)
  else (Number.ofInt? whole).or (float.map Number.float)

/-- The number that a text is read as. -/
def NumberText.value? (t : NumberText) : Option Number := t.number? t.float?

/-- A number at the front of a text. -/
def number : Reading Number := fun text => do
  let (written, rest) ← numberText text
  match written.value? with
  | some n => return (n, rest)
  | none => .error .numberOutOfRange

end ServiceContract.Json
