import ServiceContract.Json.Lexeme
import ServiceContract.Json.Value

/-!
# Reading JSON

Values are read with a bound on their nesting: `value depth` accepts at most `depth` arrays and
objects inside one another. Sequences between delimiters are read by one combinator, `delimited`,
whose bound on the number of items is the length of the text. `Value.read` reads a whole text under
the bound `nestingLimit` that applies at the boundary; `Value.ofText?` reads without a bound.
-/

namespace ServiceContract.Json

/-- Items between commas up to the closing byte, from the first item on. -/
def itemsFrom {α : Type} (close : UInt8) (item : Reading α) : Nat → Reading (List α)
  | 0, _ => .error .endOfText
  | bound + 1, text => do
    let (x, text) ← item text
    match skipBlanks text with
    | 0x2c :: rest =>
      let (xs, rest) ← itemsFrom close item bound rest
      return (x :: xs, rest)
    | byte :: rest => if byte = close then return ([x], rest) else .error (.unexpected byte)
    | [] => .error .endOfText

/-- Items between commas, behind the opening byte and up to the closing one. -/
def delimited {α : Type} (close : UInt8) (item : Reading α) : Reading (List α) := fun text =>
  match skipBlanks text with
  | byte :: rest =>
    if byte = close then .ok ([], rest) else itemsFrom close item (rest.length + 1) (byte :: rest)
  | [] => .error .endOfText

/-- The colon between a key and its value, behind blanks. -/
def colon (text : List UInt8) : Except Fault (List UInt8) :=
  match skipBlanks text with
  | 0x3a :: rest => .ok rest
  | rest => .error (faultAt rest)

/-- A key and its value. -/
def member {α : Type} (value : Reading α) : Reading (String × α) := fun text => do
  let (key, text) ← string text
  let text ← colon text
  let (v, text) ← value text
  return ((key, v), text)

/-- The text behind a word that has to come. -/
def word (expected : List UInt8) (text : List UInt8) : Except Fault (List UInt8) :=
  match expected, text with
  | [], rest => .ok rest
  | e :: expected, byte :: rest => if e = byte then word expected rest else .error (.unexpected byte)
  | _ :: _, [] => .error .endOfText

/-- A value with at most `depth` arrays and objects inside one another, behind blanks. -/
def value (depth : Nat) : Reading Value := fun text =>
  match skipBlanks text with
  | 0x6e :: rest => do return (.null, ← word [0x75, 0x6c, 0x6c] rest)
  | 0x74 :: rest => do return (.bool true, ← word [0x72, 0x75, 0x65] rest)
  | 0x66 :: rest => do return (.bool false, ← word [0x61, 0x6c, 0x73, 0x65] rest)
  | 0x22 :: rest => do
    let (s, rest) ← stringTail rest
    return (.string s, rest)
  | 0x5b :: rest =>
    match depth with
    | 0 => .error .nestingTooDeep
    | depth + 1 => do
      let (items, rest) ← delimited 0x5d (value depth) rest
      return (.array items, rest)
  | 0x7b :: rest =>
    match depth with
    | 0 => .error .nestingTooDeep
    | depth + 1 => do
      let (pairs, rest) ← delimited 0x7d (member (value depth)) rest
      return (.object (collectMembers pairs), rest)
  | text => do
    let (n, rest) ← number text
    return (.number n, rest)

/-- Passes over a value of any nesting up to `depth`, held to the grammar alone. -/
def skipValue (depth : Nat) : Reading Unit := fun text =>
  match skipBlanks text with
  | 0x6e :: rest => do return ((), ← word [0x75, 0x6c, 0x6c] rest)
  | 0x74 :: rest => do return ((), ← word [0x72, 0x75, 0x65] rest)
  | 0x66 :: rest => do return ((), ← word [0x61, 0x6c, 0x73, 0x65] rest)
  | 0x22 :: rest => do return ((), ← skipStringTail (rest.length + 1) rest)
  | 0x5b :: rest =>
    match depth with
    | 0 => .error .nestingTooDeep
    | depth + 1 => do
      let (_, rest) ← delimited 0x5d (skipValue depth) rest
      return ((), rest)
  | 0x7b :: rest =>
    match depth with
    | 0 => .error .nestingTooDeep
    | depth + 1 => do
      let (_, rest) ← delimited 0x7d (skipMember (skipValue depth)) rest
      return ((), rest)
  | text => do
    let (_, rest) ← numberText text
    return ((), rest)
where
  /-- Passes over a key and its value. -/
  skipMember (value : Reading Unit) : Reading Unit := fun text =>
    match skipBlanks text with
    | 0x22 :: rest => do value (← colon (← skipStringTail (rest.length + 1) rest))
    | rest => .error (faultAt rest)

/-- What a reading finds when nothing but blanks may follow it. -/
def wholly {α : Type} (reading : Reading α) (text : List UInt8) : Except Fault α := do
  let (x, rest) ← reading text
  match skipBlanks rest with
  | [] => return x
  | _ :: _ => .error .trailing

/-- How many arrays and objects a text at the boundary may hold inside one another. -/
def nestingLimit : Nat := 127

namespace Value

/-- Reads a text of the boundary: one value that nests no deeper than `nestingLimit`. -/
def read (text : List UInt8) : Except Fault Value := wholly (value nestingLimit) text

/-- Reads a text of any nesting. -/
def ofText? (text : String) : Option Value :=
  let bytes := text.toByteArray.data.toList
  (wholly (value bytes.length) bytes).toOption

end Value

end ServiceContract.Json
