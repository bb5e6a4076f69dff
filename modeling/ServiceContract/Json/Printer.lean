import ServiceContract.Json.Value

/-!
# Compact JSON text

The written form of a value: no blanks, members in order. Strings escape only the quote, the
backslash and the control characters below the blank; every other character stands for itself.
-/

namespace ServiceContract.Json

/-- The lower-case hexadecimal digit of a number below sixteen. -/
def hexDigit (n : Nat) : Char := Nat.digitChar (n % 16)

/-- A character as it stands inside a quoted string. -/
def escapeChar (c : Char) : List Char :=
  if c = '"' then ['\\', '"']
  else if c = '\\' then ['\\', '\\']
  else if c.val < 0x20 then
    if c = '\n' then ['\\', 'n']
    else if c = '\r' then ['\\', 'r']
    else if c = '\t' then ['\\', 't']
    else if c.val = 0x08 then ['\\', 'b']
    else if c.val = 0x0c then ['\\', 'f']
    else ['\\', 'u', '0', '0', hexDigit (c.toNat / 16), hexDigit c.toNat]
  else [c]

/-- A quoted string. -/
def quote (s : String) : String :=
  String.ofList ('"' :: s.toList.flatMap escapeChar ++ ['"'])

namespace Value

mutual

/-- The compact text of a value. -/
def text : Value → String
  | .null => "null"
  | .bool true => "true"
  | .bool false => "false"
  | .number n => n.text
  | .string s => quote s
  | .array items => "[" ++ textOfItems items ++ "]"
  | .object members => "\x7b" ++ textOfMembers members ++ "\x7d"
termination_by structural v => v

/-- The items between commas. -/
def textOfItems : List Value → String
  | [] => ""
  | [item] => item.text
  | item :: rest => item.text ++ "," ++ textOfItems rest
termination_by structural items => items

/-- The members between commas. -/
def textOfMembers : List (String × Value) → String
  | [] => ""
  | [(key, value)] => quote key ++ ":" ++ value.text
  | (key, value) :: rest => quote key ++ ":" ++ value.text ++ "," ++ textOfMembers rest
termination_by structural members => members

end

/-- The bytes of the compact text. -/
def encode (v : Value) : List UInt8 := v.text.toByteArray.data.toList

end Value

end ServiceContract.Json
