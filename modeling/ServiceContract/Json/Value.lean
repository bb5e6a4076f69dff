import ServiceContract.Json.Number

/-!
# JSON values

The data of documents, arguments, results and messages. Objects keep their members in order; a
reader never makes two members of one key, but the type does not forbid it, so that building values
needs no proofs. Two notions of sameness live here: `Value.same` keeps integers and floating-point
numbers apart, `Value.equivalent` compares all numbers by value. Both ignore the order of members.
-/

namespace ServiceContract.Json

/-- A JSON value. -/
inductive Value where
  /-- The null value. -/
  | null
  /-- A truth value. -/
  | bool (value : Bool)
  /-- A number, in the form it was written in. -/
  | number (value : Number)
  /-- A text. -/
  | string (value : String)
  /-- A sequence of values. -/
  | array (items : List Value)
  /-- Members by key, in order. -/
  | object (members : List (String × Value))
deriving Repr, Inhabited

/-- The members of an object, in order. -/
abbrev Members := List (String × Value)

/-- Puts a member in: an existing key keeps its place and takes the new value. -/
def putMember (key : String) (value : Value) : Members → Members
  | [] => [(key, value)]
  | (k, v) :: rest => if k = key then (k, value) :: rest else (k, v) :: putMember key value rest

/-- Members as a reader collects them: a repeated key keeps its first place and takes the last
value. -/
def collectMembers (pairs : List (String × Value)) : Members :=
  pairs.foldl (fun members pair => putMember pair.1 pair.2 members) []

namespace Value

/-- The text of a string value. -/
def string? : Value → Option String
  | .string s => some s
  | _ => none

/-- The items of an array. -/
def array? : Value → Option (List Value)
  | .array items => some items
  | _ => none

/-- The members of an object. -/
def object? : Value → Option Members
  | .object members => some members
  | _ => none

/-- The value of a member, if the value is an object that has it. -/
def member? (key : String) : Value → Option Value
  | .object members => members.lookup key
  | _ => none

/-- A natural number written as an integer. -/
def ofNat (n : Nat) : Value := .number (.ofNat n)

/-- What a diagnostic calls a value. -/
def typeName : Value → String
  | .null => "null"
  | .bool _ => "boolean"
  | .number n => if n.isInteger then "integer" else "number"
  | .string _ => "string"
  | .array _ => "array"
  | .object _ => "object"

/-! ## Nesting -/

mutual

/-- How many arrays and objects lie inside one another. -/
def nesting : Value → Nat
  | .array items => nestingOfItems items + 1
  | .object members => nestingOfMembers members + 1
  | _ => 0
termination_by structural v => v

/-- The deepest nesting among the items. -/
def nestingOfItems : List Value → Nat
  | [] => 0
  | item :: rest => max item.nesting (nestingOfItems rest)
termination_by structural items => items

/-- The deepest nesting among the members. -/
def nestingOfMembers : List (String × Value) → Nat
  | [] => 0
  | (_, value) :: rest => max value.nesting (nestingOfMembers rest)
termination_by structural members => members

end

/-! ## Sameness -/

mutual

/-- Sameness up to the order of members, given when two numbers are the same. -/
def sameUpTo (numbers : Number → Number → Bool) : Value → Value → Bool
  | .null, .null => true
  | .bool a, .bool b => a == b
  | .number a, .number b => numbers a b
  | .string a, .string b => a == b
  | .array xs, .array ys => sameItems numbers xs ys
  | .object xs, .object ys => xs.length == ys.length && sameMembers numbers xs ys
  | _, _ => false
termination_by structural v => v

/-- The items agree one by one. -/
def sameItems (numbers : Number → Number → Bool) : List Value → List Value → Bool
  | [], [] => true
  | x :: xs, y :: ys => sameUpTo numbers x y && sameItems numbers xs ys
  | _, _ => false
termination_by structural items => items

/-- Every member on the left has one of its key and value on the right. -/
def sameMembers (numbers : Number → Number → Bool) : List (String × Value) → Members → Bool
  | [], _ => true
  | (key, x) :: rest, ys =>
    (match ys.lookup key with
      | some y => sameUpTo numbers x y
      | none => false) && sameMembers numbers rest ys
termination_by structural members => members

end

/-- The same value, with integers and floating-point numbers told apart. -/
def same : Value → Value → Bool := sameUpTo Number.same

/-- The same value, with numbers compared by value in either form. -/
def equivalent : Value → Value → Bool := sameUpTo fun a b => a.order b == .eq

end Value

end ServiceContract.Json
