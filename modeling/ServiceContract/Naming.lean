import ServiceContract.Error
import ServiceContract.Text.NameOrder

/-!
# Names and identifiers

Declared names are in kebab case: lower-case letters and digits in pieces joined by single dashes.
From a name and its role an identifier of a target language is derived, with underscores between
the pieces or, for types, with each piece capitalised. Words that the target language reserves are
avoided by underscores at the end, the fewest that leave the reserved words.
-/

namespace ServiceContract

/-- What a declared name is used for. -/
inductive Role where
  /-- The service itself. -/
  | service
  /-- A function. -/
  | function
  /-- A message. -/
  | message
  /-- A named type. -/
  | type
  /-- An argument. -/
  | field
deriving DecidableEq, Repr

namespace Role

/-- Every role, in order. -/
def all : List Role := [.service, .function, .message, .type, .field]

/-- The word for a role. -/
def label : Role → String
  | .service => "service"
  | .function => "function"
  | .message => "message"
  | .type => "type"
  | .field => "field"

end Role

/-! ## Kebab case -/

/-- A lower-case letter or digit of ASCII. -/
def isNameChar (c : Char) : Bool := c.isLower || c.isDigit

/-- The pieces between the dashes of a name. -/
def namePieces (name : String) : List (List Char) := Text.splitAt '-' name.toList

/-- Every piece of the name is made of lower-case letters and digits, at least one. -/
def isKebabCase (name : String) : Bool :=
  (namePieces name).all fun piece => !piece.isEmpty && piece.all isNameChar

/-- Refuses a name that is not in kebab case. -/
def checkKebabCase (role : Role) (name : String) : Except Error Unit :=
  if isKebabCase name then .ok ()
  else
    .error (.naming (role.label ++ s!" name '{name}' must be lowercase letters and digits " ++
      "separated by single dashes"))

/-! ## Reserved words -/

/-- The words that identifiers of each role must keep away from. -/
structure IdentifierRules where
  /-- The reserved words of a role, in order. -/
  reserved : Role → List String

namespace IdentifierRules

/-- Nothing is reserved. -/
def none : IdentifierRules := ⟨fun _ => []⟩

instance : Inhabited IdentifierRules := ⟨none⟩

/-- Reserves more words for one role. -/
def reserve (rules : IdentifierRules) (role : Role) (words : List String) : IdentifierRules :=
  ⟨fun r => if r = role then words.foldl (fun set word => insertName word set) (rules.reserved r)
    else rules.reserved r⟩

/-- Reserves more words for every role. -/
def reserveEverywhere (rules : IdentifierRules) (words : List String) : IdentifierRules :=
  Role.all.foldl (fun rules role => rules.reserve role words) rules

/-! ## Identifiers -/

/-- The pieces joined by underscores. -/
def snakeCase (name : String) : String :=
  String.ofList (List.intercalate ['_'] (namePieces name))

/-- A piece with its first letter in upper case. -/
def capitalise : List Char → List Char
  | [] => []
  | c :: cs => c.toUpper :: cs

/-- The pieces, capitalised, one behind the other. -/
def pascalCase (name : String) : String :=
  String.ofList ((namePieces name).flatMap capitalise)

/-- Types are written in pascal case and all else in snake case. -/
def baseIdentifier (role : Role) (name : String) : String :=
  match role with
  | .type => pascalCase name
  | _ => snakeCase name

/-- Appends underscores until the identifier is none of the words. A word that was met once is not
met again, as identifiers only grow, so it can be left out from there on. -/
def avoid (words : List String) (identifier : String) : String :=
  if identifier ∈ words then avoid (words.erase identifier) (identifier.push '_') else identifier
termination_by words.length
decreasing_by
  rename_i h
  rw [List.length_erase_of_mem h]
  exact Nat.sub_lt (List.length_pos_of_mem h) Nat.one_pos

/-- The identifier of a name in a role. -/
def derive (rules : IdentifierRules) (role : Role) (name : String) : Except Error String := do
  checkKebabCase role name
  return avoid (rules.reserved role) (baseIdentifier role name)

end IdentifierRules

end ServiceContract
