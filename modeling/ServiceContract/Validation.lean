import ServiceContract.Error
import ServiceContract.Interface.Basic
import ServiceContract.Json.Printer

/-!
# Checking values

A validator checks a value against a schema. It walks the schema and the value together and follows
references to named types through the registry; every step into a part, an alternative or a named
type takes one unit of depth, and the walk ends where the depth is used up. Parts are checked in
order and the first violation is the answer.
-/

namespace ServiceContract

open Json (Number Value Members)

/-- The result of a check. -/
abbrev Checked := Except Violation Unit

/-- How deep a check goes unless it is told otherwise. -/
def defaultMaxDepth : Nat := 256

/-! ## Violations -/

/-- A value of another type than expected. -/
def mismatch (expected : String) (value : Value) : Violation :=
  .here (s!"expected {expected}, found " ++ value.typeName)

/-- The depth is used up. -/
def tooDeep (maxDepth : Nat) : Violation :=
  .here s!"value nests deeper than {maxDepth} levels"

/-- A reference to a type that the registry does not have. -/
def unknownType (target : TypeRef) : Violation := .here ("unknown type " ++ target.text)

/-- The alternatives with the violations that they led to, numbered from `index` on. -/
def alternativeDetails (nullable : Bool) : (index : Nat) → List Schema → List Violation → List String
  | index, alternative :: alternatives, reason :: reasons =>
    let rest := alternativeDetails nullable (index + 1) alternatives reasons
    if nullable && alternative.isNull then rest
    else (s!"alternative {index} (" ++ alternative.kindName ++ "): " ++ reason.text) :: rest
  | _, _, _ => []

/-- No alternative accepts the value. Next to others, the null alternative goes without saying. -/
def noAlternative (alternatives : List Schema) (reasons : List Violation) : Violation :=
  let nullable := (Schema.union alternatives).isNullableUnion
  let summary :=
    if nullable then "value is not null and no other alternative matched"
    else "no alternative matched"
  .here (summary ++ " (" ++ Text.join "; " (alternativeDetails nullable 0 alternatives reasons) ++
    ")")

/-! ## Primitives -/

/-- Checks a number against the bounds. -/
def checkBounds (p : Primitive) (n : Number) : Checked := do
  if let some bound := p.minimum then
    if n.order bound == .lt then
      throw (.here (n.text ++ " is less than minimum " ++ bound.text))
  if let some bound := p.maximum then
    if n.order bound == .gt then
      throw (.here (n.text ++ " is greater than maximum " ++ bound.text))
  if let some bound := p.exclusiveMinimum then
    if n.order bound != .gt then
      throw (.here (n.text ++ " must be greater than " ++ bound.text))
  if let some bound := p.exclusiveMaximum then
    if n.order bound != .lt then
      throw (.here (n.text ++ " must be less than " ++ bound.text))

/-- Checks a text against the conditions; its length counts characters. -/
def checkText (p : Primitive) (text : String) : Checked := do
  if let some least := p.minLength then
    if text.length < least then throw (.here s!"string shorter than {least} characters")
  if let some most := p.maxLength then
    if most < text.length then throw (.here s!"string longer than {most} characters")
  if let some pattern := p.pattern then
    if !pattern.accepts text then
      throw (.here ("string does not match pattern '" ++ pattern.source ++ "'"))

/-- Checks a value against a kind and its conditions. -/
def checkPrimitive (p : Primitive) (value : Value) : Checked :=
  match p.kind, value with
  | .null, .null => .ok ()
  | .boolean, .bool _ => .ok ()
  | .integer, .number n =>
    if n.isWhole then checkBounds p n else .error (mismatch "integer" value)
  | .number, .number n => checkBounds p n
  | .string, .string text => checkText p text
  | kind, value => .error (mismatch kind.name value)

/-! ## Parts

Each of these takes the check for a part as a function. -/

/-- Checks the declared fields of an object, in the order of declaration. -/
def checkFields (check : Schema → Value → Checked) (members : Members) : List Field → Checked
  | [] => .ok ()
  | ⟨name, schema, required⟩ :: rest => do
    match members.lookup name with
    | some value => (check schema value).mapError (Violation.within (.field name))
    | none => if required then throw ⟨[.field name], "required field is missing"⟩
    checkFields check members rest

/-- Refuses the first member that is not a declared field. -/
def checkClosed (fields : List Field) (members : Members) : Checked :=
  match members.find? fun (key, _) => !fields.any fun field => field.name == key with
  | some (key, _) => .error ⟨[.field key], "field is not allowed"⟩
  | none => .ok ()

/-- Checks items against schemas by position, numbered from `index` on. -/
def checkPositions (check : Schema → Value → Checked) : (index : Nat) → List Schema → List Value →
    Checked
  | index, schema :: schemas, value :: values => do
    (check schema value).mapError (Violation.within (.index index))
    checkPositions check (index + 1) schemas values
  | _, _, _ => .ok ()

/-- Checks items against one schema, numbered from `index` on. -/
def checkItems (check : Value → Checked) : (index : Nat) → List Value → Checked
  | _, [] => .ok ()
  | index, value :: values => do
    (check value).mapError (Violation.within (.index index))
    checkItems check (index + 1) values

/-- Checks the number of items. -/
def checkCount (minItems maxItems : Option Nat) (count : Nat) : Checked := do
  if let some least := minItems then
    if count < least then throw (.here s!"expected at least {least} elements, found {count}")
  if let some most := maxItems then
    if most < count then throw (.here s!"expected at most {most} elements, found {count}")

/-- The position of the first alternative that accepts, numbered from `index` on, or the violations
that all of them led to. -/
def firstAccepting (check : Schema → Checked) : (index : Nat) → List Schema →
    Except (List Violation) Nat
  | _, [] => .error []
  | index, alternative :: rest =>
    match check alternative with
    | .ok () => .ok index
    | .error reason => (firstAccepting check (index + 1) rest).mapError (reason :: ·)

/-! ## The walk -/

/-- Checks a value against a schema whose references are looked up in a registry. The first argument
is how many levels may be entered, this one included; `maxDepth` is only reported. -/
def walk (maxDepth : Nat) : (levels : Nat) → Schema → Registry → Value → Checked
  | 0, _, _, _ => .error (tooDeep maxDepth)
  | levels + 1, schema, registry, value =>
    let inside := fun schema value => walk maxDepth levels schema registry value
    match schema with
    | .const expected =>
      if expected.equivalent value then .ok ()
      else .error (.here ("expected constant " ++ expected.text))
    | .enum values =>
      if values.any fun candidate => candidate.equivalent value then .ok ()
      else
        .error (.here (value.text ++ " is not one of [" ++
          Text.join ", " (values.map Value.text) ++ "]"))
    | .primitive p => checkPrimitive p value
    | .object fields closed =>
      match value with
      | .object members => do
        checkFields inside members fields
        if closed then checkClosed fields members
      | value => .error (mismatch "object" value)
    | .tuple schemas =>
      match value with
      | .array items =>
        if items.length ≠ schemas.length then
          .error (.here ("expected " ++ toString schemas.length ++ " elements, found " ++
            toString items.length))
        else checkPositions inside 0 schemas items
      | value => .error (mismatch "array" value)
    | .array schema minItems maxItems =>
      match value with
      | .array items => do
        checkCount minItems maxItems items.length
        checkItems (inside schema) 0 items
      | value => .error (mismatch "array" value)
    | .union alternatives =>
      match firstAccepting (fun alternative => inside alternative value) 0 alternatives with
      | .ok _ => .ok ()
      | .error reasons => .error (noAlternative alternatives reasons)
    | .reference target =>
      match registry.lookup target with
      | some (named, home) => walk maxDepth levels named.schema home value
      | none => .error (unknownType target)
    | .anything => .ok ()

/-- Where no level may be entered, no value is accepted. -/
theorem walk_no_levels {maxDepth : Nat} {schema : Schema} {registry : Registry} {value : Value} :
    walk maxDepth 0 schema registry value = .error (tooDeep maxDepth) := by
  rw [walk]

/-- A check of values against one schema. -/
structure Validator where
  /-- The schema. -/
  schema : Schema
  /-- Where named types are looked up. -/
  registry : Registry
  /-- How many levels below the root may be entered. -/
  maxDepth : Nat := defaultMaxDepth

namespace Validator

/-- Checks a value. -/
def check (validator : Validator) (value : Value) : Checked :=
  walk validator.maxDepth (validator.maxDepth + 1) validator.schema validator.registry value

/-- Follows references at the root and then chooses an alternative, if there is a union; at most
`rounds` schemas are looked at. -/
def selectFrom (maxDepth : Nat) (value : Value) : (rounds : Nat) → Schema → Registry →
    Except Violation (Option Nat)
  | 0, _, _ => .error (tooDeep maxDepth)
  | rounds + 1, schema, registry =>
    let afresh := fun schema => walk maxDepth (maxDepth + 1) schema registry value
    match schema with
    | .reference target =>
      match registry.lookup target with
      | some (named, home) => selectFrom maxDepth value rounds named.schema home
      | none => .error (unknownType target)
    | .union alternatives =>
      match firstAccepting afresh 0 alternatives with
      | .ok index => .ok (some index)
      | .error reasons => .error (noAlternative alternatives reasons)
    | schema => (afresh schema).map fun () => none

/-- The position of the first alternative that accepts the value, when the root is a union or leads
to one through references. -/
def selectAlternative (validator : Validator) (value : Value) : Except Violation (Option Nat) :=
  selectFrom validator.maxDepth value validator.maxDepth validator.schema validator.registry

end Validator

end ServiceContract
