import ServiceContract.Error
import ServiceContract.Schema.Basic

/-!
# Reading schemas

A raw schema is a JSON value. Its keywords are looked at in a fixed order - a reference, a constant,
an enumeration, alternatives, a type or a list of types - and the first one that is there decides
the form; raw schemas outside this vocabulary accept everything. What a reference stands for is
decided elsewhere: reading takes a function for it, which may keep a state of any kind, and calls it
in the order in which the references stand.

Every fault and every reference comes with a location, the path of the place below the location that
reading started from.
-/

namespace ServiceContract

open Json (Number Value Members)

/-- What a reference at a location stands for. -/
abbrev RefResolver (σ : Type) := (reference location : String) → EStateM Error σ Schema

/-- A list of schemas by position, or one schema for every item. -/
inductive ItemSchemas where
  /-- A schema for each position. -/
  | byPosition (schemas : List Schema)
  /-- One schema for all. -/
  | forEach (schema : Schema)

/-- How the parts of a raw schema are read, each from a given location. -/
structure PartReaders (σ : Type) where
  /-- The alternatives under a keyword. -/
  alternatives : (keyword location : String) → EStateM Error σ (List Schema)
  /-- The properties, by name. -/
  properties : (location : String) → EStateM Error σ (List (String × Schema))
  /-- The items. -/
  items : (location : String) → EStateM Error σ ItemSchemas

namespace Schema

variable {σ : Type}

/-- A fault of the raw schema at a location. -/
def malformed {α : Type} (location message : String) : EStateM Error σ α :=
  throw (.document location message)

/-! ## Keywords -/

/-- A number under a keyword. -/
def numberKeyword (members : Members) (location keyword : String) :
    EStateM Error σ (Option Number) :=
  match members.lookup keyword with
  | none => pure none
  | some (.number n) => pure (some n)
  | some _ => malformed location s!"'{keyword}' must be a number"

/-- A natural number under a keyword. -/
def countKeyword (members : Members) (location keyword : String) : EStateM Error σ (Option Nat) :=
  match members.lookup keyword with
  | none => pure none
  | some value =>
    match value with
    | .number n =>
      match n.toNat? with
      | some count => pure (some count)
      | none => malformed location s!"'{keyword}' must be a non-negative integer"
    | _ => malformed location s!"'{keyword}' must be a non-negative integer"

/-- The pattern of a text. -/
def patternKeyword (members : Members) (location : String) : EStateM Error σ (Option Pattern) :=
  match members.lookup "pattern" with
  | none => pure none
  | some (.string source) =>
    match Pattern.ofText source with
    | .ok pattern => pure (some pattern)
    | .error fault => malformed location (s!"invalid pattern '{source}': " ++ fault.message)
  | some _ => malformed location "'pattern' must be a string"

/-- The conditions that go with a kind; keywords of other kinds are not looked at. -/
def readPrimitive (kind : PrimitiveKind) (members : Members) (location : String) :
    EStateM Error σ Primitive :=
  match kind with
  | .integer | .number => do
    let minimum ← numberKeyword members location "minimum"
    let maximum ← numberKeyword members location "maximum"
    let exclusiveMinimum ← numberKeyword members location "exclusiveMinimum"
    let exclusiveMaximum ← numberKeyword members location "exclusiveMaximum"
    return { kind, minimum, maximum, exclusiveMinimum, exclusiveMaximum }
  | .string => do
    let minLength ← countKeyword members location "minLength"
    let maxLength ← countKeyword members location "maxLength"
    let pattern ← patternKeyword members location
    return { kind, minLength, maxLength, pattern }
  | .boolean | .null => return { kind }

/-- The names under the keyword `required`, in order. -/
def requiredNames (members : Members) (location : String) : EStateM Error σ (List String) :=
  match members.lookup "required" with
  | none => pure []
  | some (.array items) => items.mapM fun
    | .string name => pure name
    | _ => malformed location "'required' entries must be strings"
  | some _ => malformed location "'required' must be a list"

/-- Fields for the properties, in order, then for required names without a property, each once, in
the order of first mention; those accept every value. -/
def fieldsOf (properties : List (String × Schema)) (required : List String) : List Field :=
  required.foldl (fun fields name =>
    if fields.any fun field => field.name == name then fields
    else fields ++ [⟨name, .anything, true⟩])
    (properties.map fun (name, schema) => ⟨name, schema, decide (name ∈ required)⟩)

/-- An object. -/
def readObject (parts : PartReaders σ) (members : Members) (location : String) :
    EStateM Error σ Schema := do
  let required ← requiredNames members location
  let properties ← parts.properties location
  let closed := match members.lookup "additionalProperties" with
    | some (.bool false) => true
    | _ => false
  return .object (fieldsOf properties required) closed

/-- An array. -/
def readArray (parts : PartReaders σ) (members : Members) (location : String) :
    EStateM Error σ Schema := do
  match ← parts.items location with
  | .byPosition schemas => return .tuple schemas
  | .forEach schema =>
    let minItems ← countKeyword members location "minItems"
    let maxItems ← countKeyword members location "maxItems"
    return .array schema minItems maxItems

/-- A schema with the name of its type given. -/
def readTyped (parts : PartReaders σ) (members : Members) (location typeName : String) :
    EStateM Error σ Schema :=
  match typeName with
  | "object" => readObject parts members location
  | "array" => readArray parts members location
  | other =>
    match PrimitiveKind.ofName? other with
    | some kind => do return .primitive (← readPrimitive kind members location)
    | none => malformed location s!"unknown type '{other}'"

/-- A schema for each of several types, numbered from `index` on. -/
def readTypeList (parts : PartReaders σ) (members : Members) (location : String) :
    (index : Nat) → List Value → EStateM Error σ (List Schema)
  | _, [] => pure []
  | index, .string typeName :: rest => do
    let schema ← readTyped parts members location typeName
    return schema :: (← readTypeList parts members location (index + 1) rest)
  | index, _ :: _ => malformed s!"{location}/type/{index}" "type names must be strings"

/-- A raw schema that is an object. A list of several types is a union of the same schema under each
of them. -/
def readMapping (refs : RefResolver σ) (parts : PartReaders σ) (members : Members)
    (location : String) : EStateM Error σ Schema :=
  match members.lookup "$ref" with
  | some (.string target) => refs target s!"{location}/$ref"
  | some _ => malformed location "'$ref' must be a string"
  | none =>
  match members.lookup "const" with
  | some value => pure (.const value)
  | none =>
  match members.lookup "enum" with
  | some (.array (value :: values)) => pure (.enum (value :: values))
  | some _ => malformed location "'enum' must be a non-empty list"
  | none =>
  match ["anyOf", "oneOf"].find? fun keyword => (members.lookup keyword).isSome with
  | some keyword => do return .union (← parts.alternatives keyword s!"{location}/{keyword}")
  | none =>
  match members.lookup "type" with
  | some (.string typeName) => readTyped parts members location typeName
  | some (.array []) => malformed location "'type' list must not be empty"
  | some (.array typeNames) => do
    match ← readTypeList parts members location 0 typeNames with
    | [schema] => return schema
    | schemas => return .union schemas
  | some _ => malformed location "'type' must be a string or a list of strings"
  | none =>
    if (members.lookup "properties").isSome then readTyped parts members location "object"
    else pure .anything

/-! ## The tree -/

mutual

/-- Reads a raw schema at a location. -/
def ofValue (refs : RefResolver σ) : Value → (location : String) → EStateM Error σ Schema
  | .bool true, _ => pure .anything
  | .bool false, location => malformed location "schema 'false' accepts no value"
  | .object members, location =>
    readMapping refs
      { alternatives := fun keyword location => alternativesIn refs keyword members location
        properties := fun location => propertiesIn refs members location
        items := fun location => itemsIn refs members location }
      members location
  | other, location =>
    malformed location ("schema must be a mapping, found " ++ other.typeName)
termination_by structural raw => raw

/-- Reads the alternatives under a keyword. -/
def alternativesIn (refs : RefResolver σ) (keyword : String) :
    List (String × Value) → (location : String) → EStateM Error σ (List Schema)
  | [], _ => pure []
  | (key, raw) :: rest, location =>
    if key = keyword then
      match raw with
      | .array (item :: items) => do
        let first ← ofValue refs item s!"{location}/0"
        return first :: (← elements refs items 1 location)
      | _ => malformed location "alternatives must be a non-empty list"
    else alternativesIn refs keyword rest location
termination_by structural members => members

/-- Reads the properties. -/
def propertiesIn (refs : RefResolver σ) :
    List (String × Value) → (location : String) → EStateM Error σ (List (String × Schema))
  | [], _ => pure []
  | (key, raw) :: rest, location =>
    if key = "properties" then
      match raw with
      | .object properties => namedElements refs properties s!"{location}/properties"
      | _ => malformed location "'properties' must be a mapping"
    else propertiesIn refs rest location
termination_by structural members => members

/-- Reads the items; without a keyword every item is accepted. -/
def itemsIn (refs : RefResolver σ) :
    List (String × Value) → (location : String) → EStateM Error σ ItemSchemas
  | [], _ => pure (.forEach .anything)
  | (key, raw) :: rest, location =>
    if key = "items" then
      match raw with
      | .array items => do return .byPosition (← elements refs items 0 s!"{location}/items")
      | raw => do return .forEach (← ofValue refs raw s!"{location}/items")
    else itemsIn refs rest location
termination_by structural members => members

/-- Reads raw schemas at the positions below a location. -/
def elements (refs : RefResolver σ) :
    List Value → (index : Nat) → (location : String) → EStateM Error σ (List Schema)
  | [], _, _ => pure []
  | raw :: rest, index, location => do
    let schema ← ofValue refs raw s!"{location}/{index}"
    return schema :: (← elements refs rest (index + 1) location)
termination_by structural raws => raws

/-- Reads raw schemas at the keys below a location. -/
def namedElements (refs : RefResolver σ) :
    List (String × Value) → (location : String) → EStateM Error σ (List (String × Schema))
  | [], _ => pure []
  | (name, raw) :: rest, location => do
    let schema ← ofValue refs raw s!"{location}/{name}"
    return (name, schema) :: (← namedElements refs rest location)
termination_by structural members => members

end

end Schema

end ServiceContract
