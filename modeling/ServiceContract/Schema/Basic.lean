import ServiceContract.Json.Value
import ServiceContract.Pattern.Basic

/-!
# Schemas

A resolved schema says which JSON values are accepted. It is a finite tree: references to named
types stay references and are followed only when a value is checked, so types may be recursive.
-/

namespace ServiceContract

open Json (Number Value)

/-- The kinds of values without parts. -/
inductive PrimitiveKind where
  /-- Whole numbers. -/
  | integer
  /-- Numbers. -/
  | number
  /-- Texts. -/
  | string
  /-- Truth values. -/
  | boolean
  /-- The null value. -/
  | null
deriving DecidableEq, Repr

namespace PrimitiveKind

/-- The word for a kind. -/
def name : PrimitiveKind → String
  | .integer => "integer"
  | .number => "number"
  | .string => "string"
  | .boolean => "boolean"
  | .null => "null"

/-- The kind of a word. -/
def ofName? : String → Option PrimitiveKind
  | "integer" => some .integer
  | "number" => some .number
  | "string" => some .string
  | "boolean" => some .boolean
  | "null" => some .null
  | _ => none

end PrimitiveKind

/-- A kind with bounds for numbers and conditions for texts. -/
structure Primitive where
  /-- The kind of the value. -/
  kind : PrimitiveKind
  /-- The least number. -/
  minimum : Option Number := none
  /-- The greatest number. -/
  maximum : Option Number := none
  /-- Numbers must be greater. -/
  exclusiveMinimum : Option Number := none
  /-- Numbers must be less. -/
  exclusiveMaximum : Option Number := none
  /-- The least number of characters. -/
  minLength : Option Nat := none
  /-- The greatest number of characters. -/
  maxLength : Option Nat := none
  /-- What is searched for in a text. -/
  pattern : Option Pattern := none

/-- The name of a type, in this document or in another one. -/
structure TypeRef where
  /-- The key of the other document. -/
  document : Option String
  /-- The name of the type there. -/
  name : String
deriving DecidableEq, Repr

namespace TypeRef

/-- A type of the same document. -/
def inside (name : String) : TypeRef := ⟨none, name⟩

/-- The written form. -/
def text (target : TypeRef) : String := target.document.getD "" ++ "#/types/" ++ target.name

end TypeRef

mutual

/-- A resolved schema. -/
inductive Schema where
  /-- One value. -/
  | const (value : Value)
  /-- One of some values. -/
  | enum (values : List Value)
  /-- A value without parts. -/
  | primitive (p : Primitive)
  /-- An object with declared fields; a closed one has no others. -/
  | object (fields : List Field) (closed : Bool)
  /-- An array with a schema for each position. -/
  | tuple (items : List Schema)
  /-- An array with one schema for all its items. -/
  | array (items : Schema) (minItems maxItems : Option Nat)
  /-- What any alternative accepts; the first one that does is chosen. -/
  | union (alternatives : List Schema)
  /-- What a named type accepts. -/
  | reference (target : TypeRef)
  /-- Every value. -/
  | anything

/-- A declared field of an object. -/
structure Field where
  /-- The key of the member. -/
  name : String
  /-- What the member must be. -/
  schema : Schema
  /-- The member must be there. -/
  required : Bool

end

namespace Schema

/-- The word for the form of a schema in diagnostics. -/
def kindName : Schema → String
  | .const _ => "const"
  | .enum _ => "enum"
  | .primitive _ => "primitive"
  | .object .. => "object"
  | .tuple _ => "tuple"
  | .array .. => "array"
  | .union _ => "union"
  | .reference _ => "reference"
  | .anything => "opaque"

/-- The schema of the null value alone. -/
def isNull : Schema → Bool
  | .primitive p => p.kind == .null
  | _ => false

/-- A union of several alternatives, one of them the null value. -/
def isNullableUnion : Schema → Bool
  | .union alternatives => decide (1 < alternatives.length) && alternatives.any isNull
  | _ => false

/-! ## Sameness

Schemas are compared like the values inside them: constants without the order of members, numbers
with their form, patterns by their texts. -/

/-- Two optional things are both missing or the same. -/
def sameOption {α : Type} (same : α → α → Bool) : Option α → Option α → Bool
  | none, none => true
  | some a, some b => same a b
  | _, _ => false

/-- The same kind and conditions. -/
def samePrimitive (p q : Primitive) : Bool :=
  p.kind == q.kind && sameOption Number.same p.minimum q.minimum &&
    sameOption Number.same p.maximum q.maximum &&
    sameOption Number.same p.exclusiveMinimum q.exclusiveMinimum &&
    sameOption Number.same p.exclusiveMaximum q.exclusiveMaximum &&
    p.minLength == q.minLength && p.maxLength == q.maxLength &&
    p.pattern.map Pattern.source == q.pattern.map Pattern.source

mutual

/-- The same schema. -/
def same : Schema → Schema → Bool
  | .const a, .const b => a.same b
  | .enum as, .enum bs => Value.sameItems Number.same as bs
  | .primitive p, .primitive q => samePrimitive p q
  | .object fs closed, .object gs closed' => sameFields fs gs && closed == closed'
  | .tuple as, .tuple bs => sameSchemas as bs
  | .array a minItems maxItems, .array b minItems' maxItems' =>
    a.same b && minItems == minItems' && maxItems == maxItems'
  | .union as, .union bs => sameSchemas as bs
  | .reference a, .reference b => a == b
  | .anything, .anything => true
  | _, _ => false
termination_by structural s => s

/-- The same schemas, one by one. -/
def sameSchemas : List Schema → List Schema → Bool
  | [], [] => true
  | a :: as, b :: bs => a.same b && sameSchemas as bs
  | _, _ => false
termination_by structural schemas => schemas

/-- The same fields, one by one. -/
def sameFields : List Field → List Field → Bool
  | [], [] => true
  | ⟨name, schema, required⟩ :: fs, g :: gs =>
    name == g.name && schema.same g.schema && required == g.required && sameFields fs gs
  | _, _ => false
termination_by structural fields => fields

end

end Schema

end ServiceContract
