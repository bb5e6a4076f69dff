import ServiceContract.Schema.Basic

/-!
# Schemas as JSON

The canonical description of a schema: an object whose member `node` names the form. Conditions
that are not set are left out.
-/

namespace ServiceContract

open Json (Value Members)

/-- A member that is left out when there is nothing to say. -/
def optionalMember {α : Type} (key : String) (value : α → Value) : Option α → Members
  | some a => [(key, value a)]
  | none => []

/-- The members that describe a primitive. -/
def Primitive.members (p : Primitive) : Members :=
  ("kind", .string p.kind.name) ::
    (optionalMember "minimum" .number p.minimum ++
      optionalMember "maximum" .number p.maximum ++
      optionalMember "exclusive_minimum" .number p.exclusiveMinimum ++
      optionalMember "exclusive_maximum" .number p.exclusiveMaximum ++
      optionalMember "min_length" Value.ofNat p.minLength ++
      optionalMember "max_length" Value.ofNat p.maxLength ++
      optionalMember "pattern" (fun pattern => .string pattern.source) p.pattern)

/-- The members that describe the target of a reference. -/
def TypeRef.members (target : TypeRef) : Members :=
  optionalMember "document" .string target.document ++ [("name", .string target.name)]

namespace Schema

/-- An object with the form in front. -/
def node (form : String) (members : Members) : Value := .object (("node", .string form) :: members)

mutual

/-- The description of a schema. -/
def describe : Schema → Value
  | .const value => node "const" [("value", value)]
  | .enum values => node "enum" [("values", .array values)]
  | .primitive p => node "primitive" p.members
  | .object fields closed =>
    node "object" [("fields", .array (describeFields fields)), ("closed", .bool closed)]
  | .tuple items => node "tuple" [("items", .array (describeAll items))]
  | .array items minItems maxItems =>
    node "array" (("items", items.describe) ::
      (optionalMember "min_items" Value.ofNat minItems ++
        optionalMember "max_items" Value.ofNat maxItems))
  | .union alternatives => node "union" [("alternatives", .array (describeAll alternatives))]
  | .reference target => node "reference" target.members
  | .anything => node "opaque" []
termination_by structural s => s

/-- The descriptions of several schemas. -/
def describeAll : List Schema → List Value
  | [] => []
  | s :: rest => s.describe :: describeAll rest
termination_by structural schemas => schemas

/-- The descriptions of fields. -/
def describeFields : List Field → List Value
  | [] => []
  | ⟨name, schema, required⟩ :: rest =>
    .object [("name", .string name), ("schema", schema.describe), ("required", .bool required)] ::
      describeFields rest
termination_by structural fields => fields

end

end Schema

end ServiceContract
