import ServiceContract.Schema.Basic

/-!
# Finite values

Recursion among named types is fine as long as some branch ends. Given the types that are known to
have a finite value, `hasFiniteValue` says whether a schema has one; bounds and patterns are not
looked at, and types of other documents have been judged there.
-/

namespace ServiceContract.Schema

mutual

/-- The schema has a finite value, if the listed types of its own document have one. -/
def hasFiniteValue (finite : List String) : Schema → Bool
  | .reference target => target.document.isSome || decide (target.name ∈ finite)
  | .object fields _ => fieldsHaveFiniteValues finite fields
  | .tuple items => allHaveFiniteValues finite items
  | .array items minItems _ => minItems.getD 0 == 0 || items.hasFiniteValue finite
  | .union alternatives => anyHasFiniteValue finite alternatives
  | .enum values => !values.isEmpty
  | .const _ | .primitive _ | .anything => true
termination_by structural s => s

/-- Every required field has a finite value. -/
def fieldsHaveFiniteValues (finite : List String) : List Field → Bool
  | [] => true
  | ⟨_, schema, required⟩ :: rest =>
    (!required || schema.hasFiniteValue finite) && fieldsHaveFiniteValues finite rest
termination_by structural fields => fields

/-- Every schema has a finite value. -/
def allHaveFiniteValues (finite : List String) : List Schema → Bool
  | [] => true
  | s :: rest => s.hasFiniteValue finite && allHaveFiniteValues finite rest
termination_by structural schemas => schemas

/-- Some schema has a finite value. -/
def anyHasFiniteValue (finite : List String) : List Schema → Bool
  | [] => false
  | s :: rest => s.hasFiniteValue finite || anyHasFiniteValue finite rest
termination_by structural schemas => schemas

end

mutual

/-- The types of its own document that the schema names, in order. -/
def ownTypes : Schema → List String
  | .reference target => if target.document.isNone then [target.name] else []
  | .object fields _ => ownTypesOfFields fields
  | .tuple items => ownTypesOfAll items
  | .array items _ _ => items.ownTypes
  | .union alternatives => ownTypesOfAll alternatives
  | .const _ | .enum _ | .primitive _ | .anything => []
termination_by structural s => s

/-- The types that several schemas name, in order. -/
def ownTypesOfAll : List Schema → List String
  | [] => []
  | s :: rest => s.ownTypes ++ ownTypesOfAll rest
termination_by structural schemas => schemas

/-- The types that fields name, in order. -/
def ownTypesOfFields : List Field → List String
  | [] => []
  | ⟨_, schema, _⟩ :: rest => schema.ownTypes ++ ownTypesOfFields rest
termination_by structural fields => fields

end

end ServiceContract.Schema
