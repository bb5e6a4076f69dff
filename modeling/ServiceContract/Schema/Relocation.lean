import ServiceContract.Schema.Basic

/-!
# Borrowed schemas

A fragment that is borrowed from another document names types of that document. Once it stands
elsewhere, those names have to say where they come from. Parts that name no type of their own
document are kept as they are.
-/

namespace ServiceContract.Schema

mutual

/-- Some part names a type of the schema's own document. -/
def namesOwnTypes : Schema → Bool
  | .reference target => target.document.isNone
  | .object fields _ => fieldsNameOwnTypes fields
  | .tuple items => anyNamesOwnTypes items
  | .array items _ _ => items.namesOwnTypes
  | .union alternatives => anyNamesOwnTypes alternatives
  | .const _ | .enum _ | .primitive _ | .anything => false
termination_by structural s => s

/-- Some schema names a type of its own document. -/
def anyNamesOwnTypes : List Schema → Bool
  | [] => false
  | s :: rest => s.namesOwnTypes || anyNamesOwnTypes rest
termination_by structural schemas => schemas

/-- Some field names a type of its own document. -/
def fieldsNameOwnTypes : List Field → Bool
  | [] => false
  | ⟨_, schema, _⟩ :: rest => schema.namesOwnTypes || fieldsNameOwnTypes rest
termination_by structural fields => fields

end

mutual

/-- The schema as it reads outside its document. -/
def rebase (document : String) (s : Schema) : Schema :=
  match s with
  | .reference target =>
    if target.document.isNone then .reference ⟨some document, target.name⟩ else .reference target
  | .object fields closed =>
    if fieldsNameOwnTypes fields then .object (rebaseFields document fields) closed
    else .object fields closed
  | .tuple items =>
    if anyNamesOwnTypes items then .tuple (rebaseAll document items) else .tuple items
  | .array items minItems maxItems =>
    if items.namesOwnTypes then .array (items.rebase document) minItems maxItems
    else .array items minItems maxItems
  | .union alternatives =>
    if anyNamesOwnTypes alternatives then .union (rebaseAll document alternatives)
    else .union alternatives
  | .const value => .const value
  | .enum values => .enum values
  | .primitive p => .primitive p
  | .anything => .anything
termination_by structural s

/-- Several schemas as they read outside their document. -/
def rebaseAll (document : String) : List Schema → List Schema
  | [] => []
  | s :: rest => s.rebase document :: rebaseAll document rest
termination_by structural schemas => schemas

/-- Fields as they read outside their document. -/
def rebaseFields (document : String) : List Field → List Field
  | [] => []
  | ⟨name, schema, required⟩ :: rest =>
    ⟨name, schema.rebase document, required⟩ :: rebaseFields document rest
termination_by structural fields => fields

end

end ServiceContract.Schema
