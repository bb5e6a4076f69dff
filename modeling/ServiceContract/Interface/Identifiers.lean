import ServiceContract.Interface.Basic
import ServiceContract.Naming

/-!
# Identifiers of an interface

The identifiers of every declaration of an interface, in order: the service, the types, each
function with its arguments behind it, the messages.
-/

namespace ServiceContract

/-- An identifier with the declaration that it belongs to. -/
structure Identifier where
  /-- What the declared name is used for. -/
  role : Role
  /-- The declared name. -/
  name : String
  /-- The derived identifier. -/
  identifier : String
deriving DecidableEq, Repr

namespace Interface

/-- Every declared name with its role, in order. -/
def declarations (i : Interface) : List (Role × String) :=
  (.service, i.service.name) ::
    (i.types.map fun t => (.type, t.name)) ++
    (i.functions.flatMap fun f => (.function, f.name) :: f.arguments.map fun a => (.field, a.name)) ++
    i.messages.map fun m => (.message, m.name)

/-- The identifiers of all declarations. -/
def identifiers (i : Interface) (rules : IdentifierRules) : Except Error (List Identifier) :=
  i.declarations.mapM fun (role, name) => do
    return ⟨role, name, ← rules.derive role name⟩

end Interface

end ServiceContract
