import ServiceContract.Boundary.Bindings
import ServiceContract.Interface.Basic
import ServiceContract.Json.Reader
import ServiceContract.Naming

/-!
# Configuration

Two small files configure a deployment: the words that a target language reserves, by role, and the
endpoints of functions and messages. Each is a record of a few fields that may all be left out. It
is written as an object, with known fields only and each at most once, or as an array of the fields
in order, where fields at the end may be left out.
-/

namespace ServiceContract

namespace Json

/-- A list of texts. -/
def texts : Reading (List String) := fun text =>
  match skipBlanks text with
  | 0x5b :: rest => delimited 0x5d string rest
  | rest => .error (faultAt rest)

/-- Texts by key; a repeated key takes the last text. -/
def textTable : Reading (List (String × String)) := fun text =>
  match skipBlanks text with
  | 0x7b :: rest => do
    let (entries, rest) ← delimited 0x7d (member string) rest
    return (nameTable entries, rest)
  | rest => .error (faultAt rest)

/-- A record of fields of one kind, as an object or as an array. -/
def record {α : Type} (names : List String) (field : Reading α) : Reading (List (String × α)) :=
  fun text =>
    match skipBlanks text with
    | 0x7b :: rest => do
      let (fields, rest) ← delimited 0x7d (member field) rest
      let keys := fields.map Prod.fst
      if keys.all (· ∈ names) && decide keys.Nodup then return (fields, rest)
      else throw (.shape "known fields, each once")
    | 0x5b :: rest => do
      let (fields, rest) ← delimited 0x5d field rest
      if fields.length ≤ names.length then return (names.zip fields, rest)
      else throw (.shape "fewer fields")
    | rest => .error (faultAt rest)

end Json

open Json (wholly record texts textTable)

/-! ## Reserved words -/

/-- Words to be reserved, by role. -/
structure ReservedWords where
  /-- The words of a role, in the order they are given. -/
  words : Role → List String

namespace ReservedWords

/-- Reads reserved words. -/
def ofText (text : String) : Except Error ReservedWords :=
  match wholly (record (Role.all.map Role.label) texts) text.toByteArray.data.toList with
  | .ok fields => .ok ⟨fun role => (fields.lookup role.label).getD []⟩
  | .error fault => .error (.config ("invalid reserved words: " ++ fault.message))

/-- The rules that keep away from the words. -/
def toRules (reserved : ReservedWords) : IdentifierRules :=
  Role.all.foldl (fun rules role => rules.reserve role (reserved.words role)) .none

end ReservedWords

/-! ## Endpoints -/

/-- Endpoints as they are configured, in the order of the names. -/
structure BindingConfig where
  /-- The endpoints of functions. -/
  functions : List (String × String)
  /-- The endpoints of messages. -/
  messages : List (String × String)

namespace BindingConfig

/-- Reads endpoints. -/
def ofText (text : String) : Except Error BindingConfig :=
  match wholly (record ["functions", "messages"] textTable) text.toByteArray.data.toList with
  | .ok fields =>
    .ok ⟨(fields.lookup "functions").getD [], (fields.lookup "messages").getD []⟩
  | .error fault => .error (.config ("invalid binding config: " ++ fault.message))

/-- Refuses a blank endpoint. -/
def checkEndpoint (name endpoint : String) : Except Error Unit :=
  if Text.isBlank endpoint then .error (.config s!"endpoint for '{name}' must not be empty")
  else .ok ()

/-- The bindings for an interface, which must declare every name that is configured. -/
def toBindings (config : BindingConfig) (i : Interface) : Except Error Bindings := do
  let bindings ← config.functions.foldlM (fun (bindings : Bindings) (name, endpoint) => do
    if (i.function? name).isNone then throw (.unknownFunction name)
    checkEndpoint name endpoint
    return bindings.withFunction name endpoint) Bindings.empty
  config.messages.foldlM (fun (bindings : Bindings) (name, endpoint) => do
    if (i.message? name).isNone then throw (.unknownMessage name)
    checkEndpoint name endpoint
    return bindings.withMessage name endpoint) bindings

end BindingConfig

end ServiceContract
