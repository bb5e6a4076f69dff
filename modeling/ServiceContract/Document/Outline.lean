import ServiceContract.Interface.Basic
import ServiceContract.Naming

/-!
# Outline of a document

A document is an object with a `service` block and, if wanted, lists of `types`, `functions` and
`messages` and a mapping of `schemas`. Its outline is what can be told without resolving a schema:
the service, the header of every declaration, and that no two declarations are confused with one
another. Names must differ within a list, and the identifiers of types, functions and messages must
differ among all of them, those of the arguments within one function.
-/

namespace ServiceContract

open Json (Value Members)

/-- The name and description of a declaration, with all its members. -/
structure Header where
  /-- The declared name. -/
  name : String
  /-- The description. -/
  description : String
  /-- The members of the declaration. -/
  raw : Members

/-- A function with the headers of its arguments. -/
structure FunctionHeader where
  /-- The header of the function. -/
  header : Header
  /-- The headers of its arguments. -/
  arguments : List Header

/-- What a document declares. -/
structure Outline where
  /-- The service block. -/
  service : Service
  /-- The declared types. -/
  types : List Header
  /-- The declared functions. -/
  functions : List FunctionHeader
  /-- The declared messages. -/
  messages : List Header
  /-- The raw reusable fragments by key. -/
  fragments : Members

/-- A location in a document: its key, if it has one, and the path in it. -/
def locate (document : Option String) (path : String) : String := document.getD "" ++ "#" ++ path

namespace Outline

/-! ## Members -/

/-- A member that has to be there. -/
def requiredMember (members : Members) (key location : String) : Except Error Value :=
  match members.lookup key with
  | some value => .ok value
  | none => .error (.document location s!"missing '{key}'")

/-- A text that has to be there. -/
def stringMember (members : Members) (key location : String) : Except Error String :=
  match members.lookup key with
  | some (.string text) => .ok text
  | _ => .error (.document location s!"'{key}' must be a string")

/-- The description of a declaration, which must not be blank. -/
def descriptionMember (members : Members) (location : String) : Except Error String := do
  let text ← stringMember members "description" location
  if Text.isBlank text then throw (.document location "'description' must not be empty")
  return text

/-! ## Headers -/

/-- The service block. -/
def readService (locate : String → String) (root : Members) : Except Error Service :=
  match root.lookup "service" with
  | some (.object members) => do
    let name ← stringMember members "name" (locate "/service")
    checkKebabCase .service name
    let written ← stringMember members "version" (locate "/service")
    match Version.ofText? written with
    | none =>
      throw (.document (locate "/service/version")
        s!"'{written}' is not a semantic version: malformed version")
    | some version =>
      let description ← descriptionMember members (locate "/service")
      return ⟨name, version, description⟩
  | _ => .error (.document (locate "/service") "'service' must be a mapping")

/-- The header of a declaration. -/
def readHeader (role : Role) (location : String) : Value → Except Error Header
  | .object members => do
    let name ← stringMember members "name" location
    checkKebabCase role name
    let description ← descriptionMember members location
    return ⟨name, description, members⟩
  | _ => .error (.document location (role.label ++ " declaration must be a mapping"))

/-- The headers of a list of declarations, numbered from `index` on. Each is read, then compared
with the names before it. -/
def readHeaders (role : Role) (locate : Nat → String) (repeated : (name location : String) → Error) :
    (index : Nat) → (earlier : List String) → List Value → Except Error (List Header)
  | _, _, [] => .ok []
  | index, earlier, item :: rest => do
    let header ← readHeader role (locate index) item
    if header.name ∈ earlier then throw (repeated header.name (locate index))
    return header :: (← readHeaders role locate repeated (index + 1) (header.name :: earlier) rest)

/-- The headers of a section of the document. -/
def readSection (locate : String → String) (root : Members) (name : String) (role : Role) :
    Except Error (List Header) :=
  match root.lookup name with
  | none => .ok []
  | some (.array items) =>
    readHeaders role (fun index => locate s!"/{name}/{index}")
      (fun declared location => .identifierCollision
        (role.label ++ s!" '{declared}' declared more than once at {location}")) 0 [] items
  | some _ => .error (.document (locate s!"/{name}") s!"'{name}' must be a list")

/-- The headers of the arguments of a function. -/
def readArguments (locate : String → String) (function : Header) : Except Error FunctionHeader :=
  let path := "/functions/" ++ function.name ++ "/arguments"
  match function.raw.lookup "arguments" with
  | none => .ok ⟨function, []⟩
  | some (.array items) => do
    let arguments ← readHeaders .field (fun index => locate s!"{path}/{index}")
      (fun declared _ => .identifierCollision
        (s!"argument '{declared}' declared more than once for function '" ++ function.name ++ "'"))
      0 [] items
    return ⟨function, arguments⟩
  | some _ => .error (.document (locate path) "'arguments' must be a list")

/-- The raw fragments. -/
def readFragments (locate : String → String) (root : Members) : Except Error Members :=
  match root.lookup "schemas" with
  | none => .ok []
  | some (.object members) => .ok members
  | some _ => .error (.document (locate "/schemas") "'schemas' must be a mapping")

/-! ## Identifiers -/

/-- The declarations that share one space of identifiers. -/
def callables (outline : Outline) : List (Role × String) :=
  (outline.types.map fun h => (.type, h.name)) ++
    (outline.functions.map fun f => (.function, f.header.name)) ++
    outline.messages.map fun h => (.message, h.name)

/-- Refuses two declarations with one identifier; the first ones are given with their labels. -/
def checkCallables (rules : IdentifierRules) :
    (earlier : List (String × String)) → List (Role × String) → Except Error Unit
  | _, [] => .ok ()
  | earlier, (role, name) :: rest => do
    let identifier ← rules.derive role name
    let label := role.label ++ s!" '{name}'"
    match earlier.lookup identifier with
    | some previous =>
      throw (.identifierCollision
        s!"{previous} and {label} both derive identifier '{identifier}'")
    | none => checkCallables rules ((identifier, label) :: earlier) rest

/-- Refuses two arguments of one function with one identifier. -/
def checkArguments (rules : IdentifierRules) (function : String) :
    (earlier : List (String × String)) → List Header → Except Error Unit
  | _, [] => .ok ()
  | earlier, argument :: rest => do
    let identifier ← rules.derive .field argument.name
    match earlier.lookup identifier with
    | some previous =>
      throw (.identifierCollision (s!"arguments '{previous}' and '" ++ argument.name ++
        s!"' of function '{function}' both derive identifier '{identifier}'"))
    | none => checkArguments rules function ((identifier, argument.name) :: earlier) rest

/-- Refuses declarations whose identifiers cannot be told apart. -/
def checkIdentifiers (rules : IdentifierRules) (outline : Outline) : Except Error Unit := do
  checkCallables rules [] outline.callables
  outline.functions.forM fun function =>
    checkArguments rules function.header.name [] function.arguments

/-- The outline of a raw document with a key. -/
def ofValue (rules : IdentifierRules) (document : Option String) (raw : Value) :
    Except Error Outline :=
  let locate := locate document
  match raw with
  | .object root => do
    let service ← readService locate root
    let types ← readSection locate root "types" .type
    let functions ← readSection locate root "functions" .function
    let messages ← readSection locate root "messages" .message
    let fragments ← readFragments locate root
    let functions ← functions.mapM (readArguments locate)
    let outline : Outline := ⟨service, types, functions, messages, fragments⟩
    checkIdentifiers rules outline
    return outline
  | _ => .error (.document (locate "") "document must be a mapping")

end Outline

end ServiceContract
