import ServiceContract.Schema.Basic
import ServiceContract.Version

/-!
# Interfaces

The resolved, immutable model of a service: what it is called, the types it names, the functions it
offers and the messages it sends. A registry holds the named types of one document and, by key, the
registries of other documents; a type is looked up together with the registry it is at home in,
because its own references have to be looked up there.
-/

namespace ServiceContract

/-- What a service is called. -/
structure Service where
  /-- Its name. -/
  name : String
  /-- The version of the interface. -/
  version : Version
  /-- What it is for. -/
  description : String
deriving DecidableEq

/-- A type that schemas can refer to by name. -/
structure NamedType where
  /-- Its name. -/
  name : String
  /-- What it is for. -/
  description : String
  /-- Which values it accepts. -/
  schema : Schema

/-- An argument of a function; arguments are passed by name. -/
structure Argument where
  /-- Its name. -/
  name : String
  /-- What it is for. -/
  description : String
  /-- Which values it accepts. -/
  schema : Schema

/-- What a function returns. -/
structure Returns where
  /-- What the result means. -/
  description : String
  /-- Which values it may be. -/
  schema : Schema

/-- A function that the service offers. -/
structure Function where
  /-- Its name. -/
  name : String
  /-- What it does. -/
  description : String
  /-- Its arguments, in the order of declaration. -/
  arguments : List Argument
  /-- Its result, if it has one. -/
  returns : Option Returns

/-- A message that the service sends. -/
structure Message where
  /-- Its name. -/
  name : String
  /-- When it is sent. -/
  description : String
  /-- Which payloads it has. -/
  schema : Schema

/-- The named types of a document and the registries of the documents it reaches. -/
structure Registry where
  /-- The types, in the order of declaration. -/
  types : List NamedType
  /-- The other registries by document key, in order. -/
  externals : List (String × Registry)

namespace Registry

/-- A registry without anything. -/
def empty : Registry := ⟨[], []⟩

/-- A type of the document itself. -/
def local? (registry : Registry) (name : String) : Option NamedType :=
  registry.types.find? fun named => named.name == name

/-- The type that a reference means, with the registry that it is at home in. -/
def lookup (registry : Registry) (target : TypeRef) : Option (NamedType × Registry) :=
  match target.document with
  | none => (registry.local? target.name).map (·, registry)
  | some document => do
    let home ← registry.externals.lookup document
    let named ← home.local? target.name
    return (named, home)

/-- The keys of the other documents that are reached, in order. -/
def externalDocuments (registry : Registry) : List String := registry.externals.map Prod.fst

end Registry

/-- The resolved model of a service. -/
structure Interface where
  /-- The key of the document it was loaded from. -/
  document : Option String
  /-- What the service is called. -/
  service : Service
  /-- The functions, in the order of declaration. -/
  functions : List Function
  /-- The messages, in the order of declaration. -/
  messages : List Message
  /-- The named types. -/
  registry : Registry
  /-- The reusable fragments by key, in order. -/
  fragments : List (String × Schema)

namespace Interface

/-- The named types, in the order of declaration. -/
def types (i : Interface) : List NamedType := i.registry.types

/-- A function by name. -/
def function? (i : Interface) (name : String) : Option Function :=
  i.functions.find? fun function => function.name == name

/-- A message by name. -/
def message? (i : Interface) (name : String) : Option Message :=
  i.messages.find? fun message => message.name == name

/-- A named type by name. -/
def type? (i : Interface) (name : String) : Option NamedType := i.registry.local? name

/-- A reusable fragment by key. -/
def fragment? (i : Interface) (key : String) : Option Schema := i.fragments.lookup key

end Interface

/-! ## Sameness -/

/-- Two lists agree one by one. -/
def sameList {α : Type} (same : α → α → Bool) : List α → List α → Bool
  | [], [] => true
  | a :: as, b :: bs => same a b && sameList same as bs
  | _, _ => false

/-- The same type under the same name. -/
def NamedType.same (a b : NamedType) : Bool :=
  a.name == b.name && a.description == b.description && a.schema.same b.schema

/-- The same argument under the same name. -/
def Argument.same (a b : Argument) : Bool :=
  a.name == b.name && a.description == b.description && a.schema.same b.schema

/-- The same result. -/
def Returns.same (a b : Returns) : Bool :=
  a.description == b.description && a.schema.same b.schema

/-- The same function under the same name. -/
def Function.same (a b : Function) : Bool :=
  a.name == b.name && a.description == b.description &&
    sameList Argument.same a.arguments b.arguments &&
    Schema.sameOption Returns.same a.returns b.returns

/-- The same message under the same name. -/
def Message.same (a b : Message) : Bool :=
  a.name == b.name && a.description == b.description && a.schema.same b.schema

namespace Registry

mutual

/-- The same types here and in all documents that are reached. -/
def same : Registry → Registry → Bool
  | ⟨types, externals⟩, other =>
    sameList NamedType.same types other.types && sameExternals externals other.externals
termination_by structural registry => registry

/-- The same registries under the same keys. -/
def sameExternals : List (String × Registry) → List (String × Registry) → Bool
  | [], [] => true
  | (key, registry) :: rest, (key', registry') :: rest' =>
    key == key' && registry.same registry' && sameExternals rest rest'
  | _, _ => false
termination_by structural externals => externals

end

end Registry

/-- The same interface, loaded from the same document. -/
def Interface.same (a b : Interface) : Bool :=
  a.document == b.document && decide (a.service = b.service) &&
    sameList Function.same a.functions b.functions &&
    sameList Message.same a.messages b.messages && a.registry.same b.registry &&
    sameList (fun f g => f.1 == g.1 && f.2.same g.2) a.fragments b.fragments

end ServiceContract
