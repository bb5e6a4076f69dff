import ServiceContract.Document.Key
import ServiceContract.Document.Resolution
import ServiceContract.Json.Reader

/-!
# The document store

A store keeps every raw document once it was loaded and every interface once it was resolved, each
under its key, so that all spellings of a name lead to one document. Failures are not kept: what
failed is tried afresh the next time. The store also notes every attempt to load a document.

Before a document is resolved, the documents that it reaches are loaded and checked for circles. The
check goes through the document graph depth first. It carries the list of keys that may still be
entered, those that are not on the way to the document at hand, and so ends on every graph;
resolution carries the keys of the documents that are not being resolved around it in the same way.

An operation uses a loader that answers each key in one way. Between two operations the loader may
change, as files do, or as a connection that fails now and then.
-/

namespace ServiceContract

open Json (Value)

/-- Where raw documents come from. -/
structure Loader where
  /-- The key of a document named in the document with the first key, or a root key. -/
  resolveKey : (origin : Option String) → (raw : String) → Except Error String
  /-- The keys that there may be documents under. -/
  keys : List String
  /-- The document under such a key. -/
  contents : (key : String) → Except Error Value

namespace Loader

/-- Loads the document under a key. -/
def load (loader : Loader) (key : String) : Except Error Value :=
  if key ∈ loader.keys then loader.contents key else .error (.load key "no such document")

theorem mem_keys_of_load {loader : Loader} {key : String} {raw : Value}
    (h : loader.load key = .ok raw) : key ∈ loader.keys := by
  by_cases hmem : key ∈ loader.keys
  · exact hmem
  · simp [load, hmem] at h

/-- The loader of given documents, each under the key of the name it is given with; of two with one
key the later is kept. -/
def ofDocuments (documents : List (String × Value)) : Loader :=
  let table := nameTable (documents.map fun (name, raw) => (DocumentKey.normalize none name, raw))
  { resolveKey := fun origin raw => .ok (DocumentKey.normalize origin raw)
    keys := table.map Prod.fst
    contents := fun key =>
      match table.lookup key with
      | some raw => .ok raw
      | none => .error (.load key "no such document") }

end Loader

/-- An attempt to load a document. -/
structure Attempt where
  /-- The key of the document. -/
  key : String
  /-- The document was loaded. -/
  succeeded : Bool
deriving DecidableEq, Repr

/-- The documents that were loaded and resolved. -/
structure Store where
  /-- The raw documents by key, in order. -/
  raws : List (String × Value)
  /-- The interfaces by key, in order. -/
  resolved : List (String × Interface)
  /-- The attempts to load a document, in the order they were made. -/
  attempts : List Attempt

namespace Store

/-- A store without documents. -/
def empty : Store := ⟨[], [], []⟩

/-- How many raw documents the store holds. -/
def loadedCount (store : Store) : Nat := store.raws.length

end Store

/-- An operation on a store. -/
abbrev Storing (α : Type) := EStateM Error Store α

/-- A loader and the rules for the documents resolved from it. -/
structure Source where
  /-- Where raw documents come from. -/
  loader : Loader
  /-- The words that identifiers must keep away from. -/
  rules : IdentifierRules

namespace Source

/-- A step without state. -/
def ofExcept {α : Type} : Except Error α → Storing α
  | .ok a => pure a
  | .error e => throw e

/-- The raw document under a key, loaded on first use. -/
def rawAt (source : Source) (key : String) : Storing Value := do
  match (← get).raws.lookup key with
  | some raw => return raw
  | none =>
    match source.loader.load key with
    | .ok raw =>
      modify fun store => { store with
        raws := putEntry key raw store.raws
        attempts := store.attempts ++ [⟨key, true⟩] }
      return raw
    | .error e =>
      modify fun store => { store with attempts := store.attempts ++ [⟨key, false⟩] }
      throw e

/-! ## The document graph -/

/-- The keys of the other documents that a raw document names, in order. -/
def children (source : Source) (key : String) (raw : Value) : Except Error (List String) := do
  let keys ← (documentsNamedIn raw).mapM (source.loader.resolveKey (some key))
  return (nameSet keys).filter (· ≠ key)

/-- The names other than one. -/
def without (name : String) (names : List String) : List String := names.filter (· ≠ name)

theorem length_without_lt {name : String} {names : List String} (h : name ∈ names) :
    (without name names).length < names.length :=
  List.length_filter_lt_length_iff_exists.2 ⟨name, h, by simp⟩

/-- The error of a document that is reached from itself. -/
def documentCycle (stack : List String) (key : String) : Error :=
  let circle := stack.dropWhile (· ≠ key) ++ [key]
  .cyclicReference (stack.getLastD key ++ "#") (Text.join " -> " circle)

/-- Loads what is reached from a key and refuses circles. The stack holds the keys on the way to it,
the outermost first, and `free` the other keys; a key in neither list can only fail to load. Keys
that were gone through before are in `done`, and the keys gone through by now are the result. -/
def visit (source : Source) (free stack done : List String) (key : String) :
    Storing (List String) := do
  if key ∈ done then return done
  else if _free : key ∈ free then
    let raw ← source.rawAt key
    let children ← ofExcept (source.children key raw)
    let done ← children.foldlM (fun done child =>
      visit source (without key free) (stack ++ [key]) done child) done
    return key :: done
  else if key ∈ stack then throw (documentCycle stack key)
  else
    discard (source.rawAt key)
    return done
termination_by free.length
decreasing_by exact length_without_lt _free

/-- Loads all documents that are reached from a key and refuses circles among them. -/
def checkGraph (source : Source) (keys : List String) (key : String) : Storing Unit :=
  discard (source.visit keys [] [] key)

/-! ## Interfaces -/

/-- The interface under a key, resolved on first use. The documents that are being resolved around
it are those that are in `keys` and not in `free`; one of them cannot be had. -/
def interfaceAt (source : Source) (keys free : List String) (key : String) : Storing Interface := do
  source.checkGraph keys key
  match (← get).resolved.lookup key with
  | some interface => return interface
  | none =>
    if _free : key ∈ free then
      let raw ← source.rawAt key
      let library : Library Store :=
        { resolveKey := source.loader.resolveKey
          interfaceAt := fun key' => interfaceAt source keys (without key free) key' }
      let interface ← resolveDocument source.rules (some key) (some library) raw
      modify fun store => { store with resolved := putEntry key interface store.resolved }
      return interface
    else throw (.stalled key)
termination_by free.length
decreasing_by exact length_without_lt _free

/-- All keys that a document may be found under: those of the loader and those of the store. -/
def knownKeys (source : Source) (store : Store) : List String :=
  source.loader.keys ++ store.raws.map Prod.fst

/-- The documents of a store as a library. -/
def library (source : Source) (store : Store) : Library Store :=
  let keys := source.knownKeys store
  { resolveKey := source.loader.resolveKey
    interfaceAt := source.interfaceAt keys keys }

/-- The raw document of a name. -/
def raw (source : Source) (name : String) : Storing Value := do
  source.rawAt (← ofExcept (source.loader.resolveKey none name))

/-- The interface of a name. -/
def interface (source : Source) (name : String) : Storing Interface := do
  let key ← ofExcept (source.loader.resolveKey none name)
  let keys := source.knownKeys (← get)
  source.interfaceAt keys keys key

end Source

/-! ## Resolvers -/

/-- Resolves documents under rules of its own, with other documents from a source if it has one. -/
structure Resolver where
  /-- The words that identifiers must keep away from. -/
  rules : IdentifierRules
  /-- Where other documents come from. -/
  source : Option Source

namespace Resolver

/-- A resolver under given rules, which may have a loader for other documents. -/
def new (rules : IdentifierRules) (loader : Option Loader) : Resolver :=
  ⟨rules, loader.map (⟨·, rules⟩)⟩

/-- The resolver with other documents from a loader, under its own rules. -/
def withLoader (resolver : Resolver) (loader : Loader) : Resolver :=
  { resolver with source := some ⟨loader, resolver.rules⟩ }

/-- The resolver with other documents from a source, under the rules of the source. -/
def withSource (resolver : Resolver) (source : Source) : Resolver :=
  { resolver with source := some source }

/-- Resolves a raw document. -/
def resolve (resolver : Resolver) (raw : Value) : Storing Interface := fun store =>
  resolveDocument resolver.rules none (resolver.source.map fun source => source.library store) raw
    store

/-- Loads and resolves the document of a name. -/
def load (resolver : Resolver) (name : String) : Storing Interface :=
  match resolver.source with
  | some source => source.interface name
  | none => throw (.config s!"cannot load '{name}': no document loader configured")

end Resolver

/-- Reads the text of a document that stands alone and resolves it. -/
def Interface.ofText (text : String) : Except Error Interface :=
  match Value.read text.toByteArray.data.toList with
  | .ok raw => resolveAlone .none raw
  | .error fault => .error (.document "#" ("invalid JSON: " ++ fault.message))

end ServiceContract
