import ServiceContract.Document.Outline
import ServiceContract.Interface.Inhabited
import ServiceContract.Reference
import ServiceContract.Schema.Reading
import ServiceContract.Schema.Relocation

/-!
# Resolving a document

Resolution turns a raw document into an interface, or fails as a whole. References to named types
stay references. Reusable fragments are put in place of references to them; each fragment is
resolved once and must not reach itself. Other documents come from a library, which resolves them
on its own and may keep a state.

A fragment is resolved with the list of the fragments that may still be entered: those that are not
being resolved around it. The list grows shorter with every fragment entered, so resolution ends
whatever the fragments hold.
-/

namespace ServiceContract

open Json (Value Members)

/-- Where other documents come from. -/
structure Library (σ : Type) where
  /-- The key of a document named in the document with the first key. -/
  resolveKey : (origin : Option String) → (raw : String) → Except Error String
  /-- The interface of the document with a key. -/
  interfaceAt : (key : String) → EStateM Error σ Interface

/-- What resolution knows of the document at hand. -/
structure Surroundings (σ : Type) where
  /-- The key of the document. -/
  document : Option String
  /-- The names of its types. -/
  typeNames : List String
  /-- Where other documents come from, if anywhere. -/
  library : Option (Library σ)

/-- What resolution has achieved so far. -/
structure Progress (σ : Type) where
  /-- The resolved fragments by key, in order. -/
  fragments : List (String × Schema)
  /-- The interfaces of other documents by key, in order. -/
  externals : List (String × Interface)
  /-- The state of the library. -/
  library : σ

/-- A step of resolution. -/
abbrev Resolving (σ α : Type) := EStateM Error (Progress σ) α

namespace Resolving

variable {σ α : Type}

/-- A step of the library. -/
def inLibrary (step : EStateM Error σ α) : Resolving σ α := fun progress =>
  match step progress.library with
  | .ok a library => .ok a { progress with library }
  | .error e library => .error e { progress with library }

/-- A step without state. -/
def ofExcept : Except Error α → Resolving σ α
  | .ok a => pure a
  | .error e => throw e

end Resolving

/-- The entries with other keys. -/
def withoutKey {α : Type} (key : String) (entries : List (String × α)) : List (String × α) :=
  entries.filter fun entry => entry.1 != key

theorem length_withoutKey_lt {α : Type} {key : String} {entries : List (String × α)} {a : α}
    (h : entries.lookup key = some a) : (withoutKey key entries).length < entries.length := by
  induction entries with
  | nil => simp at h
  | cons entry rest ih =>
    obtain ⟨k, v⟩ := entry
    have hle : (withoutKey key rest).length ≤ rest.length := List.length_filter_le _ _
    by_cases hk : key = k
    · subst hk
      simp only [withoutKey, List.filter_cons, bne_self_eq_false, Bool.false_eq_true, if_false,
        List.length_cons]
      exact Nat.lt_succ_of_le hle
    · have hb : (key == k) = false := by simpa using hk
      have hrest : rest.lookup key = some a := by simpa [List.lookup_cons, hb] using h
      have hk' : (k != key) = true := by simpa using Ne.symm hk
      simp only [withoutKey, List.filter_cons, hk', if_true, List.length_cons]
      exact Nat.succ_lt_succ (ih hrest)

namespace Surroundings

variable {σ : Type}

/-- The location of a path in the document. -/
def locate (here : Surroundings σ) (path : String) : String :=
  ServiceContract.locate here.document path

/-- The interface of another document, asked for once. -/
def external (here : Surroundings σ) (document location : String) : Resolving σ Interface := do
  match (← get).externals.lookup document with
  | some found => return found
  | none =>
    match here.library with
    | none =>
      throw (.unresolvedReference location s!"{document} (no document loader configured)")
    | some library =>
      let found ← Resolving.inLibrary (library.interfaceAt document)
      modify fun progress =>
        { progress with externals := putEntry document found progress.externals }
      return found

/-- The key of the document that a reference names, if it names one. Without a library the name
itself has to do. -/
def documentKey (here : Surroundings σ) (r : Reference) : Except Error (Option String) :=
  match r.document, here.library with
  | some raw, some library => (library.resolveKey here.document raw).map some
  | some raw, none => .ok (some raw)
  | none, _ => .ok none

/-- What a reference stands for, given what the fragments of this document stand for. A document
that is named by its own key is this document. -/
def resolveReference (here : Surroundings σ)
    (fragment : (key location : String) → Resolving σ Schema) : RefResolver (Progress σ) :=
  fun raw location => do
    let unresolved {α : Type} : Resolving σ α := throw (.unresolvedReference location raw)
    match Reference.ofText raw with
    | .error message => throw (.unresolvedReference location message)
    | .ok reference =>
      let document ← Resolving.ofExcept (here.documentKey reference)
      match if document = here.document then none else document with
      | none =>
        match reference.target with
        | .type name =>
          if name ∈ here.typeNames then return .reference (.inside name) else unresolved
        | .fragment key => fragment key location
      | some document =>
        let interface ← here.external document location
        match reference.target with
        | .type name =>
          match interface.type? name with
          | some _ => return .reference ⟨some document, name⟩
          | none => unresolved
        | .fragment key =>
          match interface.fragment? key with
          | some schema => return schema.rebase document
          | none => unresolved

/-- The error of a fragment that is asked for while it is being resolved. -/
def fragmentCycle (stack : List String) (key location : String) : Error :=
  let circle := stack.dropWhile (· ≠ key) ++ [key]
  .cyclicReference location (Text.join " -> " (circle.map fun k => "#/schemas/" ++ k))

/-- What a fragment stands for. The fragments that are being resolved around it stand on the stack,
the outermost first, and the others are free to be entered. -/
def fragment (here : Surroundings σ) (free : Members) (stack : List String)
    (key location : String) : Resolving σ Schema := do
  match (← get).fragments.lookup key with
  | some schema => return schema
  | none =>
    match _found : free.lookup key with
    | some raw =>
      let inner := fun key' location' =>
        fragment here (withoutKey key free) (stack ++ [key]) key' location'
      let schema ← Schema.ofValue (here.resolveReference inner) raw (here.locate ("/schemas/" ++ key))
      modify fun progress =>
        { progress with fragments := putEntry key schema progress.fragments }
      return schema
    | none =>
      if key ∈ stack then throw (fragmentCycle stack key location)
      else throw (.unresolvedReference location ("#/schemas/" ++ key))
termination_by free.length
decreasing_by exact length_withoutKey_lt _found

/-! ## Declarations -/

/-- Resolves the raw schema at a path. -/
def schemaAt (here : Surroundings σ) (fragments : Members) (raw : Value) (path : String) :
    Resolving σ Schema :=
  Schema.ofValue (here.resolveReference (here.fragment fragments [])) raw (here.locate path)

/-- Resolves the schema of a declaration. -/
def declaredSchema (here : Surroundings σ) (fragments : Members) (raw : Members) (path : String) :
    Resolving σ Schema := do
  let schema ← Resolving.ofExcept (Outline.requiredMember raw "schema" (here.locate path))
  here.schemaAt fragments schema path

/-- Resolves a named type. -/
def namedType (here : Surroundings σ) (fragments : Members) (h : Header) :
    Resolving σ NamedType := do
  return ⟨h.name, h.description,
    ← here.declaredSchema fragments h.raw ("/types/" ++ h.name ++ "/schema")⟩

/-- Resolves an argument of a function. -/
def argument (here : Surroundings σ) (fragments : Members) (function : String) (h : Header) :
    Resolving σ Argument := do
  return ⟨h.name, h.description,
    ← here.declaredSchema fragments h.raw
      ("/functions/" ++ function ++ "/arguments/" ++ h.name ++ "/schema")⟩

/-- Resolves the result of a function. -/
def returns (here : Surroundings σ) (fragments : Members) (h : Header) :
    Resolving σ (Option Returns) :=
  let path := "/functions/" ++ h.name ++ "/returns"
  match h.raw.lookup "returns" with
  | none => return none
  | some (.object raw) => do
    let description ← Resolving.ofExcept (Outline.descriptionMember raw (here.locate path))
    return some ⟨description, ← here.declaredSchema fragments raw (path ++ "/schema")⟩
  | some _ => throw (.document (here.locate path) "'returns' must be a mapping")

/-- Resolves a function. -/
def function (here : Surroundings σ) (fragments : Members) (f : FunctionHeader) :
    Resolving σ Function := do
  let arguments ← f.arguments.mapM (here.argument fragments f.header.name)
  return ⟨f.header.name, f.header.description, arguments, ← here.returns fragments f.header⟩

/-- Resolves a message. -/
def message (here : Surroundings σ) (fragments : Members) (h : Header) :
    Resolving σ Message := do
  return ⟨h.name, h.description,
    ← here.declaredSchema fragments h.raw ("/messages/" ++ h.name ++ "/schema")⟩

end Surroundings

/-- The registries of the documents that an interface reaches, from the interfaces of those that it
names itself. A document that it names goes before what others say of it. -/
def mergeExternals (interfaces : List (String × Interface)) : List (String × Registry) :=
  interfaces.foldl (fun merged (key, interface) =>
    let withTransitive := interface.registry.externals.foldl (fun merged (key, registry) =>
      if (merged.lookup key).isSome then merged else putEntry key registry merged) merged
    putEntry key interface.registry withTransitive) []

variable {σ : Type}

/-- Resolves everything that a document declares. Fragments that nothing refers to are resolved as
well, so that their errors are not hidden. -/
def Outline.resolve (outline : Outline) (document : Option String) (library : Option (Library σ)) :
    Resolving σ Interface := do
  let here : Surroundings σ := ⟨document, outline.types.map Header.name, library⟩
  let types ← outline.types.mapM (here.namedType outline.fragments)
  let functions ← outline.functions.mapM (here.function outline.fragments)
  let messages ← outline.messages.mapM (here.message outline.fragments)
  outline.fragments.forM fun (key, _) =>
    discard (here.fragment outline.fragments [] key (here.locate ("/schemas/" ++ key)))
  Resolving.ofExcept (checkInhabited here.locate types)
  let progress ← get
  return {
    document
    service := outline.service
    functions
    messages
    registry := ⟨types, mergeExternals progress.externals⟩
    fragments := progress.fragments }

/-- Resolves a raw document with a key, with other documents from a library. -/
def resolveDocument (rules : IdentifierRules) (document : Option String)
    (library : Option (Library σ)) (raw : Value) : EStateM Error σ Interface := fun state =>
  match Outline.ofValue rules document raw with
  | .error e => .error e state
  | .ok outline =>
    match outline.resolve document library ⟨[], [], state⟩ with
    | .ok interface progress => .ok interface progress.library
    | .error e progress => .error e progress.library

/-- Resolves a document that stands alone. -/
def resolveAlone (rules : IdentifierRules) (raw : Value) : Except Error Interface :=
  match resolveDocument (σ := Unit) rules none none raw () with
  | .ok interface _ => .ok interface
  | .error e _ => .error e

end ServiceContract
