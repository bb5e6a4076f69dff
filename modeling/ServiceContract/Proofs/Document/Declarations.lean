import ServiceContract.Document.Resolution
import ServiceContract.Proofs.Document.Sites
import ServiceContract.Proofs.Pairing

/-!
# Declarations that go together

A document is resolved declaration by declaration, and the interface is assembled at the end. What
makes the raw schemas of one outline go together when they are resolved in two surroundings makes the
declarations go together, and all of the outline.
-/

namespace ServiceContract

open Json (Value Members)

variable {σ τ : Type}

/-! ## Parts of an interface -/

/-- The declarations of an interface. -/
structure Interface.Parts where
  /-- The types. -/
  types : List NamedType
  /-- The functions. -/
  functions : List Function
  /-- The messages. -/
  messages : List Message

namespace Outline

/-- Resolves everything that is declared, and fragments that nothing refers to. -/
def resolveParts (outline : Outline) (here : Surroundings σ) : Resolving σ Interface.Parts := do
  let types ← outline.types.mapM (here.namedType outline.fragments)
  let functions ← outline.functions.mapM (here.function outline.fragments)
  let messages ← outline.messages.mapM (here.message outline.fragments)
  outline.fragments.forM fun (key, _) =>
    discard (here.fragment outline.fragments [] key (here.locate ("/schemas/" ++ key)))
  Resolving.ofExcept (checkInhabited here.locate types)
  return ⟨types, functions, messages⟩

/-- Resolves the schemas of everything that is declared, and fragments that nothing refers to. -/
def resolveSchemas (outline : Outline) (here : Surroundings σ) : Resolving σ Interface.Parts := do
  let types ← outline.types.mapM (here.namedType outline.fragments)
  let functions ← outline.functions.mapM (here.function outline.fragments)
  let messages ← outline.messages.mapM (here.message outline.fragments)
  outline.fragments.forM fun (key, _) =>
    discard (here.fragment outline.fragments [] key (here.locate ("/schemas/" ++ key)))
  return ⟨types, functions, messages⟩

/-- Types without values are looked for when all schemas are resolved. -/
theorem resolveParts_eq {outline : Outline} {here : Surroundings σ} :
    outline.resolveParts here = do
      let parts ← outline.resolveSchemas here
      Resolving.ofExcept (checkInhabited here.locate parts.types)
      return parts := by
  simp only [resolveParts, resolveSchemas, bind_assoc, pure_bind]

/-- The interface with these parts. -/
def assemble (outline : Outline) (document : Option String) (parts : Interface.Parts)
    (progress : Progress σ) : Interface where
  document
  service := outline.service
  functions := parts.functions
  messages := parts.messages
  registry := ⟨parts.types, mergeExternals progress.externals⟩
  fragments := progress.fragments

theorem resolve_eq {outline : Outline} {document : Option String} {library : Option (Library σ)} :
    outline.resolve document library = do
      let parts ← outline.resolveParts ⟨document, outline.types.map Header.name, library⟩
      return outline.assemble document parts (← get) := by
  simp only [resolve, resolveParts, bind_assoc, pure_bind]
  rfl

end Outline

/-! ## Two surroundings -/

/-- The raw schemas of an outline go together when they are resolved in two surroundings, as do the
other faults that may be found there. -/
structure Surroundings.Together
    (P : Pairing (EStateM Error (Progress σ)) (EStateM Error (Progress τ))) (here : Surroundings σ)
    (here' : Surroundings τ) (named : String → Prop) (fragments : Members) : Prop where
  /-- Faults of declarations. -/
  fault : ∀ {α : Type} {path message : String},
    P.pairs (throw (.document (here.locate path) message) : Resolving σ α)
      (throw (.document (here'.locate path) message))
  /-- Raw schemas. -/
  schemaAt : ∀ {raw : Value} {path : String}, RawSchema.NamesOnly named raw →
    P.pairs (here.schemaAt fragments raw path) (here'.schemaAt fragments raw path)
  /-- Fragments. -/
  fragment : ∀ {key path : String},
    P.pairs (here.fragment fragments [] key (here.locate path))
      (here'.fragment fragments [] key (here'.locate path))
  /-- Types without values. -/
  inhabited : ∀ {types : List NamedType},
    P.pairs (Resolving.ofExcept (checkInhabited here.locate types))
      (Resolving.ofExcept (checkInhabited here'.locate types))

namespace Surroundings.Together

variable {P : Pairing (EStateM Error (Progress σ)) (EStateM Error (Progress τ))}
  {here : Surroundings σ} {here' : Surroundings τ} {named : String → Prop} {fragments : Members}
  (h : Together P here here' named fragments)

include h

theorem declaredSchema {raw : Members} {path : String} (hnamed : DeclaresOnly named raw) :
    P.pairs (here.declaredSchema fragments raw path) (here'.declaredSchema fragments raw path) := by
  unfold Surroundings.declaredSchema Outline.requiredMember
  cases hschema : raw.lookup "schema" with
  | none => exact h.fault
  | some schema => exact h.schemaAt (hnamed schema hschema)

theorem namedType {header : Header} (hnamed : DeclaresOnly named header.raw) :
    P.pairs (here.namedType fragments header) (here'.namedType fragments header) :=
  P.map (h.declaredSchema hnamed)

theorem argument {function : String} {header : Header} (hnamed : DeclaresOnly named header.raw) :
    P.pairs (here.argument fragments function header) (here'.argument fragments function header) :=
  P.map (h.declaredSchema hnamed)

theorem message {header : Header} (hnamed : DeclaresOnly named header.raw) :
    P.pairs (here.message fragments header) (here'.message fragments header) :=
  P.map (h.declaredSchema hnamed)

theorem description {raw : Members} {path : String} :
    P.pairs (Resolving.ofExcept (Outline.descriptionMember raw (here.locate path)))
      (Resolving.ofExcept (Outline.descriptionMember raw (here'.locate path))) := by
  unfold Outline.descriptionMember Outline.stringMember
  split
  · next text _ =>
    show P.pairs (Resolving.ofExcept (if Text.isBlank text then _ else _))
      (Resolving.ofExcept (if Text.isBlank text then _ else _))
    by_cases hblank : Text.isBlank text
    · rw [if_pos hblank, if_pos hblank]
      exact h.fault
    · rw [if_neg hblank, if_neg hblank]
      exact P.pure text
  · exact h.fault

theorem returns {header : Header}
    (hnamed : ∀ members, header.raw.lookup "returns" = some (.object members) →
      DeclaresOnly named members) :
    P.pairs (here.returns fragments header) (here'.returns fragments header) := by
  unfold Surroundings.returns
  cases hreturns : header.raw.lookup "returns" with
  | none => exact P.pure _
  | some raw =>
    cases raw with
    | object members =>
      exact P.bind h.description fun _ => P.map (h.declaredSchema (hnamed members hreturns))
    | null | bool | number | string | array => exact h.fault

theorem function {f : FunctionHeader} (hnamed : f.DeclaresOnly named) :
    P.pairs (here.function fragments f) (here'.function fragments f) :=
  P.bind (P.mapM fun a ha => h.argument (hnamed.arguments a ha)) fun _ =>
    P.map (h.returns hnamed.returns)

end Surroundings.Together

/-- All parts of an outline go together if its raw schemas do. -/
theorem Outline.IsOf.resolveParts_pairs {raw : Value} {outline : Outline} {named : String → Prop}
    {P : Pairing (EStateM Error (Progress σ)) (EStateM Error (Progress τ))}
    {here : Surroundings σ} {here' : Surroundings τ} (hof : outline.IsOf raw)
    (hnamed : RawDocument.NamesOnly named raw)
    (h : here.Together P here' named outline.fragments) :
    P.pairs (outline.resolveParts here) (outline.resolveParts here') := by
  have htypes := P.mapM fun header hmem => h.namedType (declaresOnly_of_mem_types hof hnamed hmem)
  have hfunctions := P.mapM fun f hmem => h.function (declaresOnly_of_mem_functions hof hnamed hmem)
  have hmessages := P.mapM fun header hmem =>
    h.message (declaresOnly_of_mem_messages hof hnamed hmem)
  refine P.bind htypes fun types => P.bind hfunctions fun functions => ?_
  refine P.bind hmessages fun messages => P.bind (P.forM fun entry _ => P.map h.fragment) fun _ => ?_
  exact P.bind h.inhabited fun _ => P.pure _

end ServiceContract
