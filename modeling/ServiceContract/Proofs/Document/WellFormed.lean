import ServiceContract.Proofs.Document.Inhabitants
import ServiceContract.Proofs.Schema.WellFormed

/-!
# The schemas of an interface are well formed

What a resolver returns was read of documents, part by part, and borrowed from other documents of which
the same is true. So all its schemas are well formed, and so are the types that it reaches.
-/

namespace ServiceContract

open Json (Value Members)
open RawSchema (HasFields HasForm ListsSome TypedForm)
open Schema (Gives GivesWellFormed ReadFrom)

/-- In an interface that a resolver returns all schemas are well formed, and so are the types of the
documents that it reaches. -/
theorem Resolver.returns_wellFormed {resolver : Resolver} {s s' : Store} {i : Interface}
    (hresolver : ∀ source, resolver.source = some source → source.LoadsDistinctKeys)
    (hs : s.Reachable Source.LoadsDistinctKeys)
    (h : (∃ raw : Value, raw.DistinctKeys ∧ resolver.resolve raw s = .ok i s') ∨
      ∃ name, resolver.load name s = .ok i s') :
    (∀ schema, i.HasSchema schema → schema.WellFormed) ∧
      ∀ key home, (key, home) ∈ i.registry.externals → ∀ t ∈ home.types, t.schema.WellFormed := by
  obtain ⟨hread, hschemas⟩ := Resolver.returns_everywhere readsTo_isWellFormed hresolver hs h
  obtain ⟨hwired, hi⟩ := Resolver.returns_attached hresolver hs h
  refine ⟨hschemas, fun key home hhome t ht => ?_⟩
  obtain ⟨j, hj, rfl⟩ := hi.coherent hwired hhome
  exact everywhere_of_lookup readsTo_isWellFormed hread hj (.type ht)

/-- Whatever gives well-formed schemas for references, what is read with it is well formed, and has the
form of what it was read of, part by part. The object that is read of a mapping has a field for each
property, in order, and then one for each required name without a property, in the order of first
mention, and of these fields the ones with required names are required. Hence all schemas of the
interfaces that resolvers return are well formed, those that were borrowed included. -/
theorem schemas_wellFormed :
    (∀ {σ : Type} (inv : σ → Prop) (refs : RefResolver σ), GivesWellFormed inv refs →
      ∀ raw location s schema s', raw.DistinctKeys → inv s →
        Schema.ofValue refs raw location s = .ok schema s' →
        schema.WellFormed ∧ ReadFrom (Gives inv refs) raw schema) ∧
    (∀ ref raw schema, ReadFrom ref raw schema ↔ HasForm ref (ReadFrom ref) raw schema ∧ ListsSome raw) ∧
    (∀ part members name fields closed, TypedForm part members name (.object fields closed) →
      HasFields members fields) ∧
    ∀ (resolver : Resolver) (s s' : Store) (i : Interface),
      (∀ source, resolver.source = some source → source.LoadsDistinctKeys) →
      s.Reachable Source.LoadsDistinctKeys →
      ((∃ raw : Value, raw.DistinctKeys ∧ resolver.resolve raw s = .ok i s') ∨
        ∃ name, resolver.load name s = .ok i s') →
      (∀ schema, i.HasSchema schema → schema.WellFormed) ∧
        ∀ key home, (key, home) ∈ i.registry.externals → ∀ t ∈ home.types, t.schema.WellFormed := by
  refine ⟨fun inv refs hrefs raw location s schema s' hkeys hs h => ?_, ?_, ?_, ?_⟩
  · exact Schema.wellFormed_of_ofValue hkeys hrefs hs h
  · exact fun ref raw schema => Schema.readFrom_iff
  · exact fun part members name fields closed h => h.hasFields
  · exact fun resolver s s' i hresolver hs h => Resolver.returns_wellFormed hresolver hs h

namespace Sample

/-- An object with a property that is required as well, and with names that are required twice. -/
def insistent : Members :=
  [("properties", .object [("a", reference "#/types/any"), ("b", .object [])]),
    ("required", .array [.string "d", .string "b", .string "c", .string "d", .string "b"])]

/-- A resolver for which every reference stands for all values. -/
def lenient : RefResolver Unit := fun _ _ => pure .anything

theorem lenient_givesWellFormed : GivesWellFormed (fun _ => True) lenient := by
  intro text location s _
  refine ⟨trivial, fun schema s' h => ?_⟩
  cases h
  exact readsTo_isWellFormed.everywhere_anything

end Sample

/-- The names that are required twice make one field each, and lists of borrowed nodes are well
formed. -/
theorem schemas_wellFormed_samples :
    (∃ fields, Schema.ofValue Sample.lenient (.object Sample.insistent) "" () =
        .ok (.object fields false) () ∧
      fields.map (fun field => (field.name, field.required)) =
        [("a", false), ("b", true), ("d", true), ("c", true)] ∧
      (Schema.object fields false).WellFormed ∧ HasFields Sample.insistent fields) ∧
    ∃ i s', Sample.resolver.load "lists.json" .empty = .ok i s' ∧
      ∀ schema, i.HasSchema schema → schema.WellFormed := by
  obtain ⟨hreads, -, hfields, hreturns⟩ := schemas_wellFormed
  constructor
  · have hkeys : (Value.object Sample.insistent).DistinctKeys := by
      simp [Sample.insistent, Sample.reference]
    have htyped : TypedForm (fun _ _ => True) Sample.insistent "object" (.object
        (Schema.fieldsOf [("a", .anything), ("b", .anything)]
          (RawSchema.required Sample.insistent)) false) :=
      .object (.cons ⟨rfl, trivial⟩ (.cons ⟨rfl, trivial⟩ .nil))
    refine ⟨_, rfl, rfl, ?_, hfields _ _ _ _ _ htyped⟩
    exact (hreads _ _ Sample.lenient_givesWellFormed _ "" () _ () hkeys trivial rfl).1
  · obtain ⟨i, s', -, h, -⟩ := Sample.resolver_loads_lists
    have hwellFormed := hreturns _ _ s' i Sample.resolver_loadsDistinctKeys .empty (.inr ⟨_, h⟩)
    exact ⟨i, s', h, hwellFormed.1⟩

end ServiceContract
