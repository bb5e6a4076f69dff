import ServiceContract.Proofs.Document.Nodes
import ServiceContract.Proofs.Validation.Inhabitants

/-!
# Types of an interface have values

Documents are checked one by one for types without a finite value, and types of other documents count
as finite. As those documents were checked before, and have smaller registries, a value for every type
is built up document by document.
-/

namespace ServiceContract

open Json (Value Members)

/-- Every object in a document that is loaded from the source has each of its keys once. -/
def Source.LoadsDistinctKeys (source : Source) : Prop :=
  ∀ key raw, source.loader.load key = .ok raw → raw.DistinctKeys

/-- What reading ensures of raw schemas without double keys holds everywhere in what a resolver returns,
and in the store that it leaves. -/
theorem Resolver.returns_everywhere {P : Schema → Prop} (hreads : ReadsTo Value.DistinctKeys P)
    {resolver : Resolver} {s s' : Store} {i : Interface}
    (hresolver : ∀ source, resolver.source = some source → source.LoadsDistinctKeys)
    (hs : s.Reachable Source.LoadsDistinctKeys)
    (h : (∃ raw : Value, raw.DistinctKeys ∧ resolver.resolve raw s = .ok i s') ∨
      ∃ name, resolver.load name s = .ok i s') :
    s'.Sound (reading Value.DistinctKeys P) ∧ ∀ schema, i.HasSchema schema → schema.Everywhere P := by
  have hnone : ∀ key raw, (Loader.ofDocuments []).load key = .ok raw → raw.DistinctKeys := by
    intro key raw hload
    cases hload
  obtain ⟨hsound, document, raw, externals, horder, hstands⟩ := Resolver.returned
    (fun source hsource => reading_respects hreads hsource)
    ⟨_, reading_respects hreads hnone⟩ hresolver hs h
  have hraw : raw.DistinctKeys := by
    rcases horder with hraw | ⟨key, hraw⟩
    · exact hraw
    · exact hraw
  exact ⟨hsound, fun schema hschema => everywhere_of_hasSchema hreads hstands hraw hschema⟩

section Attached

variable {s : Store} {i : Interface} (hwired : s.Sound wiring)
  (hnames : s.Sound (reading Value.DistinctKeys Schema.HasDistinctNames))

include hwired hnames

/-- If the types that an interface reaches are plain, then its types have values. -/
theorem Interface.AttachedTo.hasValue (hi : i.AttachedTo s)
    (hdistinct : ∀ t ∈ i.types, t.schema.Everywhere Schema.HasDistinctNames)
    (hplain : ∀ t ∈ i.types, t.schema.Everywhere Schema.IsPlain)
    (hothers : ∀ key home, (key, home) ∈ i.registry.externals →
      ∀ t ∈ home.types, t.schema.Everywhere Schema.IsPlain) :
    ∀ t ∈ i.types, HasValue i.registry t.schema := by
  -- The documents that types of other documents come from have smaller registries.
  induction hsize : sizeOf i.registry using Nat.strong_induction_on generalizing i with
  | _ n ih =>
    subst hsize
    have hchecked := hi.checked
    refine hasValue_of_mem_types hchecked.typeNames hchecked.inhabited hplain hdistinct ?_
    intro t ht target hmentions hdocument
    obtain ⟨⟨named, home⟩, hlookup⟩ :=
      Option.isSome_iff_exists.1 (hi.isSome_lookup hwired (.type ht) hmentions)
    obtain ⟨hlocal, ⟨hnone, -⟩ | ⟨key, -, hhome⟩⟩ := Registry.lookup_eq_some hlookup
    · rw [hnone] at hdocument
      cases hdocument
    · have hmem := mem_of_lookup hhome
      obtain ⟨j, hj, rfl⟩ := hi.coherent hwired hmem
      have hfar : ∀ k far, (k, far) ∈ j.registry.externals →
          ∀ t ∈ far.types, t.schema.Everywhere Schema.IsPlain :=
        fun k far hfar => hothers k far (hi.mem_externals_trans hwired hmem hfar)
      have hvalues := ih _ (sizeOf_external_lt hmem) (attachedTo_of_lookup hwired hj)
        (fun t ht => everywhere_of_lookup readsTo_hasDistinctNames hnames hj (.type ht))
        (hothers key j.registry hmem) hfar rfl
      obtain ⟨value, hvalue⟩ := hvalues named (Registry.mem_of_local? hlocal).1
      exact ⟨value, .reference trivial hlookup hvalue.deeper⟩

end Attached

/-- In an interface that a resolver returns, if nothing narrows the primitives of its types and of those
that it reaches, and no array in them may only have fewer items than it must, then each of these types
has a value that is accepted from some depth on. -/
theorem Resolver.types_have_values {resolver : Resolver} {s s' : Store} {i : Interface}
    (hresolver : ∀ source, resolver.source = some source → source.LoadsDistinctKeys)
    (hs : s.Reachable Source.LoadsDistinctKeys)
    (h : (∃ raw : Value, raw.DistinctKeys ∧ resolver.resolve raw s = .ok i s') ∨
      ∃ name, resolver.load name s = .ok i s')
    (hplain : ∀ t ∈ i.types, t.schema.Everywhere Schema.IsPlain)
    (hothers : ∀ key home, (key, home) ∈ i.registry.externals →
      ∀ t ∈ home.types, t.schema.Everywhere Schema.IsPlain) :
    (∀ t ∈ i.types, ∃ value least, ∀ maxDepth ≥ least,
      Validator.check ⟨t.schema, i.registry, maxDepth⟩ value = .ok ()) ∧
    ∀ key home, (key, home) ∈ i.registry.externals → ∀ t ∈ home.types, ∃ value least,
      ∀ maxDepth ≥ least, Validator.check ⟨t.schema, home, maxDepth⟩ value = .ok () := by
  obtain ⟨hwired, hi⟩ := Resolver.returns_attached hresolver hs h
  obtain ⟨hnames, hschemas⟩ := Resolver.returns_everywhere readsTo_hasDistinctNames hresolver hs h
  have hdistinct : ∀ t ∈ i.types, t.schema.Everywhere Schema.HasDistinctNames :=
    fun t ht => hschemas t.schema (.type ht)
  constructor
  · intro t ht
    exact (hi.hasValue hwired hnames hdistinct hplain hothers t ht).exists_check_ok
  · intro key home hhome t ht
    obtain ⟨j, hj, rfl⟩ := hi.coherent hwired hhome
    have hvalues := (attachedTo_of_lookup hwired hj).hasValue hwired hnames
      (fun t ht => everywhere_of_lookup readsTo_hasDistinctNames hnames hj (.type ht))
      (hothers key _ hhome) fun k far hfar => hothers k far (hi.mem_externals_trans hwired hhome hfar)
    exact (hvalues t ht).exists_check_ok

theorem Sample.source_loadsDistinctKeys : Sample.source.LoadsDistinctKeys := by
  intro key raw h
  obtain ⟨name, hmem, -⟩ := Loader.mem_of_load_ofDocuments h
  simp only [documents, List.mem_cons, Prod.mk.injEq, List.not_mem_nil, or_false] at hmem
  rcases hmem with ⟨-, rfl⟩ | ⟨-, rfl⟩
  · simp [nodes, document, declaration, reference]
  · simp [lists, listSchema, document, declaration, reference]

theorem Sample.resolver_loadsDistinctKeys :
    ∀ source, Sample.resolver.source = some source → source.LoadsDistinctKeys := by
  intro source hsource
  cases hsource
  exact Sample.source_loadsDistinctKeys

/-- The types of lists and of nodes, in the one document and in the other one, have values. -/
theorem Resolver.types_have_values_lists :
    ∃ i s' home, Sample.resolver.load "lists.json" .empty = .ok i s' ∧
      ("nodes.json", home) ∈ i.registry.externals ∧
      (∀ t ∈ i.types, ∃ value least, ∀ maxDepth ≥ least,
        Validator.check ⟨t.schema, i.registry, maxDepth⟩ value = .ok ()) ∧
      ∀ t ∈ home.types, ∃ value least, ∀ maxDepth ≥ least,
        Validator.check ⟨t.schema, home, maxDepth⟩ value = .ok () := by
  have hplain : (result? (Sample.resolver.load "lists.json") .empty).any (fun i =>
      decide (∀ t ∈ i.types, t.schema.Everywhere Schema.IsPlain) &&
      decide (∀ entry ∈ i.registry.externals, ∀ t ∈ entry.2.types,
        t.schema.Everywhere Schema.IsPlain) &&
      (i.registry.externals.lookup "nodes.json").isSome) = true := by decide +kernel
  obtain ⟨i, s', -, h, -⟩ := Sample.resolver_loads_lists
  rw [result?_eq_some.2 ⟨s', h⟩] at hplain
  simp only [Option.any_some, Bool.and_eq_true, decide_eq_true_iff] at hplain
  obtain ⟨⟨hown, hothers⟩, hnodes⟩ := hplain
  obtain ⟨home, hhome⟩ := Option.isSome_iff_exists.1 hnodes
  have hmem := mem_of_lookup hhome
  have hvalues := Resolver.types_have_values Sample.resolver_loadsDistinctKeys .empty (.inr ⟨_, h⟩) hown
    fun key home hhome => hothers (key, home) hhome
  exact ⟨i, s', home, h, hmem, hvalues.1, hvalues.2 _ home hmem⟩

end ServiceContract
