import ServiceContract.Proofs.Document.Wiring
import ServiceContract.Proofs.Validation.Chains

/-!
# Chains of references end

In an interface that a resolver returns no chain of references comes back around. Inside of one document
this is due to the types' having finite values. From one document to another a chain never goes back,
since the registry of a document that was asked for is the smaller one. A chain stays with the registries
that the interface reaches, and so it has at most as many references as these have types.
-/

namespace ServiceContract

open Json (Value)

namespace Interface

/-- The registry of the interface and those of the documents that it reaches. -/
def homes (i : Interface) : List Registry := i.registry :: i.registry.externals.map Prod.snd

/-- How many named types there are in the interface and in the documents that it reaches. -/
def typeCount (i : Interface) : Nat := (i.homes.flatMap Registry.types).length

/-- The schema is one of those of the interface or of a type of a document that it reaches, or a part of
one; its references are looked up in the registry. -/
inductive Holds (i : Interface) : Registry → Schema → Prop where
  /-- It is that of a declaration or a fragment. -/
  | site {schema : Schema} (h : i.HasSchema schema) : Holds i i.registry schema
  /-- It is that of a type, where that is at home. -/
  | type {home : Registry} {t : NamedType} (hhome : home ∈ i.homes) (ht : t ∈ home.types) :
      Holds i home t.schema
  /-- It is a part. -/
  | part {home : Registry} {part whole : Schema} (h : Holds i home whole)
      (hpart : Schema.IsPart part whole) : Holds i home part

theorem length_typesOf_homes {i : Interface} : (Registry.typesOf i.homes).length = i.typeCount := by
  unfold Registry.typesOf typeCount
  simp only [List.length_flatMap, List.length_map]

section Attached

variable {s : Store} {i : Interface} {home : Registry} {schema : Schema} {target : TypeRef}
  {named : NamedType} (hs : s.Sound wiring)

include hs

/-- What a registry reaches that the interface reaches, the interface reaches itself. -/
theorem AttachedTo.closed_homes (hi : i.AttachedTo s) : Registry.Closed i.homes := by
  intro home hhome key far hfar
  refine List.mem_cons_of_mem _ (List.mem_map.2 ⟨(key, far), ?_, rfl⟩)
  rcases List.mem_cons.1 hhome with rfl | hhome
  · exact hfar
  · obtain ⟨⟨k, near⟩, hnear, rfl⟩ := List.mem_map.1 hhome
    exact hi.mem_externals_trans hs hnear hfar

/-- The registries are those of interfaces in the store. -/
theorem AttachedTo.exists_attached (hi : i.AttachedTo s) (hhome : home ∈ i.homes) :
    ∃ j : Interface, j.AttachedTo s ∧ j.registry = home := by
  rcases List.mem_cons.1 hhome with rfl | hhome
  · exact ⟨i, hi, rfl⟩
  · obtain ⟨⟨key, home⟩, hmem, rfl⟩ := List.mem_map.1 hhome
    obtain ⟨j, hj, hregistry⟩ := hi.coherent hs hmem
    exact ⟨j, attachedTo_of_lookup hs hj, hregistry⟩

/-- A schema of the interface is part of one that an interface of the store has. -/
theorem Holds.exists_whole (h : i.Holds home schema) (hi : i.AttachedTo s) :
    home ∈ i.homes ∧ ∃ j : Interface, j.AttachedTo s ∧ j.registry = home ∧
      ∃ whole, j.HasSchema whole ∧ ∀ target, schema.Mentions target → whole.Mentions target := by
  induction h with
  | @site schema h => exact ⟨List.mem_cons_self, i, hi, rfl, schema, h, fun _ hm => hm⟩
  | @type home t hhome ht =>
    obtain ⟨j, hj, rfl⟩ := hi.exists_attached hs hhome
    exact ⟨hhome, j, hj, rfl, t.schema, .type ht, fun _ hm => hm⟩
  | part _ hpart ih =>
    obtain ⟨hhome, j, hj, hregistry, whole, hwhole, hmentions⟩ := ih
    exact ⟨hhome, j, hj, hregistry, whole, hwhole, fun target hm => hmentions target (.part hpart hm)⟩

/-- The chain of every type ends. -/
theorem AttachedTo.types_end (hi : i.AttachedTo s) : ∀ t ∈ i.types, i.registry.Ends t.schema := by
  -- An interface that another one was resolved with has the smaller registry.
  induction hsize : sizeOf i.registry using Nat.strong_induction_on generalizing i with
  | _ n ih =>
    subst hsize
    refine Registry.ends_of_mem_types hi.checked.typeNames hi.checked.inhabited ?_ ?_
    · intro t ht target hschema
      have hmentions : t.schema.Mentions target := hschema ▸ .reference
      exact hi.isSome_lookup hs (.type ht) hmentions
    · intro key far hfar
      have hmem := mem_of_lookup hfar
      obtain ⟨j, hj, rfl⟩ := hi.coherent hs hmem
      exact ih _ (sizeOf_external_lt hmem) (attachedTo_of_lookup hs hj) rfl

/-- The chain of every schema ends, with no more references than there are types. -/
theorem Holds.exists_end (h : i.Holds home schema) (hi : i.AttachedTo s) :
    ∃ count ≤ i.typeCount, ∃ home' inner,
      home.Behind schema count home' inner ∧ ¬ inner.IsReference := by
  obtain ⟨hhome, j, hj, rfl, whole, hwhole, hmentions⟩ := h.exists_whole hs hi
  have hends : j.registry.Ends schema := by
    by_cases href : schema.IsReference
    · obtain ⟨target, rfl⟩ := href
      have hfound := hj.isSome_lookup hs hwhole (hmentions target .reference)
      obtain ⟨⟨named, home'⟩, hlookup⟩ := Option.isSome_iff_exists.1 hfound
      obtain ⟨k, hk, rfl, -⟩ := hj.of_lookup hs hlookup
      obtain ⟨-, hnamed⟩ := (hi.closed_homes hs).of_lookup hhome hlookup
      exact .next hlookup (hk.types_end hs named hnamed)
    · exact .here href
  obtain ⟨count, home', inner, hbehind, hend⟩ := hends
  have hcount := hbehind.count_le (hi.closed_homes hs) hend hhome
  rw [length_typesOf_homes] at hcount
  exact ⟨count, hcount, home', inner, hbehind, hend⟩

end Attached

end Interface

/-- Replacing a reference by the schema of the type that is looked up for it where it is at home, over and
over, comes from every schema of an interface that a resolver returns to one that is no reference. It
takes no more steps than there are types in the interface and in what it reaches. If a check may enter
more levels than that, then the choice of an alternative is made there, for every value. -/
theorem Resolver.reference_chains_end {resolver : Resolver} {s s' : Store} {i : Interface}
    (hs : s.Reachable fun _ => True)
    (h : (∃ raw, resolver.resolve raw s = .ok i s') ∨ ∃ name, resolver.load name s = .ok i s')
    {home : Registry} {schema : Schema} (hschema : i.Holds home schema) :
    ∃ count ≤ i.typeCount, ∃ home' inner,
      home.Behind schema count home' inner ∧ ¬ inner.IsReference ∧
        ∀ maxDepth > i.typeCount, ∀ value, Validator.AnswersAt maxDepth home' value inner
          (Validator.selectAlternative ⟨schema, home, maxDepth⟩ value) := by
  have hgiven : (∃ raw, True ∧ resolver.resolve raw s = .ok i s') ∨
      ∃ name, resolver.load name s = .ok i s' := h.imp_left fun ⟨raw, h⟩ => ⟨raw, trivial, h⟩
  obtain ⟨hsound, hi⟩ := Resolver.returns_attached (fun _ _ => trivial) hs hgiven
  obtain ⟨count, hcount, home', inner, hbehind, hend⟩ := hschema.exists_end hsound hi
  refine ⟨count, hcount, home', inner, hbehind, hend, fun maxDepth hdeep value => ?_⟩
  exact Validator.selectAlternative_answersAt hbehind hend (Nat.lt_of_le_of_lt hcount hdeep)

namespace Sample

/-- Two further names for the nodes of another document, and a fragment for the first of them. -/
def aliases : Value :=
  document [
    ("types", .array [
      .object (declaration "first" [("schema", reference "#/types/second")]),
      .object (declaration "second" [("schema", reference "nodes.json#/types/node")])]),
    ("schemas", .object [("any-first", reference "#/types/first")])]

end Sample

/-- From the fragment it takes as many steps as there are types, so that as many levels are too few. -/
theorem Resolver.reference_chains_end_aliases :
    ∃ i s' schema, Sample.resolver.resolve Sample.aliases .empty = .ok i s' ∧
      i.fragment? "any-first" = some schema ∧ i.typeCount = 3 ∧
      Validator.selectAlternative ⟨schema, i.registry, 3⟩ (.object []) = .error (tooDeep 3) ∧
      ∃ count ≤ i.typeCount, ∃ home inner,
        i.registry.Behind schema count home inner ∧ ¬ inner.IsReference ∧
          ∀ maxDepth > i.typeCount, ∀ value, Validator.AnswersAt maxDepth home value inner
            (Validator.selectAlternative ⟨schema, i.registry, maxDepth⟩ value) := by
  have hresolves : (result? (Sample.resolver.resolve Sample.aliases) .empty).any (fun i =>
      decide (i.typeCount = 3) && (i.fragment? "any-first").any fun schema =>
        decide (Validator.selectAlternative ⟨schema, i.registry, 3⟩ (.object []) =
          .error (tooDeep 3))) = true := by decide +kernel
  simp only [Option.any_eq_true, Bool.and_eq_true, decide_eq_true_iff] at hresolves
  obtain ⟨i, hi, hcount, schema, hschema, hshort⟩ := hresolves
  obtain ⟨s', h⟩ := result?_eq_some.1 hi
  have hfragment : i.Holds i.registry schema := .site (.fragment (mem_of_lookup hschema))
  exact ⟨i, s', schema, h, hschema, hcount, hshort,
    Resolver.reference_chains_end .empty (.inl ⟨_, h⟩) hfragment⟩

end ServiceContract
