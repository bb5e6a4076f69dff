import ServiceContract.Proofs.Document.Wiring
import ServiceContract.Proofs.Schema.Denoting

/-!
# Resolution preserves meaning

Every raw schema of a document denotes the schema that it was resolved to: fragments are put in
place of references to them, borrowed from other documents if need be, and references to types are
left for the types to decide. In the interfaces of a store they decide as their raw schemas do, and
so a validator of a resolved schema accepts what satisfies the raw schema.
-/

namespace ServiceContract

open Json (Value Members)

/-- The raw document under a key, if there is one. -/
def Loader.document? (loader : Loader) (key : String) : Option Value := (loader.load key).toOption

theorem Loader.document?_eq_some {loader : Loader} {key : String} {raw : Value} :
    loader.document? key = some raw ↔ loader.load key = .ok raw := by
  unfold document?
  cases loader.load key <;> simp [Except.toOption]

/-! ## References -/

section References

variable {σ : Type} {documents : List (String × Value)} {here : Surroundings σ} {key : String}
  {r : Reference} {document : Option String}

/-- A reference is resolved to the document that it leads to. -/
theorem documentFrom_eq_getD (hdocument : here.document = some key)
    (hlibrary : here.library ≠ none)
    (hkeys : ∀ l, here.library = some l → l.resolveKey = (Loader.ofDocuments documents).resolveKey)
    (h : here.documentKey r = .ok document) : r.documentFrom key = document.getD key := by
  unfold Surroundings.documentKey at h
  unfold Reference.documentFrom
  cases hname : r.document with
  | none =>
    rw [hname] at h
    cases h
    rfl
  | some name =>
    cases hl : here.library with
    | none => exact absurd hl hlibrary
    | some library =>
      rw [hname, hl] at h
      dsimp only at h
      rw [hkeys library hl, hdocument] at h
      cases h
      rfl

end References

/-! ## Raw schemas that are read -/

/-- The raw schemas of the documents of a loader denote what they stand for. -/
def denoting (loader : Loader) : Store.Meaning where
  serves key raw := loader.load key = .ok raw
  stands document _ _ _ raw schema :=
    match document with
    | some key => Denotes loader.document? key raw schema
    | none => True

section Denoting

variable {loader : Loader} {s : Store} {key : String} {i : Interface}

/-- The schemas of an interface in a sound store are denoted by the raw schemas at the same sites. -/
theorem denotes_at_sites (hs : s.Sound (denoting loader)) (hi : s.resolved.lookup key = some i) :
    ∃ rawDocument, loader.document? key = some rawDocument ∧ ∀ site,
      Option.Rel (Denotes loader.document? key) (RawDocument.schemaAt? rawDocument site)
        (i.schemaAt? site) := by
  obtain ⟨raw, externals, hraw, hstands⟩ := hs.resolved key i hi
  exact ⟨raw, Loader.document?_eq_some.2 (hs.raws key raw hraw), hstands.sites⟩

theorem exists_denotes {site : Site} {schema : Schema} (hs : s.Sound (denoting loader))
    (hi : s.resolved.lookup key = some i) (hschema : i.schemaAt? site = some schema) :
    ∃ rawDocument raw, loader.document? key = some rawDocument ∧
      RawDocument.schemaAt? rawDocument site = some raw ∧ Denotes loader.document? key raw schema := by
  obtain ⟨rawDocument, hdocument, hsites⟩ := denotes_at_sites hs hi
  have hsite := hsites site
  rw [hschema] at hsite
  cases hraw : RawDocument.schemaAt? rawDocument site with
  | none =>
    rw [hraw] at hsite
    cases hsite
  | some raw =>
    rw [hraw] at hsite
    cases hsite with
    | some h => exact ⟨rawDocument, raw, hdocument, hraw, h⟩

end Denoting

/-- Reading a document given with others lets its raw schemas denote what they are read as. -/
theorem denoting_respects (documents : List (String × Value)) :
    (denoting (.ofDocuments documents)).Respects (.ofDocuments documents) where
  loads h := h
  stable _ _ _ h := h
  form := by
    intro document rawDocument outline library s externals raw schema hof hserves hkeys halone hs
      hlinked hform _
    cases document with
    | none => trivial
    | some key =>
      have hlibrary : library ≠ none := fun h => by cases halone h
      have hdocument := Loader.document?_eq_some.2 (hserves key rfl)
      have hother : ∀ {k j}, externals.lookup k = some j → s.resolved.lookup k = some j :=
        fun hj => (hlinked _ _ (mem_of_lookup hj)).2
      refine denotes_of_hasForm hform fun {members text schema} hlead htext href types value => ?_
      cases href with
      | @ownType name r named hread hnamed hown htarget hname =>
        have hfrom : r.documentFrom key = key := by
          rw [documentFrom_eq_getD rfl hlibrary hkeys hnamed]
          rcases hown with rfl | rfl <;> rfl
        rw [admits_reference_iff, satisfiesWith_type_iff hlead htext hread htarget, hfrom]
        rfl
      | @ownFragment fragment r named rawFragment _ hread hnamed hown htarget hraw h =>
        have hfrom : r.documentFrom key = key := by
          rw [documentFrom_eq_getD rfl hlibrary hkeys hnamed]
          rcases hown with rfl | rfl <;> rfl
        have hat := (hof.fragments fragment).trans hraw
        rw [satisfiesWith_fragment_iff hlead htext hread htarget (hfrom.symm ▸ hdocument) hat, hfrom]
        exact h types value
      | @type name other r j hread hnamed hne hj htarget hname =>
        have hfrom : r.documentFrom key = other :=
          documentFrom_eq_getD rfl hlibrary hkeys hnamed
        rw [admits_reference_iff, satisfiesWith_type_iff hlead htext hread htarget, hfrom]
        rfl
      | @fragment fragment other r j borrowed hread hnamed hne hj htarget hfragment =>
        have hfrom : r.documentFrom key = other :=
          documentFrom_eq_getD rfl hlibrary hkeys hnamed
        have hsite : j.schemaAt? (.fragment fragment) = some borrowed := hfragment
        obtain ⟨rawOther, rawFragment, hother, hat, hdenotes⟩ :=
          exists_denotes hs (hother hj) hsite
        rw [satisfiesWith_fragment_iff hlead htext hread htarget (hfrom.symm ▸ hother) hat, hfrom,
          admits_rebase_iff]
        exact hdenotes types value

/-! ## Types of a store -/

/-- The value conforms to the type in the interface under the key, if there is one. -/
def Store.TypeConforms (s : Store) (document name : String) (value : Value) : Prop :=
  ∀ j named, s.resolved.lookup document = some j → j.type? name = some named →
    Conforms (fun _ => True) 0 named.schema j.registry value

section Types

variable {loader : Loader} {s : Store} {key : String} {i : Interface} {schema : Schema}
  {value : Value} (hwired : s.Sound wiring) (hs : s.Sound (denoting loader))

include hwired

/-- A type that is found in an interface of a store is one of an interface of the store under the
key that the reference leads to. -/
theorem exists_home {target : TypeRef} {named : NamedType} {home : Registry}
    (hi : s.resolved.lookup key = some i)
    (hlookup : i.registry.lookup target = some (named, home)) :
    ∃ j, s.resolved.lookup (target.document.getD key) = some j ∧ j.registry = home ∧
      j.type? target.name = some named := by
  obtain ⟨hlocal, ⟨hdocument, rfl⟩ | ⟨k, hdocument, hhome⟩⟩ := Registry.lookup_eq_some hlookup
  · rw [hdocument]
    exact ⟨i, hi, rfl, hlocal⟩
  · rw [hdocument]
    obtain ⟨j, hj, rfl⟩ := (attachedTo_of_lookup hwired hi).coherent hwired (mem_of_lookup hhome)
    exact ⟨j, hj, rfl, hlocal⟩

include hs

/-- What conforms to a schema is admitted by it when types accept what satisfies their raw schemas. -/
theorem admits_of_conforms {depth : Nat} {registry : Registry}
    (h : Conforms (fun _ => True) depth schema registry value)
    (hi : s.resolved.lookup key = some i) (hregistry : i.registry = registry) :
    Admits (acceptedFrom (TypeAccepts loader.document?) key) schema value := by
  induction h generalizing key i with
  | const _ heq => exact .const heq
  | enum _ hmem heq => exact .enum hmem heq
  | primitive _ h => exact .primitive h
  | object _ hrequired _ hclosed ih =>
    exact .object hrequired
      (fun field hfield value hvalue => ih field hfield value hvalue hi hregistry) hclosed
  | tuple _ hlen _ ih =>
    exact .tuple hlen fun schema item hpair => ih schema item hpair hi hregistry
  | array _ hmin hmax _ ih => exact .array hmin hmax fun item hitem => ih item hitem hi hregistry
  | union _ hmem _ ih => exact .union hmem (ih hi hregistry)
  | @reference _ _ home target named _ _ hlookup _ ih =>
    rw [← hregistry] at hlookup
    obtain ⟨j, hj, hhome, htype⟩ := exists_home hwired hi hlookup
    obtain ⟨rawDocument, raw, hdocument, hraw, hdenotes⟩ :=
      exists_denotes hs hj (Interface.schemaAt?_type htype)
    exact .reference (.declared hdocument hraw ((hdenotes _ _).1 (ih hj hhome)))
  | anything => exact .anything

omit hs in
/-- What is admitted by a schema of an interface conforms to it when types accept only what conforms
to them in the store. -/
theorem conforms_of_admits {types : (document name : String) → Value → Prop}
    (htypes : ∀ {document name value}, types document name value →
      s.TypeConforms document name value)
    (h : Admits (acceptedFrom types key) schema value) (hi : s.resolved.lookup key = some i)
    (hfound : ∀ target, schema.Mentions target → (i.registry.lookup target).isSome) {depth : Nat} :
    Conforms (fun _ => True) depth schema i.registry value := by
  induction h generalizing depth with
  | const heq => exact .const trivial heq
  | enum hmem heq => exact .enum trivial hmem heq
  | primitive h => exact .primitive trivial h
  | object hrequired _ hclosed ih =>
    refine .object trivial hrequired (fun field hfield value hvalue => ?_) hclosed
    exact ih field hfield value hvalue fun target hm => hfound target (.part (.field hfield) hm)
  | tuple hlen _ ih =>
    refine .tuple trivial hlen fun schema item hpair => ?_
    exact ih schema item hpair fun target hm =>
      hfound target (.part (.position (List.of_mem_zip hpair).1) hm)
  | array hmin hmax _ ih =>
    refine .array trivial hmin hmax fun item hitem => ?_
    exact ih item hitem fun target hm => hfound target (.part .item hm)
  | union hmem _ ih =>
    exact .union trivial hmem (ih fun target hm => hfound target (.part (.alternative hmem) hm))
  | @reference target value h =>
    obtain ⟨⟨named, home⟩, hlookup⟩ := Option.isSome_iff_exists.1 (hfound target .reference)
    obtain ⟨j, hj, rfl, htype⟩ := exists_home hwired hi hlookup
    exact .reference trivial hlookup ((htypes h j named hj htype).shift fun _ _ => trivial)
  | anything => exact .anything trivial

/-- What satisfies the raw schema of a type conforms to the type in the store. -/
theorem typeConforms_of_typeAccepts {document name : String}
    (h : TypeAccepts loader.document? document name value) : s.TypeConforms document name value := by
  -- The types of the store accept what satisfies their raw schemas with these same types.
  refine h.least fun {document name rawDocument raw value} hdocument hraw hsatisfies => ?_
  intro j named hj htype
  have hsite := Interface.schemaAt?_type htype
  obtain ⟨rawDocument', raw', hdocument', hraw', hdenotes⟩ := exists_denotes hs hj hsite
  cases hdocument.symm.trans hdocument'
  cases hraw.symm.trans hraw'
  refine conforms_of_admits hwired id ((hdenotes _ _).2 hsatisfies) hj fun target hm => ?_
  exact (attachedTo_of_lookup hwired hj).isSome_lookup hwired
    (Interface.hasSchema_of_schemaAt? hsite) hm

/-- A validator of a schema in a store accepts what satisfies a raw schema that denotes it. -/
theorem accepts_iff_satisfies {raw : Value} (hi : s.resolved.lookup key = some i)
    (hschema : i.HasSchema schema) (hdenotes : Denotes loader.document? key raw schema) :
    (∃ maxDepth, Validator.check ⟨schema, i.registry, maxDepth⟩ value = .ok ()) ↔
      Satisfies loader.document? key raw value := by
  rw [exists_check_ok_iff, Satisfies, ← hdenotes]
  constructor
  · intro h
    exact admits_of_conforms hwired hs h hi rfl
  · intro h
    refine conforms_of_admits hwired (typeConforms_of_typeAccepts hwired hs) h hi fun target hm => ?_
    exact (attachedTo_of_lookup hwired hi).isSome_lookup hwired hschema hm

end Types

/-! ## Interfaces that are loaded -/

/-- The interface of a name comes from the raw document under the key of the name, and at every site
of both a validator of the resolved schema accepts a value at some depth exactly if the value
satisfies the raw schema, read off the raw documents. -/
theorem Source.interface_accepts_iff_satisfies {documents : List (String × Value)} {source : Source}
    {s s' : Store} {name : String} {i : Interface}
    (hsource : source.loader = .ofDocuments documents)
    (hs : s.Reachable fun source => source.loader = .ofDocuments documents)
    (h : source.interface name s = .ok i s') :
    ∃ rawDocument, (Loader.ofDocuments documents).document? (DocumentKey.normalize none name) =
        some rawDocument ∧
      ∀ site, Option.Rel
        (fun raw schema => ∀ value,
          (∃ maxDepth, Validator.check ⟨schema, i.registry, maxDepth⟩ value = .ok ()) ↔
            Satisfies (Loader.ofDocuments documents).document? (DocumentKey.normalize none name)
              raw value)
        (RawDocument.schemaAt? rawDocument site) (i.schemaAt? site) := by
  have hdenotes := denoting_respects documents
  have hsound : s.Sound (denoting (.ofDocuments documents)) :=
    hs.sound (fun source (hsource : source.loader = _) => hsource ▸ hdenotes) ⟨_, hdenotes⟩
  have hwired : s.Sound wiring :=
    hs.sound (fun source _ => wiring_respects source.loader) ⟨_, wiring_respects source.loader⟩
  obtain ⟨hwired', -, key, hkey, hi⟩ :=
    (source.interface_runs (wiring_respects source.loader) hwired).ok h
  obtain ⟨hsound', -, -⟩ := (source.interface_runs (hsource ▸ hdenotes) hsound).ok h
  have hname : DocumentKey.normalize none name = key := by
    rw [hsource] at hkey
    exact Except.ok.inj hkey
  obtain ⟨rawDocument, hdocument, hsites⟩ := denotes_at_sites hsound' hi
  rw [hname]
  refine ⟨rawDocument, hdocument, fun site => rel_mono_of_some (hsites site) ?_⟩
  intro raw schema _ hschema hdenotes value
  exact accepts_iff_satisfies hwired' hsound' hi (Interface.hasSchema_of_schemaAt? hschema) hdenotes

/-- The lists of nodes are those that satisfy the raw schema of lists. -/
theorem Source.interface_accepts_iff_satisfies_lists :
    ∃ i s' named, Sample.source.interface "lists.json" .empty = .ok i s' ∧
      i.type? "list" = some named ∧ ∀ value,
        (∃ maxDepth, Validator.check ⟨named.schema, i.registry, maxDepth⟩ value = .ok ()) ↔
          Satisfies (Loader.ofDocuments Sample.documents).document? "lists.json" Sample.listSchema
            value := by
  obtain ⟨i, s', named, h, hnamed⟩ := Sample.resolver_loads_lists
  obtain ⟨rawDocument, hdocument, hsites⟩ :=
    Source.interface_accepts_iff_satisfies rfl .empty h
  have hkey : DocumentKey.normalize none "lists.json" = "lists.json" := by decide +kernel
  have hlists : (Loader.ofDocuments Sample.documents).document? "lists.json" = some Sample.lists := rfl
  rw [hkey] at hdocument hsites
  cases hlists.symm.trans hdocument
  have hsite := hsites (.type "list")
  have hraw : RawDocument.schemaAt? Sample.lists (.type "list") = some Sample.listSchema := rfl
  rw [hraw, Interface.schemaAt?_type hnamed] at hsite
  cases hsite with
  | some haccepts => exact ⟨i, s', named, h, hnamed, haccepts⟩

end ServiceContract
