import ServiceContract.Proofs.Document.Store
import ServiceContract.Proofs.Validation.Lookups

/-!
# References are found

Every reference in a resolved schema names a type that the registry of its interface has, and the
types behind it name types that their own registries have, and so on. Registries of other documents
are merged from the interfaces of those documents, which hold what they reach themselves; all of
them are the registries that the store holds, so that it makes no difference by which way a document
is reached.
-/

namespace ServiceContract

open Json (Value Members)

/-! ## Merged registries -/

section Merge

variable {key : String} {home : Registry} {merged externals : List (String × Registry)}
  {interfaces : List (String × Interface)}

/-- Puts in the registries that are not there. -/
def mergeMissing (merged externals : List (String × Registry)) : List (String × Registry) :=
  externals.foldl (fun merged (key, registry) =>
    if (merged.lookup key).isSome then merged else putEntry key registry merged) merged

/-- Puts in the registry of a document and those missing that its interface reaches. -/
def mergeInterface (merged : List (String × Registry)) (entry : String × Interface) :
    List (String × Registry) :=
  putEntry entry.1 entry.2.registry (mergeMissing merged entry.2.registry.externals)

theorem mergeExternals_eq : mergeExternals interfaces = interfaces.foldl mergeInterface [] := rfl

theorem mem_mergeMissing (h : (key, home) ∈ mergeMissing merged externals) :
    (key, home) ∈ merged ∨ (key, home) ∈ externals := by
  induction externals generalizing merged with
  | nil => exact .inl h
  | cons entry rest ih =>
    unfold mergeMissing at h
    rw [List.foldl_cons] at h
    rcases ih h with h | h
    · dsimp only at h
      split at h
      · exact .inl h
      · rcases mem_putEntry h with heq | h
        · exact .inr (heq ▸ List.mem_cons_self ..)
        · exact .inl h
    · exact .inr (List.mem_cons_of_mem _ h)

theorem lookup_mergeMissing_of_isSome (h : (merged.lookup key).isSome) :
    (mergeMissing merged externals).lookup key = merged.lookup key := by
  induction externals generalizing merged with
  | nil => rfl
  | cons entry rest ih =>
    have hstep : (if (merged.lookup entry.1).isSome then merged
        else putEntry entry.1 entry.2 merged).lookup key = merged.lookup key := by
      split
      · rfl
      · next hnone =>
        refine lookup_putEntry_of_ne ?_
        rintro rfl
        exact hnone h
    unfold mergeMissing
    rw [List.foldl_cons]
    refine (ih ?_).trans hstep
    rw [hstep]
    exact h

theorem isSome_lookup_mergeMissing (h : (key, home) ∈ externals) :
    ((mergeMissing merged externals).lookup key).isSome := by
  induction externals generalizing merged with
  | nil => cases h
  | cons entry rest ih =>
    unfold mergeMissing
    rw [List.foldl_cons]
    rcases List.mem_cons.1 h with rfl | h
    · have hthere : ((if (merged.lookup key).isSome then merged
          else putEntry key home merged).lookup key).isSome := by
        split
        · assumption
        · rw [lookup_putEntry_self]
          rfl
      exact (lookup_mergeMissing_of_isSome hthere).symm ▸ hthere
    · exact ih h

theorem isSome_lookup_mergeInterface {entry : String × Interface} (h : (merged.lookup key).isSome) :
    ((mergeInterface merged entry).lookup key).isSome := by
  unfold mergeInterface
  rw [lookup_putEntry]
  split
  · rfl
  · rw [lookup_mergeMissing_of_isSome h]
    exact h

/-- A merged registry is that of an interface, or one that an interface reaches. -/
theorem mem_mergeExternals (h : (key, home) ∈ mergeExternals interfaces) :
    (∃ i, (key, i) ∈ interfaces ∧ i.registry = home) ∨
      ∃ k i, (k, i) ∈ interfaces ∧ (key, home) ∈ i.registry.externals := by
  have hfold : ∀ (l : List (String × Interface)) merged,
      (key, home) ∈ l.foldl mergeInterface merged → (key, home) ∈ merged ∨
        (∃ i, (key, i) ∈ l ∧ i.registry = home) ∨
          ∃ k i, (k, i) ∈ l ∧ (key, home) ∈ i.registry.externals := by
    intro l
    induction l with
    | nil => exact fun _ h => .inl h
    | cons entry rest ih =>
      intro merged h
      rcases ih _ h with h | ⟨i, hi, hhome⟩ | ⟨k, i, hi, hhome⟩
      · rcases mem_putEntry h with heq | h
        · cases heq
          exact .inr (.inl ⟨entry.2, List.mem_cons_self .., rfl⟩)
        · rcases mem_mergeMissing h with h | h
          · exact .inl h
          · exact .inr (.inr ⟨entry.1, entry.2, List.mem_cons_self .., h⟩)
      · exact .inr (.inl ⟨i, List.mem_cons_of_mem _ hi, hhome⟩)
      · exact .inr (.inr ⟨k, i, List.mem_cons_of_mem _ hi, hhome⟩)
  rcases hfold interfaces [] h with h | h
  · cases h
  · exact h

theorem isSome_lookup_foldl_mergeInterface (h : (merged.lookup key).isSome) :
    ((interfaces.foldl mergeInterface merged).lookup key).isSome := by
  induction interfaces generalizing merged with
  | nil => exact h
  | cons entry rest ih => exact ih (isSome_lookup_mergeInterface h)

theorem isSome_lookup_mergeExternals {k : String} {i : Interface} (hi : (k, i) ∈ interfaces)
    (h : (key, home) ∈ i.registry.externals) : ((mergeExternals interfaces).lookup key).isSome := by
  rw [mergeExternals_eq]
  generalize ([] : List (String × Registry)) = merged
  induction interfaces generalizing merged with
  | nil => cases hi
  | cons entry rest ih =>
    rcases List.mem_cons.1 hi with rfl | hi
    · have hthere : ((mergeInterface merged (k, i)).lookup key).isSome := by
        unfold mergeInterface
        rw [lookup_putEntry]
        split
        · rfl
        · exact isSome_lookup_mergeMissing h
      rw [List.foldl_cons]
      exact isSome_lookup_foldl_mergeInterface hthere
    · exact ih hi _

/-- Under the key of an interface there is the registry of an interface with that key. -/
theorem lookup_mergeExternals_of_mem {i : Interface} (h : (key, i) ∈ interfaces) :
    ∃ j, (key, j) ∈ interfaces ∧ (mergeExternals interfaces).lookup key = some j.registry := by
  have hkeep : ∀ (l : List (String × Interface)) merged (j : Interface),
      merged.lookup key = some j.registry → (key, j) ∈ interfaces → (∀ e ∈ l, e ∈ interfaces) →
      ∃ j, (key, j) ∈ interfaces ∧ (l.foldl mergeInterface merged).lookup key = some j.registry := by
    intro l
    induction l with
    | nil => exact fun _ j hj hmem _ => ⟨j, hmem, hj⟩
    | cons entry rest ih =>
      intro merged j hj hmem hl
      have hrest : ∀ e ∈ rest, e ∈ interfaces := fun e he => hl e (List.mem_cons_of_mem _ he)
      have hentry := hl entry (List.mem_cons_self ..)
      by_cases hkey : key = entry.1
      · refine ih _ entry.2 ?_ (by rw [hkey]; exact hentry) hrest
        unfold mergeInterface
        rw [hkey, lookup_putEntry_self]
      · refine ih _ j ?_ hmem hrest
        unfold mergeInterface
        rw [lookup_putEntry_of_ne hkey, lookup_mergeMissing_of_isSome (by rw [hj]; rfl), hj]
  obtain ⟨before, after, hsplit⟩ := List.append_of_mem h
  rw [mergeExternals_eq]
  have hafter : ∀ e ∈ after, e ∈ interfaces := by
    intro e he
    rw [hsplit]
    exact List.mem_append_right _ (List.mem_cons_of_mem _ he)
  have hput : (mergeInterface (before.foldl mergeInterface []) (key, i)).lookup key =
      some i.registry := lookup_putEntry_self
  obtain ⟨j, hmem, hj⟩ := hkeep after _ i hput h hafter
  refine ⟨j, hmem, ?_⟩
  rw [hsplit, List.foldl_append, List.foldl_cons, hj]

end Merge

/-! ## References that a document knows -/

/-- The reference names a type of the document itself, of a document that was asked for, or of one
that such a document reaches. -/
inductive KnownIn (rawDocument : Value) (externals : List (String × Interface)) (target : TypeRef) :
    Prop where
  /-- A type that the document declares. -/
  | own (hdocument : target.document = none)
      (h : (RawDocument.declaration? (RawDocument.list "types" rawDocument) target.name).isSome)
  /-- A type of a document that was asked for. -/
  | linked {key : String} {i : Interface} (hdocument : target.document = some key)
      (hi : externals.lookup key = some i) (h : (i.type? target.name).isSome)
  /-- A type of a document that was reached. -/
  | reached {key k : String} {i : Interface} {home : Registry}
      (hdocument : target.document = some key) (hi : externals.lookup k = some i)
      (hhome : i.registry.externals.lookup key = some home) (h : (home.local? target.name).isSome)

/-- A raw schema is wired to a schema whose references are all known. -/
def wiring : Store.Meaning where
  serves _ _ := True
  stands _ rawDocument _ externals _ schema :=
    ∀ target, schema.Mentions target → KnownIn rawDocument externals target

/-- The interface was resolved with interfaces of the store. -/
def Interface.AttachedTo (i : Interface) (s : Store) : Prop :=
  ∃ document raw externals, i.StandsFor document raw externals
    (fun k j => s.resolved.lookup k = some j) (wiring.stands document raw s externals)

theorem Interface.AttachedTo.checked {s : Store} {i : Interface} (hi : i.AttachedTo s) : i.Checked := by
  obtain ⟨document, raw, externals, hstands⟩ := hi
  exact hstands.checked

theorem sizeOf_external_lt {registry home : Registry} {key : String}
    (h : (key, home) ∈ registry.externals) : sizeOf home < sizeOf registry := by
  obtain ⟨types, externals⟩ := registry
  have hlist := List.sizeOf_lt_of_mem h
  have hentry : sizeOf (key, home) = 1 + sizeOf key + sizeOf home := rfl
  have hregistry : sizeOf (Registry.mk types externals) = 1 + sizeOf types + sizeOf externals :=
    Registry.mk.sizeOf_spec ..
  dsimp only at hlist
  omega

section Attached

variable {s : Store} {i : Interface} {key : String} {home : Registry} {target : TypeRef}
  (hs : s.Sound wiring)

include hs

theorem attachedTo_of_lookup (hi : s.resolved.lookup key = some i) : i.AttachedTo s := by
  obtain ⟨raw, externals, -, hstands⟩ := hs.resolved key i hi
  exact ⟨some key, raw, externals, hstands⟩

/-- The registries that an interface reaches are those of the store. -/
theorem Interface.AttachedTo.coherent (hi : i.AttachedTo s)
    (hhome : (key, home) ∈ i.registry.externals) :
    ∃ j, s.resolved.lookup key = some j ∧ j.registry = home := by
  -- An interface that another one was resolved with has the smaller registry.
  induction hsize : sizeOf i.registry using Nat.strong_induction_on generalizing i with
  | _ n ih =>
    subst hsize
    obtain ⟨document, raw, externals, hstands⟩ := hi
    rw [hstands.registry] at hhome
    rcases mem_mergeExternals hhome with ⟨j, hj, rfl⟩ | ⟨k, j, hj, hhome⟩
    · exact ⟨j, (hstands.linked key j hj).2, rfl⟩
    · have hlinked := (hstands.linked k j hj).2
      obtain ⟨j', hj', hmerged⟩ := lookup_mergeExternals_of_mem hj
      have hsame : j' = j := Option.some.inj ((hstands.linked k j' hj').2.symm.trans hlinked)
      subst hsame
      have hmem : (k, j'.registry) ∈ i.registry.externals := by
        rw [hstands.registry]
        exact mem_of_lookup hmerged
      have hsmaller := sizeOf_external_lt hmem
      exact ih _ hsmaller (attachedTo_of_lookup hs hlinked) hhome rfl

/-- Whatever registry it reaches is the one that is found under its key. -/
theorem Interface.AttachedTo.lookup_externals (hi : i.AttachedTo s)
    (hhome : (key, home) ∈ i.registry.externals) :
    i.registry.externals.lookup key = some home := by
  have hsome : (i.registry.externals.lookup key).isSome := by
    rw [List.lookup_isSome_iff]
    exact ⟨(key, home), hhome, beq_self_eq_true key⟩
  obtain ⟨found, hfound⟩ := Option.isSome_iff_exists.1 hsome
  obtain ⟨j, hj, rfl⟩ := hi.coherent hs hhome
  obtain ⟨j', hj', rfl⟩ := hi.coherent hs (mem_of_lookup hfound)
  rw [hfound, Option.some.inj (hj'.symm.trans hj)]

/-- It reaches what the interfaces reach that it was resolved with. -/
theorem mem_externals_of_linked {document : Option String} {raw : Value}
    {externals : List (String × Interface)} {k : String} {j : Interface}
    (hi : i.StandsFor document raw externals (fun k j => s.resolved.lookup k = some j)
      (wiring.stands document raw s externals)) (hj : (k, j) ∈ externals)
    (hhome : (key, home) ∈ j.registry.externals) : (key, home) ∈ i.registry.externals := by
  have hthere := isSome_lookup_mergeExternals hj hhome
  rw [← hi.registry] at hthere
  obtain ⟨found, hfound⟩ := Option.isSome_iff_exists.1 hthere
  have hattached : i.AttachedTo s := ⟨document, raw, externals, hi⟩
  have hattached' := attachedTo_of_lookup hs (hi.linked k j hj).2
  obtain ⟨j₁, hj₁, rfl⟩ := hattached'.coherent hs hhome
  obtain ⟨j₂, hj₂, rfl⟩ := hattached.coherent hs (mem_of_lookup hfound)
  rw [Option.some.inj (hj₁.symm.trans hj₂)]
  exact mem_of_lookup hfound

/-- It reaches what the registries reach that it reaches. -/
theorem Interface.AttachedTo.mem_externals_trans (hi : i.AttachedTo s) {k : String} {far : Registry}
    (hhome : (key, home) ∈ i.registry.externals) (hfar : (k, far) ∈ home.externals) :
    (k, far) ∈ i.registry.externals := by
  -- An interface that another one was resolved with has the smaller registry.
  induction hsize : sizeOf i.registry using Nat.strong_induction_on generalizing i with
  | _ n ih =>
    subst hsize
    obtain ⟨document, raw, externals, hstands⟩ := hi
    rw [hstands.registry] at hhome
    rcases mem_mergeExternals hhome with ⟨j, hj, rfl⟩ | ⟨k', j, hj, hhome⟩
    · exact mem_externals_of_linked hs hstands hj hfar
    · have hattached := attachedTo_of_lookup hs (hstands.linked k' j hj).2
      obtain ⟨j', hj', hmerged⟩ := lookup_mergeExternals_of_mem hj
      have hsame : j' = j := Option.some.inj
        ((hstands.linked k' j' hj').2.symm.trans (hstands.linked k' j hj).2)
      subst hsame
      have hmem : (k', j'.registry) ∈ i.registry.externals := by
        rw [hstands.registry]
        exact mem_of_lookup hmerged
      have hsmaller := sizeOf_external_lt hmem
      exact mem_externals_of_linked hs hstands hj (ih _ hsmaller hattached hhome rfl)

/-- A known reference is found in the registry. -/
theorem isSome_lookup_of_knownIn {document : Option String} {raw : Value}
    {externals : List (String × Interface)}
    (hi : i.StandsFor document raw externals (fun k j => s.resolved.lookup k = some j)
      (wiring.stands document raw s externals))
    (hknown : KnownIn raw externals target) : (i.registry.lookup target).isSome := by
  have hattached : i.AttachedTo s := ⟨document, raw, externals, hi⟩
  cases hknown with
  | own hdocument h =>
    have htype : (i.registry.local? target.name).isSome := hi.types _ h
    rw [Registry.lookup_own hdocument, Option.isSome_map]
    exact htype
  | @linked key j hdocument hj h =>
    obtain ⟨j', hj', hmerged⟩ := lookup_mergeExternals_of_mem (mem_of_lookup hj)
    have hsame : j' = j := Option.some.inj
      ((hi.linked key j' hj').2.symm.trans (hi.linked key j (mem_of_lookup hj)).2)
    subst hsame
    rw [← hi.registry] at hmerged
    rw [Registry.lookup_other hdocument hmerged, Option.isSome_map]
    exact h
  | @reached key k j home hdocument hj hhome h =>
    have hmem := mem_of_lookup hj
    have hthere := isSome_lookup_mergeExternals hmem (mem_of_lookup hhome)
    obtain ⟨home', hmerged⟩ := Option.isSome_iff_exists.1 hthere
    -- Both registries are that of the interface in the store.
    have hattached' := attachedTo_of_lookup hs (hi.linked k j hmem).2
    obtain ⟨j₁, hj₁, hhome₁⟩ := hattached'.coherent hs (mem_of_lookup hhome)
    obtain ⟨j₂, hj₂, hhome₂⟩ := hattached.coherent hs (hi.registry ▸ mem_of_lookup hmerged)
    have hsame : home' = home := by
      rw [← hhome₁, ← hhome₂, Option.some.inj (hj₁.symm.trans hj₂)]
    subst hsame
    rw [← hi.registry] at hmerged
    rw [Registry.lookup_other hdocument hmerged, Option.isSome_map]
    exact h

/-- Every reference in a schema of an interface is found in its registry. -/
theorem Interface.AttachedTo.isSome_lookup (hi : i.AttachedTo s) {schema : Schema}
    (hschema : i.HasSchema schema) (htarget : schema.Mentions target) :
    (i.registry.lookup target).isSome := by
  obtain ⟨document, raw, externals, hstands⟩ := hi
  obtain ⟨-, rawSchema, -, hknown⟩ := hstands.schemas schema hschema
  exact isSome_lookup_of_knownIn hs hstands (hknown target htarget)

/-- A type that is found is at home in an interface of the same kind. -/
theorem Interface.AttachedTo.of_lookup (hi : i.AttachedTo s) {named : NamedType}
    (hlookup : i.registry.lookup target = some (named, home)) :
    ∃ j : Interface, j.AttachedTo s ∧ j.registry = home ∧ j.HasSchema named.schema := by
  obtain ⟨hlocal, ⟨-, rfl⟩ | ⟨key, -, hhome⟩⟩ := Registry.lookup_eq_some hlookup
  · exact ⟨i, hi, rfl, .type (Registry.mem_of_local? hlocal).1⟩
  · obtain ⟨j, hj, rfl⟩ := hi.coherent hs (mem_of_lookup hhome)
    exact ⟨j, attachedTo_of_lookup hs hj, rfl, .type (Registry.mem_of_local? hlocal).1⟩

/-- What one comes to from a schema of an interface is part of a schema of an interface. -/
theorem Interface.AttachedTo.of_leads (hi : i.AttachedTo s) {schema schema' : Schema}
    (hschema : i.HasSchema schema) (h : i.registry.Leads schema home schema') :
    ∃ j : Interface, j.AttachedTo s ∧ j.registry = home ∧
      ∃ whole, j.HasSchema whole ∧ ∀ target, schema'.Mentions target → whole.Mentions target := by
  induction h with
  | here => exact ⟨i, hi, rfl, schema, hschema, fun _ hm => hm⟩
  | part _ hpart ih =>
    obtain ⟨j, hj, hhome, whole, hwhole, hmentions⟩ := ih
    exact ⟨j, hj, hhome, whole, hwhole, fun target hm => hmentions target (.part hpart hm)⟩
  | follow _ hlookup ih =>
    obtain ⟨j, hj, rfl, -⟩ := ih
    obtain ⟨k, hk, hhome, hnamed⟩ := hj.of_lookup hs hlookup
    exact ⟨k, hk, hhome, _, hnamed, fun _ hm => hm⟩

/-- From a schema of an interface one only comes to references that are found. -/
theorem Interface.AttachedTo.findsAll (hi : i.AttachedTo s) {schema : Schema}
    (hschema : i.HasSchema schema) : i.registry.FindsAll schema := by
  intro home target h
  obtain ⟨j, hj, rfl, whole, hwhole, hmentions⟩ := hi.of_leads hs hschema h
  exact hj.isSome_lookup hs hwhole (hmentions target .reference)

end Attached

/-! ## Schemas that are read -/

section Forms

open RawSchema

variable {target : TypeRef} {part : Value → Schema → Prop} {schema : Schema}

theorem Schema.Mentions.eq_or_part (h : schema.Mentions target) :
    schema = .reference target ∨ ∃ p, Schema.IsPart p schema ∧ p.Mentions target := by
  cases h with
  | reference => exact .inl rfl
  | part hpart h => exact .inr ⟨_, hpart, h⟩

theorem Schema.not_mentions_anything : ¬ Schema.anything.Mentions target := by
  intro h
  rcases h.eq_or_part with h | ⟨p, hp, -⟩
  · cases h
  · cases hp

theorem exists_mentions_of_typedForm {members : Members} {name : String}
    (h : TypedForm part members name schema) (hm : schema.Mentions target) :
    ∃ raw p, part raw p ∧ p.Mentions target := by
  rcases hm.eq_or_part with rfl | ⟨p, hp, hmp⟩
  · cases h
  cases h with
  | @object fields hfields =>
    cases hp with
    | field hfield =>
      rcases mem_fieldsOf.1 hfield with ⟨q, hq, rfl⟩ | ⟨name, -, -, rfl⟩
      · have hsecond : List.Forall₂ (fun (raw : String × Value) p => part raw.2 p)
            (properties members) (fields.map Prod.snd) := by
          rw [List.forall₂_map_right_iff]
          exact hfields.imp fun _ _ h => h.2
        obtain ⟨raw, -, hraw⟩ :=
          exists_of_forall₂_right hsecond (List.mem_map_of_mem hq)
        exact ⟨raw.2, q.2, hraw, hmp⟩
      · exact absurd hmp Schema.not_mentions_anything
  | tuple hitems hparts =>
    cases hp with
    | position hitem =>
      obtain ⟨raw, -, hraw⟩ := exists_of_forall₂_right hparts hitem
      exact ⟨raw, p, hraw, hmp⟩
  | array hitems hone hpart =>
    cases hp with
    | item => exact ⟨_, p, hpart, hmp⟩
  | anyArray =>
    cases hp with
    | item => exact absurd hmp Schema.not_mentions_anything
  | primitive => cases hp

/-- A reference in a schema stands in what a reference stands for, or in what some part does. -/
theorem exists_mentions_of_hasForm {ref : String → Schema → Prop} {raw : Value}
    (h : HasForm ref part raw schema) (hm : schema.Mentions target) :
    (∃ text, ref text schema) ∨ ∃ raw p, part raw p ∧ p.Mentions target := by
  cases h with
  | reference _ _ h => exact .inl ⟨_, h⟩
  | everything | unconstrained => exact absurd hm Schema.not_mentions_anything
  | const | enum =>
    rcases hm.eq_or_part with h | ⟨p, hp, -⟩
    · cases h
    · cases hp
  | union _ _ _ hparts =>
    rcases hm.eq_or_part with h | ⟨p, hp, hm⟩
    · cases h
    · cases hp with
      | alternative hmem =>
        obtain ⟨raw, -, hraw⟩ := exists_of_forall₂_right hparts hmem
        exact .inr ⟨raw, p, hraw, hm⟩
  | typed _ _ h => exact .inr (exists_mentions_of_typedForm h hm)
  | oneType _ _ h => exact .inr (exists_mentions_of_typedForm h hm)
  | types _ _ hparts =>
    rcases hm.eq_or_part with h | ⟨p, hp, hm⟩
    · cases h
    · cases hp with
      | alternative hmem =>
        obtain ⟨raw, -, name, -, h⟩ := exists_of_forall₂_right hparts hmem
        exact .inr (exists_mentions_of_typedForm h hm)
  | properties _ h => exact .inr (exists_mentions_of_typedForm h hm)

end Forms

/-- Reading a document knows every reference. -/
theorem wiring_respects (loader : Loader) : wiring.Respects loader where
  loads _ := trivial
  stable _ _ hextends hstands target hm := by
    cases hstands target hm with
    | own hdocument h => exact .own hdocument h
    | linked hdocument hi h => exact .linked hdocument (hextends _ _ hi) h
    | reached hdocument hi hhome h => exact .reached hdocument (hextends _ _ hi) hhome h
  form := by
    intro document rawDocument outline library s externals raw schema hof _ _ _ hs hlinked hform
      _ target hm
    rcases exists_mentions_of_hasForm hform hm with ⟨text, href⟩ | ⟨raw, p, hp, hm⟩
    · cases href with
      | ownType _ _ _ _ hname =>
        rcases hm.eq_or_part with h | ⟨p, hp, -⟩
        · cases h
          obtain ⟨header, hheader, rfl⟩ := List.mem_map.1 hname
          obtain ⟨raw, hraw, hheader⟩ := exists_of_forall₂_right hof.types hheader
          refine .own rfl (List.find?_isSome.2 ⟨raw, hraw, ?_⟩)
          rw [hheader.name?]
          exact beq_self_eq_true _
        · cases hp
      | ownFragment _ _ _ _ _ h => exact h target hm
      | type _ _ _ hi _ hname =>
        rcases hm.eq_or_part with h | ⟨p, hp, -⟩
        · cases h
          exact .linked rfl hi hname
        · cases hp
      | @fragment key other _ i _ _ _ _ hi _ hfragment =>
        obtain ⟨target', hm', rfl⟩ := Schema.mentions_rebase hm
        have hlink := (hlinked other i (mem_of_lookup hi)).2
        have hattached := attachedTo_of_lookup hs hlink
        have hfound := hattached.isSome_lookup hs (.fragment (mem_of_lookup hfragment)) hm'
        obtain ⟨⟨named, home⟩, hlookup⟩ := Option.isSome_iff_exists.1 hfound
        obtain ⟨hlocal, ⟨hdocument, rfl⟩ | ⟨k, hdocument, hhome⟩⟩ :=
          Registry.lookup_eq_some hlookup
        · have htype : (i.type? target'.name).isSome := by
            unfold Interface.type?
            rw [hlocal]
            rfl
          exact .linked (by simp [TypeRef.outside, hdocument]) hi htype
        · refine .reached (by simp [TypeRef.outside, hdocument]) hi hhome ?_
          show (home.local? target'.name).isSome
          rw [hlocal]
          rfl
    · exact hp target hm

/-! ## Interfaces that a resolver returns -/

/-- What a resolver returns was resolved with interfaces of the store. -/
theorem Resolver.returns_attached {allowed : Source → Prop} {given : Value → Prop}
    {resolver : Resolver} {s s' : Store} {i : Interface}
    (hresolver : ∀ source, resolver.source = some source → allowed source)
    (hs : s.Reachable allowed)
    (h : (∃ raw, given raw ∧ resolver.resolve raw s = .ok i s') ∨
      ∃ name, resolver.load name s = .ok i s') :
    s'.Sound wiring ∧ i.AttachedTo s' := by
  obtain ⟨hsound, document, raw, externals, -, hstands⟩ := Resolver.returned
    (fun source _ => wiring_respects source.loader) ⟨_, wiring_respects (.ofDocuments [])⟩
    hresolver hs h
  exact ⟨hsound, document, raw, externals, hstands⟩

/-- From every schema of an interface that a resolver returns one only comes to references that are
found, whatever the store went through before and wherever its documents came from. Hence neither the
walk over the schema nor the choice of an alternative depends on what is done about others. -/
theorem Resolver.returns_findsAll {resolver : Resolver} {s s' : Store} {i : Interface}
    (hs : s.Reachable fun _ => True)
    (h : (∃ raw, resolver.resolve raw s = .ok i s') ∨ ∃ name, resolver.load name s = .ok i s')
    {schema : Schema} (hschema : i.HasSchema schema) :
    i.registry.FindsAll schema ∧ ∀ answer maxDepth levels value,
      walkAnswering answer maxDepth levels schema i.registry value =
        walk maxDepth levels schema i.registry value ∧
      selectAnswering answer maxDepth value levels schema i.registry =
        Validator.selectFrom maxDepth value levels schema i.registry := by
  have hsound : s.Sound wiring :=
    hs.sound (fun source _ => wiring_respects source.loader)
      ⟨Loader.ofDocuments [], wiring_respects _⟩
  have hattached : s'.Sound wiring ∧ i.AttachedTo s' := by
    rcases h with ⟨raw, h⟩ | ⟨name, h⟩
    · have hloader : ∃ loader, ∀ source, resolver.source = some source → source.loader = loader := by
        cases resolver.source with
        | none => exact ⟨Loader.ofDocuments [], fun _ h => by cases h⟩
        | some source => exact ⟨source.loader, fun _ h => by cases h; rfl⟩
      obtain ⟨loader, hloader⟩ := hloader
      obtain ⟨free, hruns⟩ := Resolver.resolve_runs (wiring_respects loader) hloader hsound
      obtain ⟨hs', -, externals, hstands⟩ := hruns.ok h
      exact ⟨hs', none, raw, externals, hstands⟩
    · unfold load at h
      cases hsource : resolver.source with
      | none =>
        rw [hsource] at h
        cases h
      | some source =>
        rw [hsource] at h
        obtain ⟨hs', -, key, -, hi⟩ :=
          (Source.interface_runs (wiring_respects source.loader) hsound).ok h
        exact ⟨hs', attachedTo_of_lookup hs' hi⟩
  have hfinds := hattached.2.findsAll hattached.1 hschema
  exact ⟨hfinds, fun _ _ _ _ => ⟨walkAnswering_eq_walk hfinds, selectAnswering_eq_selectFrom hfinds⟩⟩

namespace Sample

/-- Nodes that lead to nodes, and a fragment for them. -/
def nodes : Value :=
  document [
    ("types", .array [.object (declaration "node" [("schema", .object [
      ("properties", .object [("next", reference "#/types/node")])])])]),
    ("schemas", .object [("any-node", reference "#/types/node")])]

/-- Lists of the nodes of another document, by the fragment. -/
def listSchema : Value :=
  .object [("type", .string "array"), ("items", reference "nodes.json#/schemas/any-node")]

/-- The type of such lists. -/
def lists : Value :=
  document [("types", .array [.object (declaration "list" [("schema", listSchema)])])]

/-- Both documents. -/
def documents : List (String × Value) := [("nodes.json", nodes), ("lists.json", lists)]

/-- The source of both documents. -/
def source : Source := ⟨.ofDocuments documents, .none⟩

/-- The resolver with both documents. -/
def resolver : Resolver := ⟨.none, some source⟩

theorem resolver_loads_lists :
    ∃ i s' named, resolver.load "lists.json" .empty = .ok i s' ∧ i.type? "list" = some named := by
  have hloads : ((result? (resolver.load "lists.json") .empty).bind
      fun i => i.type? "list").isSome := by decide +kernel
  obtain ⟨named, hnamed⟩ := Option.isSome_iff_exists.1 hloads
  obtain ⟨i, hi, hnamed⟩ := Option.bind_eq_some_iff.1 hnamed
  obtain ⟨s', h⟩ := result?_eq_some.1 hi
  exact ⟨i, s', named, h, hnamed⟩

end Sample

/-- The type of lists refers to nodes of another document by a borrowed fragment. -/
theorem Resolver.findsAll_lists :
    ∃ i s' named, Sample.resolver.load "lists.json" .empty = .ok i s' ∧
      i.type? "list" = some named ∧ i.registry.FindsAll named.schema := by
  obtain ⟨i, s', named, h, hnamed⟩ := Sample.resolver_loads_lists
  have hschema : i.HasSchema named.schema := .type (List.mem_of_find?_eq_some hnamed)
  exact ⟨i, s', named, h, hnamed, (Resolver.returns_findsAll .empty (.inr ⟨_, h⟩) hschema).1⟩

end ServiceContract
