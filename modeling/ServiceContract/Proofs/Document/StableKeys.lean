import ServiceContract.Proofs.Document.Graph
import ServiceContract.Proofs.Document.Loading
import ServiceContract.Proofs.Document.Origins
import ServiceContract.Proofs.Document.Places
import ServiceContract.Proofs.Document.Reached

/-!
# Keys as names

A key without white space at its ends is a name of its own document: it is its own key, and the
document, the interface and the types that there are under it are found by it. Segments that fold away
may leave white space at an end of a key. White space at the ends of a name does not count, so that
such a key is a name of another document.
-/

namespace ServiceContract

open Json (Value)
open Relation (ReflTransGen TransGen)

/-! ## Keys of keys -/

namespace DocumentKey

open Text (extent)

variable {place : Place} {path segment : List Char} {pieces : List (List Char)}
  {origin : Option String} {raw key : String}

theorem extent_onward_place :
    extent ((onward place segment).map Subtype.val) ≤
      extent (place.map Subtype.val) + (segment.length + 1) := by
  unfold onward
  split
  · rcases List.eq_nil_or_concat' place with rfl | ⟨init, last, rfl⟩
    · exact Nat.zero_le _
    · rw [List.dropLast_concat, List.map_append, Text.extent_append, Nat.add_assoc]
      exact Nat.le_add_right _ _
  · split
    · rw [List.map_append, Text.extent_append]
      exact Nat.le_refl _
    · exact Nat.le_add_right _ _

namespace Location

variable {location : Location}

/-- A segment makes a canonical path longer by what it takes to write it at most. -/
theorem extent_onward :
    extent (location.onward segment).segments ≤ extent location.segments + (segment.length + 1) := by
  cases location with
  | fixed names => exact extent_onward_place
  | relative ups names =>
    by_cases hup : segment = ['.', '.'] ∧ names = []
    · obtain ⟨rfl, rfl⟩ := hup
      have hmore : (relative ups []).onward ['.', '.'] = relative (ups + 1) [] := by
        rw [onward, if_pos ⟨rfl, rfl⟩]
      rw [hmore]
      simp only [segments, List.replicate_succ', Text.extent_append, Text.extent_cons,
        Text.extent_nil, List.map_nil]
      exact Nat.le_refl _
    · have hstay : (relative ups names).onward segment =
          relative ups (DocumentKey.onward names segment) := if_neg hup
      rw [hstay, segments, segments, Text.extent_append, Text.extent_append, Nat.add_assoc]
      exact Nat.add_le_add_left extent_onward_place _

theorem extent_foldl :
    extent (pieces.foldl onward location).segments ≤ extent location.segments + extent pieces := by
  induction pieces generalizing location with
  | nil => exact Nat.le_refl _
  | cons segment pieces ih =>
    rw [List.foldl_cons, Text.extent_cons, ← Nat.add_assoc]
    exact ih.trans (Nat.add_le_add_right extent_onward _)

/-- A path is never shorter than the canonical one that says the same. -/
theorem length_ofPath_le : (ofPath path).text.length ≤ path.length := by
  have hbound : ∀ cs : List Char, (if (ofPath path).isFixed then ['/'] else []).length + cs.length =
      path.length → extent (ofPath path).segments ≤ cs.length + 1 →
        (ofPath path).text.length ≤ path.length := by
    intro cs hlength hextent
    unfold text
    rw [List.length_append, Text.length_intercalate]
    omega
  rw [isFixed_ofPath] at hbound
  by_cases hhead : path.head? = some '/'
  · obtain ⟨rest, rfl⟩ := List.head?_eq_some_iff.1 hhead
    -- The piece before the slash is empty, and the slash is written again.
    have hfixed : ofPath ('/' :: rest) = (Text.splitAt '/' rest).foldl onward (fixed []) :=
      congrArg (fun start => (Text.splitAt '/' rest).foldl onward start) onward_nil
    refine hbound rest (Nat.add_comm ..) ?_
    rw [hfixed, ← Text.extent_splitAt]
    exact extent_foldl.trans_eq (Nat.zero_add _)
  · have hrelative : ofPath path = (Text.splitAt '/' path).foldl onward (relative 0 []) := by
      rw [ofPath, if_neg hhead]
    refine hbound path ?_ ?_
    · rw [beq_eq_false_iff_ne.2 hhead]
      exact Nat.zero_add _
    · rw [hrelative, ← Text.extent_splitAt]
      exact extent_foldl.trans_eq (Nat.zero_add _)

end Location

/-- A key is its own key just if it has no white space at its ends. -/
theorem normalize_normalize :
    normalize none (normalize origin raw) = normalize origin raw ↔
      Text.trim (normalize origin raw) = normalize origin raw := by
  have htext := @toList_normalize origin raw
  have hagain : (normalize none (normalize origin raw)).toList =
      (Location.ofPath (Text.trimChars (normalize origin raw).toList)).text := toList_normalize
  have htrim : Text.trim (normalize origin raw) = normalize origin raw ↔
      Text.trimChars (normalize origin raw).toList = (normalize origin raw).toList := by
    rw [← String.toList_inj, Text.trim, String.toList_ofList]
  rw [htrim]
  constructor
  · intro hsame
    by_contra hends
    have hshorter := (Location.length_ofPath_le.trans_lt (Text.length_trimChars_lt hends))
    rw [← hagain, hsame] at hshorter
    exact Nat.lt_irrefl _ hshorter
  · intro hends
    rw [← String.toList_inj, hagain, hends, htext, Location.ofPath_text]

end DocumentKey

/-! ## Documents of a loader -/

namespace Loader

variable {documents : List (String × Value)} {name : String} {given : Value}

/-- There is a document under the key of every name that a document is given with. -/
theorem exists_load_ofDocuments (h : (name, given) ∈ documents) :
    ∃ raw, (ofDocuments documents).load (DocumentKey.normalize none name) = .ok raw := by
  unfold load ofDocuments
  dsimp only
  generalize hentries : List.map _ documents = entries
  have hentry : (DocumentKey.normalize none name, given) ∈ entries :=
    hentries ▸ List.mem_map.2 ⟨_, h, rfl⟩
  obtain ⟨raw, hraw⟩ := Option.isSome_iff_exists.1 (isSome_lookup_nameTable hentry)
  exact ⟨raw, by rw [if_pos (List.mem_map_of_mem (mem_of_lookup hraw)), hraw]⟩

end Loader

/-! ## Documents of a store -/

/-- An interface knows the key that its document was resolved under. -/
theorem Interface.ensures_document (rules : IdentifierRules) :
    rules.Ensures fun document _ i => i.document = document := by
  intro document library raw s s' i h
  have hruns : (Discipline.ofInv fun _ => True).Runs (resolveDocument rules document library raw) s _ :=
    resolveDocument_runs trivial (fun _ _ => trivial) fun _ hof =>
      .of_library hof (fun _ _ => trivial) fun _ _ _ _ _ => .of_stateAfter trivial
  obtain ⟨-, -, externals, hstands⟩ := hruns.ok h
  exact hstands.key

/-- A key leads back to a raw document and its interface in a store: what takes names gives them, and
leaves the store as it is. -/
structure Source.LeadsBack (source : Source) (key : String) (raw : Value) (i : Interface) (s : Store) :
    Prop where
  /-- The raw document. -/
  raw : source.raw key s = .ok raw s
  /-- The interface. -/
  interface : source.interface key s = .ok i s
  /-- The interface, by a resolver. -/
  load : ∀ resolver : Resolver, resolver.source = some source → resolver.load key s = .ok i s

namespace Store

variable {allowed : Source → Prop} {s t : Store} {source : Source} {key other : String} {raw : Value}
  {i : Interface} {home : Registry}

theorem Reachable.step (hs : s.Reachable allowed) (h : Step allowed s t) : t.Reachable allowed := by
  cases h with
  | raw name hsource => exact .raw name hsource hs
  | interface name hsource => exact .interface name hsource hs
  | resolve raw hsource => exact .resolve raw hsource hs

theorem Reachable.steps (hs : s.Reachable allowed) (h : ReflTransGen (Step allowed) s t) :
    t.Reachable allowed := by
  induction h with
  | refl => exact hs
  | tail _ hstep ih => exact ih.step hstep

theorem Reachable.mono {allowed' : Source → Prop} (hs : s.Reachable allowed)
    (h : ∀ source, allowed source → allowed' source) : s.Reachable allowed' := by
  induction hs with
  | empty => exact .empty
  | raw name hsource _ ih => exact .raw name (h _ hsource) ih
  | interface name hsource _ ih => exact .interface name (h _ hsource) ih
  | resolve raw hsource _ ih => exact .resolve raw (fun source hs => h source (hsource source hs)) ih

/-- The document of an interface is in the store as well, and the interface knows its key. -/
theorem Reachable.described (hs : s.Reachable allowed) (hi : s.resolved.lookup key = some i) :
    (∃ raw, s.raws.lookup key = some raw) ∧ i.document = some key := by
  have hinv := hs.describes fun source _ => Interface.ensures_document source.rules
  obtain ⟨raw, hraw, hdocument⟩ := hinv key i hi
  exact ⟨⟨raw, hraw⟩, hdocument⟩

variable {resolveKey : (origin : Option String) → (raw : String) → Except Error String}

/-- What an interface in a store has for another document is at home in the store, under the key of a
name. -/
theorem Kept.exists_name (hs : s.Kept resolveKey) (hi : s.resolved.lookup other = some i)
    (hhome : (key, home) ∈ i.registry.externals) :
    (∃ origin name, resolveKey origin name = .ok key) ∧
      ∃ j, s.resolved.lookup key = some j ∧ j.registry = home := by
  obtain ⟨hreached, hthere⟩ := hs.reached hi hhome
  obtain ⟨b, -, raw, name, -, -, hkey, -⟩ := TransGen.tail'_iff.1 hreached
  exact ⟨⟨some b, name, hkey⟩, hthere⟩

section Kept

variable (hs : s.Reachable (·.loader.resolveKey = source.loader.resolveKey))

include hs

/-- From then on a key leads back to what is under it just if it is its own key. -/
theorem Reachable.leadsBack_iff (hraw : s.raws.lookup key = some raw)
    (hi : s.resolved.lookup key = some i)
    (h : ReflTransGen (Step (·.loader.resolveKey = source.loader.resolveKey)) s t) :
    source.LeadsBack key raw i t ↔ source.loader.resolveKey none key = .ok key := by
  obtain ⟨ht, hraws, hresolved⟩ := keeps_of_steps hs.kept h
  constructor
  · intro hback
    obtain ⟨-, -, key', hkey', hi'⟩ := (Source.interface_keeps ht).ok hback.interface
    cases (hs.described hi).2.symm.trans ((hs.steps h).described hi').2
    exact hkey'
  · intro hkey
    have hinterface := Source.interface_of_lookup ht hkey (hresolved key i hi)
    refine ⟨(Source.givesRaw hkey).found raw (hraws key raw hraw), hinterface, ?_⟩
    intro resolver hresolver
    rw [Resolver.load, hresolver]
    exact hinterface

end Kept

end Store

/-! ## Keys that interfaces report -/

/-- The keys of the documents that an interface reports: its own, and those whose types it reaches. -/
def Interface.Reports (i : Interface) (key : String) : Prop :=
  i.document = some key ∨ key ∈ i.registry.externalDocuments

namespace Resolver

variable {resolver : Resolver} {s s' : Store} {i : Interface} {key : String} {home : Registry}
  {resolveKey : (origin : Option String) → (raw : String) → Except Error String}

theorem exists_source_of_load {name : String} (h : resolver.load name s = .ok i s') :
    ∃ source, resolver.source = some source ∧ source.interface name s = .ok i s' := by
  unfold load at h
  cases hsource : resolver.source with
  | none =>
    rw [hsource] at h
    cases h
  | some source =>
    rw [hsource] at h
    exact ⟨source, rfl, h⟩

variable (hs : s.Reachable (·.loader.resolveKey = resolveKey))
  (hresolver : ∀ source, resolver.source = some source → source.loader.resolveKey = resolveKey)
  (h : (∃ raw, resolver.resolve raw s = .ok i s') ∨ ∃ name, resolver.load name s = .ok i s')

include hs hresolver h

theorem returns_reachable : s'.Reachable (·.loader.resolveKey = resolveKey) := by
  rcases h with ⟨raw, h⟩ | ⟨name, h⟩
  · exact stateAfter_of_ok h ▸ .resolve raw hresolver hs
  · obtain ⟨source, hsource, h⟩ := exists_source_of_load h
    exact stateAfter_of_ok h ▸ .interface name (hresolver source hsource) hs

/-- The key of the document of an interface is that of a name, and the interface is under it. -/
theorem returns_own (hdocument : i.document = some key) :
    (∃ origin name, resolveKey origin name = .ok key) ∧ s'.resolved.lookup key = some i := by
  have hs' := returns_reachable hs hresolver h
  rcases h with ⟨raw, h⟩ | ⟨name, h⟩
  · have hnone : i.document = none := Interface.ensures_document resolver.rules none _ raw s s' i h
    cases hnone.symm.trans hdocument
  · obtain ⟨source, hsource, h⟩ := exists_source_of_load h
    obtain rfl := hresolver source hsource
    obtain ⟨-, -, own, hown, hi⟩ := (Source.interface_keeps hs.kept).ok h
    cases (hs'.described hi).2.symm.trans hdocument
    exact ⟨⟨none, name, hown⟩, hi⟩

/-- The keys of the other documents are those of names, and their registries are under them. -/
theorem returns_externals (hhome : (key, home) ∈ i.registry.externals) :
    (∃ origin name, resolveKey origin name = .ok key) ∧
      ∃ j, s'.resolved.lookup key = some j ∧ j.registry = home := by
  have hs' := returns_reachable hs hresolver h
  rcases h with ⟨raw, h⟩ | ⟨name, h⟩
  · obtain ⟨known, free, hruns⟩ := @resolve_keeps resolver raw s resolveKey hresolver hs.kept
    obtain ⟨-, -, externals, hregistry, hnamed⟩ := hruns.ok h
    rw [hregistry] at hhome
    rcases mem_mergeExternals hhome with ⟨j, hj, rfl⟩ | ⟨k, j, hj, hhome⟩
    · obtain ⟨-, hthere, l, name, hl, -, hname⟩ := hnamed.there key j hj
      obtain ⟨source, hsource, rfl⟩ := Option.map_eq_some_iff.1 hl
      exact ⟨⟨none, name, hresolver source hsource ▸ hname⟩, j, hthere, rfl⟩
    · exact hs'.kept.exists_name (hnamed.there k j hj).2.1 hhome
  · obtain ⟨source, hsource, h⟩ := exists_source_of_load h
    obtain rfl := hresolver source hsource
    obtain ⟨-, -, own, -, hi⟩ := (Source.interface_keeps hs.kept).ok h
    exact hs'.kept.exists_name hi hhome

/-- What an interface reports as a key is the key of a name, and what it means by it is in the store. -/
theorem returns_reported (hkey : i.Reports key) :
    (∃ origin name, resolveKey origin name = .ok key) ∧
      ∃ j, s'.resolved.lookup key = some j ∧ (i.document = some key → j = i) ∧
        ∀ home, i.registry.externals.lookup key = some home → j.registry = home := by
  obtain ⟨hname, j, hj⟩ : (∃ origin name, resolveKey origin name = .ok key) ∧
      ∃ j, s'.resolved.lookup key = some j := by
    rcases hkey with hdocument | hmem
    · obtain ⟨hname, hi⟩ := returns_own hs hresolver h hdocument
      exact ⟨hname, i, hi⟩
    · obtain ⟨⟨k, home⟩, hhome, rfl⟩ := List.mem_map.1 hmem
      obtain ⟨hname, j, hj, -⟩ := returns_externals hs hresolver h hhome
      exact ⟨hname, j, hj⟩
  -- There is one interface at most under the key.
  refine ⟨hname, j, hj, fun hdocument => ?_, fun home hhome => ?_⟩
  · exact Option.some.inj (hj.symm.trans (returns_own hs hresolver h hdocument).2)
  · obtain ⟨-, j', hj', rfl⟩ := returns_externals hs hresolver h (mem_of_lookup hhome)
    rw [Option.some.inj (hj.symm.trans hj')]

end Resolver

/-- With given documents a key that is its own key leads to the document that is given under it. -/
theorem Source.leads_of_documents {source : Source} {documents : List (String × Value)} {s : Store}
    {key : String} {raw : Value} (hsource : source.loader = .ofDocuments documents)
    (hs : s.Reachable (·.loader = .ofDocuments documents)) (hload : source.loader.load key = .ok raw)
    (hkey : source.loader.resolveKey none key = .ok key) :
    (∃ s', source.raw key s = .ok raw s') ∧
      ∀ i s', source.interface key s = .ok i s' → i.document = some key ∧
        source.LeadsBack key raw i s' := by
  have hsound : ∀ {s : Store}, s.Reachable (·.loader = .ofDocuments documents) →
      s.Sound (ending (.ofDocuments documents)) := fun hs =>
    hs.sound (fun source (h : source.loader = _) => h ▸ ending_respects (.ofDocuments documents))
      ⟨_, ending_respects (.ofDocuments documents)⟩
  have hserved : ∀ {s : Store} {raw' : Value}, s.Reachable (·.loader = .ofDocuments documents) →
      s.raws.lookup key = some raw' → raw' = raw := by
    intro s raw' hs hraw
    cases ((hsound hs).raws key raw' hraw).symm.trans (hsource ▸ hload)
    rfl
  have hnames : ∀ {s : Store}, s.Reachable (·.loader = .ofDocuments documents) →
      s.Reachable (·.loader.resolveKey = source.loader.resolveKey) := fun hs =>
    hs.mono fun other h => by rw [h, hsource]
  refine ⟨?_, fun i s' h => ?_⟩
  · cases hraw : s.raws.lookup key with
    | none =>
      obtain ⟨s', h, -⟩ := (givesRaw hkey).loaded raw hraw hload
      exact ⟨s', h⟩
    | some raw' => exact ⟨s, (givesRaw hkey).found raw (hserved hs hraw ▸ hraw)⟩
  · have hs' : s'.Reachable (·.loader = .ofDocuments documents) :=
      stateAfter_of_ok h ▸ .interface key hsource hs
    obtain ⟨-, -, own, hown, hi⟩ := (interface_keeps (hnames hs).kept).ok h
    cases hkey.symm.trans hown
    obtain ⟨⟨raw', hraw⟩, hdocument⟩ := hs'.described hi
    obtain rfl := hserved hs' hraw
    exact ⟨hdocument, ((hnames hs').leadsBack_iff hraw hi .refl).2 hkey⟩

/-- Keys without white space at their ends are stable names. A key is its own key just if it has none.
With given documents such a key leads to the document that is given under it and to its interface. And
among the keys that an interface reports, its own and those of the documents whose types it reaches, it
is just these that lead back to the interface, or to the one with the registry that it has under the key,
and to the raw document, through all operations that follow, whatever the sources are. -/
theorem Store.Reachable.keys_lead_back {source : Source} {s : Store}
    (hnames : source.loader.resolveKey = fun origin name => .ok (DocumentKey.normalize origin name))
    (hs : s.Reachable (·.loader.resolveKey = source.loader.resolveKey)) :
    (∀ origin name, DocumentKey.normalize none (DocumentKey.normalize origin name) =
      DocumentKey.normalize origin name ↔
        Text.trim (DocumentKey.normalize origin name) = DocumentKey.normalize origin name) ∧
    (∀ documents name given key, source.loader = .ofDocuments documents →
      s.Reachable (·.loader = .ofDocuments documents) → (name, given) ∈ documents →
      DocumentKey.normalize none name = key → ∃ raw name', source.loader.load key = .ok raw ∧
        (name', raw) ∈ documents ∧ DocumentKey.normalize none name' = key ∧
        (Text.trim key = key → (∃ s', source.raw key s = .ok raw s') ∧
          ∀ i s', source.interface key s = .ok i s' → i.document = some key ∧
            source.LeadsBack key raw i s')) ∧
    ∀ (resolver : Resolver) i s',
      (∀ other, resolver.source = some other →
        other.loader.resolveKey = source.loader.resolveKey) →
      ((∃ raw, resolver.resolve raw s = .ok i s') ∨ ∃ name, resolver.load name s = .ok i s') →
      ∀ key, i.Reports key → ∃ raw j,
        s'.raws.lookup key = some raw ∧ s'.resolved.lookup key = some j ∧
        (i.document = some key → j = i) ∧
        (∀ home, i.registry.externals.lookup key = some home → j.registry = home) ∧
        ∀ t, ReflTransGen (Step (·.loader.resolveKey = source.loader.resolveKey)) s' t →
          (source.LeadsBack key raw j t ↔ Text.trim key = key) := by
  have hown : ∀ {key}, (∃ origin name, DocumentKey.normalize origin name = key) →
      (source.loader.resolveKey none key = .ok key ↔ Text.trim key = key) := by
    rintro _ ⟨origin, name, rfl⟩
    rw [hnames, Except.ok.injEq]
    exact DocumentKey.normalize_normalize
  refine ⟨fun _ _ => DocumentKey.normalize_normalize, ?_, ?_⟩
  · intro documents name given key hsource hdocuments hgiven hkey
    obtain ⟨raw, hload⟩ := Loader.exists_load_ofDocuments hgiven
    obtain ⟨name', hmem, hname'⟩ := Loader.mem_of_load_ofDocuments hload
    subst hkey
    rw [← hsource] at hload
    refine ⟨raw, name', hload, hmem, hname'.symm, fun htrim => ?_⟩
    exact Source.leads_of_documents hsource hdocuments hload ((hown ⟨none, name, rfl⟩).2 htrim)
  · intro resolver i s' hresolver h key hreports
    have hs' := Resolver.returns_reachable hs hresolver h
    obtain ⟨⟨origin, name, hname⟩, j, hj, hsame, hhome⟩ :=
      Resolver.returns_reported hs hresolver h hreports
    obtain ⟨⟨raw, hraw⟩, -⟩ := hs'.described hj
    rw [hnames, Except.ok.injEq] at hname
    exact ⟨raw, j, hraw, hj, hsame, hhome, fun t ht =>
      (hs'.leadsBack_iff hraw hj ht).trans (hown ⟨origin, name, hname⟩)⟩

namespace Sample

/-- The resolver with the documents that borrow from one another. -/
def lendersResolver : Resolver := ⟨.none, some lenders⟩

end Sample

/-- The interface of the first document reports the key of the nodes, which it names nowhere, and by this
key they are found. -/
theorem Store.Reachable.keys_lead_back_lenders :
    ∃ i s' raw j, Sample.lendersResolver.load "a.json" .empty = .ok i s' ∧
      i.Reports "a.json" ∧ i.Reports "nodes.json" ∧
      Sample.lenders.LeadsBack "nodes.json" raw j s' ∧ Text.trim "nodes.json" = "nodes.json" := by
  have hreports : ((result? (Sample.lendersResolver.load "a.json") .empty).map fun i =>
      (i.document, i.registry.externalDocuments)) =
        some (some "a.json", ["b.json", "nodes.json"]) := by decide +kernel
  obtain ⟨i, hi, hreports⟩ := Option.map_eq_some_iff.1 hreports
  obtain ⟨s', h⟩ := result?_eq_some.1 hi
  obtain ⟨hdocument, hexternals⟩ := Prod.mk.inj hreports
  have hnodes : i.Reports "nodes.json" := .inr (by rw [hexternals]; decide)
  have htrim : Text.trim "nodes.json" = "nodes.json" := by decide +kernel
  obtain ⟨-, -, hback⟩ := @Store.Reachable.keys_lead_back Sample.lenders .empty rfl .empty
  obtain ⟨raw, j, -, -, -, -, hback⟩ :=
    hback Sample.lendersResolver i s' (fun other hother => by cases hother; rfl) (.inr ⟨_, h⟩) _ hnodes
  exact ⟨i, s', raw, j, h, .inl hdocument, hnodes, (hback s' .refl).2 htrim, htrim⟩

namespace Sample

/-- The nodes under a name that has a space behind the segment that folds away, and a document without
types under the same name without it. -/
def spaced : Source := ⟨.ofDocuments [("./ a.json", nodes), ("a.json", document [])], .none⟩

end Sample

/-- The first document is stored under a key that starts with the space, and its interface reports this
key; but as a name the key leads to the other document. -/
theorem Source.spaced_key_astray :
    DocumentKey.normalize none "./ a.json" = " a.json" ∧
    DocumentKey.normalize none " a.json" = "a.json" ∧
    ∃ i s' j t, Sample.spaced.interface "./ a.json" .empty = .ok i s' ∧ i.document = some " a.json" ∧
      (i.type? "node").isSome ∧ Sample.spaced.interface " a.json" s' = .ok j t ∧
      j.document = some "a.json" ∧ j.type? "node" = none := by
  have hfirst : ((result? (Sample.spaced.interface "./ a.json") .empty).map fun i =>
      (i.document, (i.type? "node").isSome)) = some (some " a.json", true) := by decide +kernel
  obtain ⟨i, hi, hreports⟩ := Option.map_eq_some_iff.1 hfirst
  obtain ⟨s', h⟩ := result?_eq_some.1 hi
  obtain ⟨hdocument, htype⟩ := Prod.mk.inj hreports
  have hsecond : ((result? (Sample.spaced.interface " a.json")
      (stateAfter (Sample.spaced.interface "./ a.json") .empty)).map fun j =>
        (j.document, (j.type? "node").isSome)) = some (some "a.json", false) := by decide +kernel
  rw [stateAfter_of_ok h] at hsecond
  obtain ⟨j, hj, hreports⟩ := Option.map_eq_some_iff.1 hsecond
  obtain ⟨t, h'⟩ := result?_eq_some.1 hj
  obtain ⟨hdocument', htype'⟩ := Prod.mk.inj hreports
  exact ⟨by decide +kernel, by decide +kernel, i, s', j, t, h, hdocument, htype, h', hdocument',
    Option.isSome_eq_false_iff.1 htype' |> Option.isNone_iff_eq_none.1⟩

end ServiceContract
