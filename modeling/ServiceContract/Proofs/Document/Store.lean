import ServiceContract.Document.Store
import ServiceContract.Proofs.Document.Resolution

/-!
# What a document store holds

Every interface in a store stands for the raw document under its key, and the interfaces that it was
resolved with are in the store under theirs. This is shown for every notion of standing for that
follows the form of raw schemas, for every source of documents, and for every sequence of operations,
whether they succeed or fail: raw documents and interfaces are never replaced, only added.

While the documents around it are being resolved, a document leaves all entries but its own and those
of the documents that it enters as they are.
-/

namespace ServiceContract

open Json (Value Members)

/-! ## Stores -/

namespace Store

/-- Which raw documents there are, and what the raw schemas of each stand for. -/
structure Meaning where
  /-- The document under a key. -/
  serves : (key : String) → Value → Prop
  /-- What raw schemas stand for, by the key of their document and the raw document itself. -/
  stands : (document : Option String) → (rawDocument : Value) → Standing Store

variable {m : Meaning} {s s' s'' : Store} {key : String} {i : Interface} {free : List String}

/-- The interface stands for the raw document under the key; those it was resolved with are there. -/
def Holds (m : Meaning) (s : Store) (key : String) (i : Interface) : Prop :=
  ∃ raw externals, s.raws.lookup key = some raw ∧
    i.StandsFor (some key) raw externals (fun k j => s.resolved.lookup k = some j)
      (m.stands (some key) raw s externals)

/-- Every raw document in the store is one that there is, and every interface stands for its
document. -/
structure Sound (m : Meaning) (s : Store) : Prop where
  /-- The raw documents. -/
  raws : ∀ key raw, s.raws.lookup key = some raw → m.serves key raw
  /-- The interfaces. -/
  resolved : ∀ key i, s.resolved.lookup key = some i → s.Holds m key i

/-- Documents and interfaces are kept, and only under free keys are there new interfaces. -/
structure Grows (free : List String) (s s' : Store) : Prop where
  /-- Raw documents are kept. -/
  raws : Extends s.raws s'.raws
  /-- Interfaces are kept. -/
  resolved : Extends s.resolved s'.resolved
  /-- Other keys are left alone. -/
  others : ∀ key, key ∉ free → s'.resolved.lookup key = s.resolved.lookup key

theorem Grows.refl : Grows free s s := ⟨fun _ _ h => h, fun _ _ h => h, fun _ _ => rfl⟩

theorem Grows.trans (h : Grows free s s') (h' : Grows free s' s'') : Grows free s s'' :=
  ⟨fun key raw hraw => h'.raws key raw (h.raws key raw hraw),
    fun key i hi => h'.resolved key i (h.resolved key i hi),
    fun key hkey => (h'.others key hkey).trans (h.others key hkey)⟩

theorem Grows.mono {free' : List String} (h : Grows free s s') (hfree : ∀ key ∈ free, key ∈ free') :
    Grows free' s s' :=
  ⟨h.raws, h.resolved, fun key hkey => h.others key fun hmem => hkey (hfree key hmem)⟩

theorem extends_raws (s : Store) : Extends s.raws s.raws := .refl

theorem extends_raws_trans {s s' s'' : Store} (h : Extends s.raws s'.raws)
    (h' : Extends s'.raws s''.raws) : Extends s.raws s''.raws := h.trans h'

/-- Operations keep a sound store sound while documents that are not free are being resolved. -/
def growth (m : Meaning) (free : List String) : Discipline Error Store where
  inv := Sound m
  le := Grows free
  fault _ _ := True
  refl _ := .refl
  trans := .trans

/-- What is needed of a meaning for stores that are filled by a loader. -/
structure Meaning.Respects (m : Meaning) (loader : Loader) : Prop where
  /-- The loader loads documents that there are. -/
  loads : ∀ {key raw}, loader.load key = .ok raw → m.serves key raw
  /-- Later stores do not undo what a raw schema stands for. -/
  stable : ∀ {document rawDocument s s' externals externals' raw schema}, Extends s.raws s'.raws →
    Extends s.resolved s'.resolved → Extends externals externals' →
    m.stands document rawDocument s externals raw schema →
    m.stands document rawDocument s' externals' raw schema
  /-- What a raw schema stands for follows its form. Documents without a key may do without a
  library. -/
  form : ∀ {document rawDocument outline} {library : Option (Library Store)}
    {s externals raw schema}, Outline.IsOf outline rawDocument →
    (∀ key, document = some key → m.serves key rawDocument) →
    (∀ l, library = some l → l.resolveKey = loader.resolveKey) →
    (library = none → document = none) → s.Sound m →
    (∀ key i, (key, i) ∈ externals → some key ≠ document ∧ s.resolved.lookup key = some i) →
    RawSchema.HasForm
      (RefForm ⟨document, outline.types.map Header.name, library⟩ outline.fragments externals
        (m.stands document rawDocument s externals))
      (m.stands document rawDocument s externals) raw schema → RawSchema.ListsSome raw →
    m.stands document rawDocument s externals raw schema

section Respects

variable {loader : Loader} (h : m.Respects loader)

include h

theorem Holds.grow (hraws : Extends s.raws s'.raws) (hresolved : Extends s.resolved s'.resolved)
    (hi : s.Holds m key i) : s'.Holds m key i := by
  obtain ⟨raw, externals, hraw, hstands⟩ := hi
  refine ⟨raw, externals, hraws key raw hraw, ?_⟩
  exact
    { key := hstands.key
      checked := hstands.checked
      linked := fun k j hj => ⟨(hstands.linked k j hj).1, hresolved k j (hstands.linked k j hj).2⟩
      registry := hstands.registry
      types := hstands.types
      sites := fun site => rel_mono (hstands.sites site) fun hschema =>
        h.stable hraws hresolved (fun _ _ hj => hj) hschema
      schemas := fun schema hschema => by
        obtain ⟨fragment, rawSchema, hat, hrawSchema⟩ := hstands.schemas schema hschema
        exact ⟨fragment, rawSchema, hat, h.stable hraws hresolved (fun _ _ hj => hj) hrawSchema⟩
      raws := fun hrawSchema => by
        obtain ⟨schema, hschema⟩ := hstands.raws hrawSchema
        exact ⟨schema, h.stable hraws hresolved (fun _ _ hj => hj) hschema⟩ }

/-- A sound store stays sound when an interface that stands for its document is put in. -/
theorem Sound.put (hs : s.Sound m) (hnew : s.resolved.lookup key = none)
    (hi : s.Holds m key i) :
    Sound m { s with resolved := putEntry key i s.resolved } := by
  have hraws : Extends s.raws s.raws := fun _ _ hr => hr
  have hextends : Extends s.resolved (putEntry key i s.resolved) :=
    fun _ _ hj => lookup_putEntry_of_some hnew hj
  have hgrow : ∀ {k j}, s.Holds m k j →
      Holds m { s with resolved := putEntry key i s.resolved } k j :=
    fun hj => Holds.grow h hraws hextends hj
  refine ⟨hs.raws, fun k j hj => ?_⟩
  exact forall_lookup_putEntry (fun k j hj => hgrow (hs.resolved k j hj)) (hgrow hi) hj

/-- Resolving a document with a library that keeps the store sound keeps it sound, and the interface
stands for the document. -/
theorem Meaning.Respects.resolveDocument_runs {rules : IdentifierRules} {document : Option String}
    {library : Option (Library Store)} {raw : Value} (hs : s.Sound m)
    (hraw : ∀ key, document = some key → s.raws.lookup key = some raw)
    (hkeys : ∀ l, library = some l → l.resolveKey = loader.resolveKey)
    (halone : library = none → document = none)
    (hlibrary : ∀ l key s, library = some l → s.Sound m →
      (growth m free).Runs (l.interfaceAt key) s fun i s' => s'.resolved.lookup key = some i) :
    (growth m free).Runs (resolveDocument rules document library raw) s fun i s' =>
      ∃ externals, i.StandsFor document raw externals (fun k j => s'.resolved.lookup k = some j)
        (m.stands document raw s' externals) := by
  -- The document at hand stays in the store while it is being resolved.
  let known : Store → Prop := fun s => ∀ key, document = some key → s.raws.lookup key = some raw
  have hknown : ∀ {s s' : Store}, Grows free s s' → known s → known s' :=
    fun hle h key hkey => hle.raws key raw (h key hkey)
  have hresolves : ∀ outline : Outline, outline.IsOf raw →
      Resolves ((growth m free).pin known) ⟨document, outline.types.map Header.name, library⟩
        outline.fragments (RawDocument.Names (fun _ => True) raw)
        (fun s k j => s.resolved.lookup k = some j) (m.stands document raw) := by
    intro outline hof
    exact
      { fault := fun _ _ _ _ => trivial
        key := fun _ _ _ _ _ _ _ => trivial
        library := fun l name key s hl _ _ _ hs =>
          (hlibrary l key s hl hs.1).pin fun s' hle => hknown hle hs.2
        namesOnly := namesOnly_of_lookup_fragments hof fun _ hname => hname
        linkStable := fun hle hlink => hle.resolved _ _ hlink
        standsStable := fun hle hext hstands => h.stable hle.raws hle.resolved hext hstands
        form := fun hs hlinked =>
          h.form hof (fun key hkey => hs.1.raws key raw (hs.2 key hkey)) hkeys halone hs.1 hlinked }
  have hruns : ((growth m free).pin known).Runs (resolveDocument rules document library raw) s _ :=
    ServiceContract.resolveDocument_runs ⟨hs, hraw⟩ (fun _ _ => trivial) hresolves
  have hweak : (growth m free).Runs (resolveDocument rules document library raw) s _ :=
    hruns.weaken (fun _ hs _ => hs.1) (fun _ hle => hle) fun _ _ _ _ => trivial
  exact hweak.imp fun _ _ _ _ hQ => hQ.2

end Respects

end Store

/-! ## Operations -/

/-- A document of a loader of given documents is one of them. -/
theorem Loader.mem_of_load_ofDocuments {documents : List (String × Value)} {key : String}
    {raw : Value} (h : (ofDocuments documents).load key = .ok raw) :
    ∃ name, (name, raw) ∈ documents ∧ key = DocumentKey.normalize none name := by
  unfold load at h
  split at h
  · unfold ofDocuments at h
    dsimp only at h
    split at h
    · next found hfound =>
      cases h
      obtain ⟨⟨name, raw⟩, hmem, heq⟩ := List.mem_map.1 (mem_nameTable (mem_of_lookup hfound))
      cases heq
      exact ⟨name, hmem, rfl⟩
    · cases h
  · cases h

namespace Source

open Store (Meaning Grows growth)

variable {source : Source} {s : Store} {key : String} {keys free stack done : List String}

theorem mem_without {key other : String} {keys : List String} :
    other ∈ without key keys ↔ other ∈ keys ∧ other ≠ key := by
  simp [without]

theorem mem_knownKeys_of_mem_keys : ∀ k ∈ source.loader.keys, k ∈ source.knownKeys s :=
  fun _ hk => List.mem_append_left _ hk

theorem mem_knownKeys_of_lookup {raw : Value} (h : s.raws.lookup key = some raw) :
    key ∈ source.knownKeys s :=
  List.mem_append_right _ (List.mem_map_of_mem (mem_of_lookup h))

/-- What is kept when a document is loaded is kept when the graph is visited. -/
theorem visit_keeps {D : Discipline Error Store}
    (hrawAt : ∀ key s, D.inv s → D.Runs (source.rawAt key) s fun _ _ => True)
    (hfault : ∀ e s, D.inv s → D.fault e s) (hs : D.inv s) :
    D.Runs (source.visit free stack done key) s fun _ _ => True := by
  induction hlength : free.length using Nat.strong_induction_on
    generalizing free stack done key s with
  | _ n ih =>
    subst hlength
    rw [visit]
    split
    · exact .pure hs trivial
    · split
      · next hfree =>
        refine (hrawAt key s hs).bind fun raw s₁ hs₁ _ _ => ?_
        have hchildren : D.Runs (ofExcept (source.children key raw)) s₁ fun _ _ => True := by
          cases source.children key raw with
          | ok children => exact .pure hs₁ trivial
          | error e => exact .throw hs₁ (hfault e s₁ hs₁)
        refine hchildren.bind fun children s₂ hs₂ _ _ => ?_
        have hfold : D.Runs (children.foldlM (fun done child =>
            source.visit (without key free) (stack ++ [key]) done child) done) s₂ fun _ _ => True :=
          Discipline.Runs.foldlM (I := fun _ _ _ => True) hs₂ trivial
            fun _ child done s' _ hs' _ _ => ih _ (length_without_lt hfree) hs' rfl
        exact hfold.bind fun done s₃ hs₃ _ _ => .pure hs₃ trivial
      · split
        · exact .throw hs (hfault _ s hs)
        · have hload : D.Runs (discard (source.rawAt key)) s fun _ _ => True :=
            (hrawAt key s hs).map fun _ _ _ _ _ => trivial
          exact hload.map fun _ _ _ _ _ => trivial

/-- Loading raw documents keeps those that are there and touches no interface. -/
def loading (serves : String → Value → Prop) : Discipline Error Store where
  inv s := ∀ key raw, s.raws.lookup key = some raw → serves key raw
  le s s' := Extends s.raws s'.raws ∧ s'.resolved = s.resolved
  fault _ _ := True
  refl _ := ⟨fun _ _ h => h, rfl⟩
  trans h h' := ⟨fun key raw hraw => h'.1 key raw (h.1 key raw hraw), h'.2.trans h.2⟩

section Loading

variable {serves : String → Value → Prop}
  (hloads : ∀ {key raw}, source.loader.load key = .ok raw → serves key raw)
  (hs : (loading serves).inv s)

include hs

theorem ofExcept_runs {α : Type} {x : Except Error α} :
    (loading serves).Runs (ofExcept x) s fun a s' => x = .ok a ∧ s' = s := by
  cases x with
  | ok a => exact .pure hs ⟨rfl, rfl⟩
  | error e => exact .throw hs trivial

include hloads

theorem rawAt_runs : (loading serves).Runs (source.rawAt key) s fun raw s' =>
    s'.raws.lookup key = some raw := by
  unfold rawAt
  refine .afterGet ?_
  split
  · next raw hraw => exact .pure hs hraw
  · next hnone =>
    split
    · next raw hload =>
      have hextends : Extends s.raws (putEntry key raw s.raws) :=
        fun k r hr => lookup_putEntry_of_some hnone hr
      have hput : ∀ k r, (putEntry key raw s.raws).lookup k = some r → serves k r :=
        fun k r hr => forall_lookup_putEntry hs (hloads hload) hr
      exact .afterModify hput ⟨hextends, rfl⟩ (.pure hput lookup_putEntry_self)
    · exact .afterModify hs ((loading serves).refl s) (.throw hs trivial)

theorem visit_runs :
    (loading serves).Runs (source.visit free stack done key) s fun _ _ => True := by
  refine visit_keeps (fun key s hs => ?_) (fun _ _ _ => trivial) hs
  exact (rawAt_runs hloads hs).imp fun _ _ _ _ _ => trivial

theorem checkGraph_runs : (loading serves).Runs (source.checkGraph keys key) s fun _ _ => True :=
  (visit_runs hloads hs).map fun _ _ _ _ _ => trivial

end Loading

section Growth

variable {m : Meaning} {name : String} (h : m.Respects source.loader) (hs : s.Sound m)

include h hs

/-- Loading keeps a sound store sound. -/
theorem growth_of_loading {α : Type} {x : Storing α} {Q : α → Store → Prop}
    (hx : (loading m.serves).Runs x s Q) :
    (growth m free).Runs x s fun a s' => s'.resolved = s.resolved ∧ Q a s' := by
  have hextends : ∀ {s' : Store}, s'.resolved = s.resolved → Extends s.resolved s'.resolved := by
    intro s' heq key i hi
    rw [heq]
    exact hi
  have hweak : (growth m free).Runs x s fun a s' => (loading m.serves).le s s' ∧ Q a s' := by
    refine hx.weaken (fun s' hs' hle => ⟨hs', fun key i hi => ?_⟩) (fun s' hle => ?_)
      fun _ _ _ _ => trivial
    · rw [hle.2] at hi
      exact Store.Holds.grow h hle.1 (hextends hle.2) (hs.resolved key i hi)
    · exact ⟨hle.1, hextends hle.2, fun key _ => by rw [hle.2]⟩
  exact hweak.imp fun a s' _ _ hQ => ⟨hQ.1.2, hQ.2⟩

/-- Asking for an interface keeps a sound store sound, leaves the documents that are being resolved
alone, and gives what the store holds then. -/
theorem interfaceAt_runs :
    (growth m free).Runs (source.interfaceAt keys free key) s fun i s' =>
      s'.resolved.lookup key = some i := by
  induction hlength : free.length using Nat.strong_induction_on generalizing free key s with
  | _ n ih =>
    subst hlength
    rw [interfaceAt]
    refine (growth_of_loading h hs (checkGraph_runs h.loads hs.raws)).bind
      fun _ s₁ hs₁ _ _ => .afterGet ?_
    split
    · next i hi => exact .pure hs₁ hi
    · next hnone =>
      split
      · next hfree =>
        refine (growth_of_loading h hs₁ (rawAt_runs h.loads hs₁.raws)).bind fun raw s₂ hs₂ _ hraw => ?_
        obtain ⟨hsame, hraw⟩ := hraw
        have hlibrary : ∀ l key' s, some (Library.mk source.loader.resolveKey
              fun key' => source.interfaceAt keys (without key free) key') = some l →
            s.Sound m → (growth m (without key free)).Runs (l.interfaceAt key') s
              fun i s' => s'.resolved.lookup key' = some i := by
          intro l key' s hl hs
          cases hl
          exact ih _ (length_without_lt hfree) hs rfl
        have hresolve : (growth m (without key free)).Runs
            (resolveDocument source.rules (some key) (some ⟨source.loader.resolveKey,
              fun key' => source.interfaceAt keys (without key free) key'⟩) raw) s₂ _ :=
          h.resolveDocument_runs hs₂ (fun k hk => by cases hk; exact hraw)
            (fun l hl => by cases hl; rfl) (fun hl => by cases hl) hlibrary
        have hwiden : (growth m free).Runs (resolveDocument source.rules (some key)
            (some ⟨source.loader.resolveKey,
              fun key' => source.interfaceAt keys (without key free) key'⟩) raw) s₂ _ :=
          hresolve.weaken (fun _ hs _ => hs)
            (fun _ hle => hle.mono fun k hk => (mem_without.1 hk).1) fun _ _ _ _ => trivial
        refine hwiden.bind fun i s₃ hs₃ _ hi => ?_
        obtain ⟨hle, externals, hstands⟩ := hi
        have hnew : s₃.resolved.lookup key = none := by
          rw [hle.others key fun hmem => (mem_without.1 hmem).2 rfl, hsame, hnone]
        have hput := hs₃.put h hnew ⟨raw, externals, hle.raws key raw hraw, hstands⟩
        have hgrows : Grows free s₃ { s₃ with resolved := putEntry key i s₃.resolved } := by
          refine ⟨fun _ _ h => h, fun k j hj => lookup_putEntry_of_some hnew hj, fun k hk => ?_⟩
          refine lookup_putEntry_of_ne ?_
          rintro rfl
          exact hk hfree
        exact .afterModify hput hgrows (.pure hput lookup_putEntry_self)
      · exact .throw hs₁ trivial

theorem raw_runs : (growth m []).Runs (source.raw name) s fun _ _ => True := by
  have hraw : (loading m.serves).Runs (source.raw name) s fun _ _ => True := by
    refine (ofExcept_runs hs.raws).bind fun key s₁ hs₁ _ _ => ?_
    exact (rawAt_runs h.loads hs₁).imp fun _ _ _ _ _ => trivial
  exact (growth_of_loading h hs hraw).imp fun _ _ _ _ _ => trivial

/-- The interface of a name is in the store under the key of the name. -/
theorem interface_runs :
    (growth m (source.knownKeys s)).Runs (source.interface name) s fun i s' =>
      ∃ key, source.loader.resolveKey none name = .ok key ∧ s'.resolved.lookup key = some i := by
  unfold interface
  refine (growth_of_loading h hs (ofExcept_runs hs.raws)).bind fun key s₁ hs₁ _ hkey => .afterGet ?_
  obtain ⟨-, hkey, rfl⟩ := hkey
  exact (interfaceAt_runs h hs₁).imp fun i s₂ _ _ hi => ⟨key, hkey, hi⟩

end Growth

end Source

/-- A resolver keeps a sound store sound, and the interface of a raw document stands for it. -/
theorem Resolver.resolve_runs {m : Store.Meaning} {resolver : Resolver} {raw : Value}
    {loader : Loader} {s : Store} (h : m.Respects loader)
    (hloader : ∀ source, resolver.source = some source → source.loader = loader)
    (hs : s.Sound m) :
    ∃ free, (Store.growth m free).Runs (resolver.resolve raw) s fun i s' =>
      ∃ externals, i.StandsFor none raw externals (fun k j => s'.resolved.lookup k = some j)
        (m.stands none raw s' externals) := by
  have hraw : ∀ key, none = some key → s.raws.lookup key = some raw := fun _ hk => by cases hk
  -- The library is that of the store at the time of the call.
  have hruns : ∀ library free, (∀ l, library = some l → l.resolveKey = loader.resolveKey) →
      (∀ l key s, library = some l → s.Sound m → (Store.growth m free).Runs
        (l.interfaceAt key) s fun i s' => s'.resolved.lookup key = some i) →
      resolver.source.map (fun source => source.library s) = library →
      (Store.growth m free).Runs (resolver.resolve raw) s fun i s' =>
        ∃ externals, i.StandsFor none raw externals (fun k j => s'.resolved.lookup k = some j)
          (m.stands none raw s' externals) := by
    intro library free hkeys hlibrary hsame
    have hdocument : (Store.growth m free).Runs
        (resolveDocument resolver.rules none library raw) s _ :=
      h.resolveDocument_runs hs hraw hkeys (fun _ => rfl) hlibrary
    refine hdocument.congr ?_
    rw [← hsame]
    rfl
  cases hsource : resolver.source with
  | none =>
    exact ⟨[], hruns none [] (fun _ hl => by cases hl) (fun _ _ _ hl => by cases hl)
      (by rw [hsource]; rfl)⟩
  | some source =>
    have hsame := hloader source hsource
    refine ⟨source.knownKeys s, hruns (some (source.library s)) _ ?_ ?_ (by rw [hsource]; rfl)⟩
    · intro l hl
      cases hl
      exact congrArg Loader.resolveKey hsame
    · intro l key s' hl hs'
      cases hl
      exact Source.interfaceAt_runs (hsame ▸ h) hs'

/-! ## Histories -/

/-- The stores that operations lead to which use allowed sources. -/
inductive Store.Reachable (allowed : Source → Prop) : Store → Prop where
  /-- No operation yet. -/
  | empty : Reachable allowed .empty
  /-- A raw document is asked for. -/
  | raw {s : Store} {source : Source} (name : String) (hsource : allowed source)
      (hs : Reachable allowed s) : Reachable allowed (stateAfter (source.raw name) s)
  /-- An interface is asked for. -/
  | interface {s : Store} {source : Source} (name : String) (hsource : allowed source)
      (hs : Reachable allowed s) : Reachable allowed (stateAfter (source.interface name) s)
  /-- A raw document is resolved. -/
  | resolve {s : Store} {resolver : Resolver} (raw : Value)
      (hsource : ∀ source, resolver.source = some source → allowed source)
      (hs : Reachable allowed s) : Reachable allowed (stateAfter (resolver.resolve raw) s)

/-- Every store that operations lead to is sound. -/
theorem Store.Reachable.sound {allowed : Source → Prop} {m : Store.Meaning} {s : Store}
    (hallowed : ∀ source, allowed source → m.Respects source.loader)
    (hsome : ∃ loader, m.Respects loader) (hs : s.Reachable allowed) : s.Sound m := by
  induction hs with
  | empty =>
    refine ⟨fun key raw hraw => ?_, fun key i hi => ?_⟩
    · cases hraw
    · cases hi
  | raw name hsource _ ih =>
    exact (Source.raw_runs (hallowed _ hsource) ih).inv_stateAfter
  | interface name hsource _ ih =>
    exact (Source.interface_runs (hallowed _ hsource) ih).inv_stateAfter
  | @resolve s resolver raw hsource _ ih =>
    have hloader : ∃ loader, m.Respects loader ∧
        ∀ source, resolver.source = some source → source.loader = loader := by
      cases hresolver : resolver.source with
      | none =>
        obtain ⟨loader, h⟩ := hsome
        exact ⟨loader, h, fun source hsource => by cases hsource⟩
      | some source =>
        refine ⟨source.loader, hallowed source (hsource source hresolver), fun source' h => ?_⟩
        cases h
        rfl
    obtain ⟨loader, h, hloader⟩ := hloader
    obtain ⟨free, hruns⟩ := Resolver.resolve_runs h hloader ih
    exact hruns.inv_stateAfter

/-- What a resolver returns stands for the raw document that it was given or for one that is served. -/
theorem Resolver.returned {allowed : Source → Prop} {m : Store.Meaning} {resolver : Resolver}
    {s s' : Store} {i : Interface} {given : Value → Prop}
    (hallowed : ∀ source, allowed source → m.Respects source.loader)
    (hsome : ∃ loader, m.Respects loader)
    (hresolver : ∀ source, resolver.source = some source → allowed source)
    (hs : s.Reachable allowed)
    (h : (∃ raw, given raw ∧ resolver.resolve raw s = .ok i s') ∨
      ∃ name, resolver.load name s = .ok i s') :
    s'.Sound m ∧ ∃ document raw externals, (given raw ∨ ∃ key, m.serves key raw) ∧
      i.StandsFor document raw externals (fun k j => s'.resolved.lookup k = some j)
        (m.stands document raw s' externals) := by
  have hsound := hs.sound hallowed hsome
  rcases h with ⟨raw, hraw, h⟩ | ⟨name, h⟩
  · have hloader : ∃ loader, m.Respects loader ∧
        ∀ source, resolver.source = some source → source.loader = loader := by
      cases hsource : resolver.source with
      | none =>
        obtain ⟨loader, hrespects⟩ := hsome
        exact ⟨loader, hrespects, fun source heq => by cases heq⟩
      | some source =>
        refine ⟨source.loader, hallowed source (hresolver source hsource), fun other heq => ?_⟩
        cases heq
        rfl
    obtain ⟨loader, hrespects, hloader⟩ := hloader
    obtain ⟨free, hruns⟩ := @Resolver.resolve_runs m resolver raw loader s hrespects hloader hsound
    obtain ⟨hs', -, externals, hstands⟩ := hruns.ok h
    exact ⟨hs', none, raw, externals, .inl hraw, hstands⟩
  · unfold load at h
    cases hsource : resolver.source with
    | none =>
      rw [hsource] at h
      cases h
    | some source =>
      rw [hsource] at h
      have hrespects := hallowed source (hresolver source hsource)
      obtain ⟨hs', -, key, -, hi⟩ := (Source.interface_runs hrespects hsound).ok h
      obtain ⟨raw, externals, hraw, hstands⟩ := hs'.resolved key i hi
      exact ⟨hs', some key, raw, externals, .inr ⟨key, hs'.raws key raw hraw⟩, hstands⟩

end ServiceContract
