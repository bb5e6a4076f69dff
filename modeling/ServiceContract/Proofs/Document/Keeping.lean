import Mathlib.Data.Finset.Card
import ServiceContract.Proofs.Document.Check
import ServiceContract.Proofs.Document.History

/-!
# What a document store keeps

Every attempt to load a document is accounted for: the raw documents are those that were loaded, and
none is asked for again once it was loaded. Every interface belongs to a complete document, and it was
resolved with the interfaces of the documents that its own leads to, all of which are in the store.
This is kept by every operation, whatever the source of documents may be that it uses, as long as all
sources find the same keys for names.
-/

namespace ServiceContract

open Json (Value)
open Relation (ReflTransGen TransGen)

namespace Store

variable {s s' : Store} {key : String} {raw : Value} {i : Interface}
  {resolveKey : (origin : Option String) → (raw : String) → Except Error String}

/-! ## Attempts -/

/-- The keys of the documents that were loaded, in the order in which they were. -/
def loadedKeys (s : Store) : List String := (s.attempts.filter Attempt.succeeded).map Attempt.key

/-- The raw documents are those that were loaded, and after a document was loaded it is not asked for
again. -/
structure Accounted (s : Store) : Prop where
  /-- The raw documents. -/
  raws : (s.raws.map Prod.fst).Perm s.loadedKeys
  /-- The attempts. -/
  once : s.attempts.Pairwise fun earlier later => earlier.succeeded → later.key ≠ earlier.key

theorem mem_loadedKeys : key ∈ s.loadedKeys ↔ ⟨key, true⟩ ∈ s.attempts := by
  unfold loadedKeys
  rw [List.mem_map]
  constructor
  · rintro ⟨⟨_, succeeded⟩, hmem, rfl⟩
    obtain ⟨hmem, rfl⟩ := List.mem_filter.1 hmem
    exact hmem
  · exact fun hmem => ⟨⟨key, true⟩, List.mem_filter.2 ⟨hmem, rfl⟩, rfl⟩

namespace Accounted

theorem lookup_eq_none (h : s.Accounted) : s.raws.lookup key = none ↔ ⟨key, true⟩ ∉ s.attempts := by
  rw [ServiceContract.lookup_eq_none, h.raws.mem_iff, mem_loadedKeys]

/-- No document was loaded twice. -/
theorem nodup (h : s.Accounted) : s.loadedKeys.Nodup := by
  unfold loadedKeys
  rw [List.nodup_iff_pairwise_ne, List.pairwise_map]
  refine (h.once.filter Attempt.succeeded).imp_of_mem fun hearlier _ hne heq => ?_
  exact hne (List.mem_filter.1 hearlier).2 heq.symm

theorem loadedCount_eq (h : s.Accounted) : s.loadedCount = s.loadedKeys.toFinset.card := by
  rw [List.toFinset_card_of_nodup h.nodup, ← h.raws.length_eq, List.length_map]
  rfl

/-- What is not there may be asked for. -/
theorem once_append {a : Attempt} (h : s.Accounted) (hnone : s.raws.lookup a.key = none) :
    (s.attempts ++ [a]).Pairwise fun earlier later => earlier.succeeded → later.key ≠ earlier.key := by
  refine List.pairwise_append.2 ⟨h.once, List.pairwise_singleton _ _, ?_⟩
  rintro ⟨earlier, succeeded⟩ hmem later hlater hsucceeded heq
  rw [List.mem_singleton.1 hlater] at heq
  dsimp only at hsucceeded heq
  rw [hsucceeded, ← heq] at hmem
  exact h.lookup_eq_none.1 hnone hmem

theorem load (h : s.Accounted) (hnone : s.raws.lookup key = none) :
    Accounted { s with
      raws := putEntry key raw s.raws
      attempts := s.attempts ++ [⟨key, true⟩] } where
  raws := by
    have hloaded : loadedKeys { s with
        raws := putEntry key raw s.raws
        attempts := s.attempts ++ [⟨key, true⟩] } = s.loadedKeys ++ [key] := by
      simp [loadedKeys]
    rw [hloaded, keys_putEntry]
    refine (perm_insertName (ServiceContract.lookup_eq_none.1 hnone)).trans ?_
    exact (h.raws.cons key).trans (List.perm_append_singleton key _).symm
  once := h.once_append hnone

theorem fail (h : s.Accounted) (hnone : s.raws.lookup key = none) :
    Accounted { s with attempts := s.attempts ++ [⟨key, false⟩] } where
  raws := by
    have hloaded : loadedKeys { s with attempts := s.attempts ++ [⟨key, false⟩] } = s.loadedKeys := by
      simp [loadedKeys]
    rw [hloaded]
    exact h.raws
  once := h.once_append hnone

end Accounted

/-! ## Interfaces -/

/-- The interface was resolved with interfaces of the store: those of the documents that its own leads
to. -/
structure LinkedBy (s : Store) (resolveKey : (origin : Option String) → (raw : String) →
    Except Error String) (key : String) (i : Interface) (externals : List (String × Interface)) :
    Prop where
  /-- It has their registries. -/
  registry : i.registry.externals = mergeExternals externals
  /-- They are in the store, and its document leads to theirs. -/
  there : ∀ k j, (k, j) ∈ externals →
    (s.documents resolveKey).Follows key k ∧ s.resolved.lookup k = some j
  /-- There is one for every document that its document leads to. -/
  all : ∀ k, (s.documents resolveKey).Follows key k → ∃ j, (k, j) ∈ externals

/-- What is kept, if sources find keys for names in this way. -/
structure Kept (s : Store) (resolveKey : (origin : Option String) → (raw : String) →
    Except Error String) : Prop where
  /-- The attempts are accounted for. -/
  accounted : s.Accounted
  /-- Interfaces belong to complete documents. -/
  complete : ∀ key i, s.resolved.lookup key = some i → (s.documents resolveKey).Complete key
  /-- Interfaces are linked to those of other documents. -/
  linked : ∀ key i, s.resolved.lookup key = some i →
    ∃ externals, s.LinkedBy resolveKey key i externals

theorem LinkedBy.grow {externals : List (String × Interface)} (hraws : Extends s.raws s'.raws)
    (hresolved : Extends s.resolved s'.resolved) (hraw : (s.documents resolveKey).load key = .ok raw)
    (h : s.LinkedBy resolveKey key i externals) : s'.LinkedBy resolveKey key i externals where
  registry := h.registry
  there k j hj := by
    obtain ⟨hfollows, hthere⟩ := h.there k j hj
    exact ⟨hfollows.mono (documents_within hraws), hresolved k j hthere⟩
  all k hfollows := h.all k (hfollows.of_within (documents_within hraws) hraw)

theorem Kept.empty : Store.empty.Kept resolveKey where
  accounted := ⟨.refl _, .nil⟩
  complete _ _ h := by cases h
  linked _ _ h := by cases h

/-- Loading documents keeps everything if it keeps account of the attempts. -/
theorem Kept.load (h : s.Kept resolveKey) (haccounted : s'.Accounted)
    (hraws : Extends s.raws s'.raws) (hresolved : s'.resolved = s.resolved) :
    s'.Kept resolveKey where
  accounted := haccounted
  complete key i hi := by
    rw [hresolved] at hi
    exact (h.complete key i hi).mono (documents_within hraws)
  linked key i hi := by
    rw [hresolved] at hi
    obtain ⟨raw, hraw⟩ := (h.complete key i hi).load
    obtain ⟨externals, hlinked⟩ := h.linked key i hi
    have hextends : Extends s.resolved s'.resolved := fun _ _ hj => hresolved ▸ hj
    exact ⟨externals, hlinked.grow hraws hextends hraw⟩

/-- So does an interface of a complete document that is linked. -/
theorem Kept.put {externals : List (String × Interface)} (h : s.Kept resolveKey)
    (hnew : s.resolved.lookup key = none) (hcomplete : (s.documents resolveKey).Complete key)
    (hlinked : s.LinkedBy resolveKey key i externals) :
    Kept { s with resolved := putEntry key i s.resolved } resolveKey where
  accounted := ⟨h.accounted.raws, h.accounted.once⟩
  complete k j hj := forall_lookup_putEntry
    (P := fun k _ => (s.documents resolveKey).Complete k) h.complete hcomplete hj
  linked k j hj := by
    have hraws : Extends s.raws s.raws := fun _ _ hr => hr
    have hextends : Extends s.resolved (putEntry key i s.resolved) :=
      fun _ _ hi => lookup_putEntry_of_some hnew hi
    refine forall_lookup_putEntry (P := fun k j => ∃ externals,
      LinkedBy { s with resolved := putEntry key i s.resolved } resolveKey k j externals) ?_ ?_ hj
    · intro k j hj
      obtain ⟨raw, hraw⟩ := (h.complete k j hj).load
      obtain ⟨externals, hlinked⟩ := h.linked k j hj
      exact ⟨externals, hlinked.grow hraws hextends hraw⟩
    · obtain ⟨raw, hraw⟩ := hcomplete.load
      exact ⟨externals, hlinked.grow hraws hextends hraw⟩

/-- Operations keep what is kept, and the documents under known keys, while documents that are not free
are being resolved. -/
def keeping (resolveKey : (origin : Option String) → (raw : String) → Except Error String)
    (known free : List String) : Discipline Error Store where
  inv s := s.Kept resolveKey ∧ ∀ key raw, s.raws.lookup key = some raw → key ∈ known
  le := Grows free
  fault _ _ := True
  refl _ := .refl
  trans := .trans

end Store

namespace Source

open Store (Kept keeping Grows Accounted)

variable {source : Source} {s : Store} {key root : String} {raw : Value}
  {known free stack done : List String}

/-! ## Loading -/

/-- The attempts are accounted for. -/
def accounting : Discipline Error Store where
  inv := Accounted
  le _ _ := True
  fault _ _ := True
  refl _ := trivial
  trans _ _ := trivial

theorem rawAt_accounts (hs : s.Accounted) : accounting.Runs (source.rawAt key) s fun _ _ => True := by
  unfold Discipline.Runs
  cases hraw : s.raws.lookup key with
  | some raw =>
    rw [rawAt_of_lookup hraw]
    exact ⟨hs, trivial, trivial⟩
  | none =>
    cases hload : source.loader.load key with
    | ok raw =>
      rw [rawAt_of_load hraw hload]
      exact ⟨hs.load hraw, trivial, trivial⟩
    | error e =>
      rw [rawAt_of_fail hraw hload]
      exact ⟨hs.fail hraw, trivial, trivial⟩

theorem checkGraph_accounts (hs : s.Accounted) :
    accounting.Runs (source.checkGraph known key) s fun _ _ => True := by
  have hvisit : accounting.Runs (source.visit known [] [] key) s fun _ _ => True :=
    visit_keeps (fun _ _ hs => rawAt_accounts hs) (fun _ _ _ => trivial) hs
  exact hvisit.map fun _ _ _ _ _ => trivial

/-- A computation that only loads documents, and keeps account of it, keeps everything. -/
theorem keeping_of_loading {α : Type} {x : Storing α} {Q : α → Store → Prop}
    (hs : (keeping source.loader.resolveKey known free).inv s)
    (hchecking : (checking source known root).Runs x s Q)
    (hloading : (loading fun _ _ => True).Runs x s fun _ _ => True)
    (haccounting : accounting.Runs x s fun _ _ => True) :
    (keeping source.loader.resolveKey known free).Runs x s fun a s' =>
      s'.resolved = s.resolved ∧ Q a s' := by
  refine (((hchecking.and hloading).and haccounting).weaken ?_ ?_ fun _ _ _ _ => trivial).imp ?_
  · rintro s' ⟨⟨hknown, -⟩, haccounted⟩ ⟨⟨hraws, -, hresolved⟩, -⟩
    exact ⟨hs.1.load haccounted hraws hresolved, hknown⟩
  · rintro s' ⟨⟨hraws, -, hresolved⟩, -⟩
    exact ⟨hraws, fun _ _ hi => hresolved ▸ hi, fun _ _ => by rw [hresolved]⟩
  · rintro a s' - - ⟨⟨⟨-, -, hresolved⟩, -⟩, ⟨hQ, -⟩, -⟩
    exact ⟨hresolved, hQ⟩

section Loading

variable (hloader : ∀ k ∈ source.loader.keys, k ∈ known)
  (hs : (keeping source.loader.resolveKey known free).inv s)

include hloader hs

theorem rawAt_keeps : (keeping source.loader.resolveKey known free).Runs (source.rawAt key) s
    fun raw s' => s'.resolved = s.resolved ∧ (source.documentsOf s').load key = .ok raw := by
  have hloading : (loading fun _ _ => True).Runs (source.rawAt key) s fun _ _ => True :=
    (rawAt_runs (fun _ => trivial) fun _ _ _ => trivial).imp fun _ _ _ _ _ => trivial
  have hchecking : (checking source known key).Runs (source.rawAt key) s _ :=
    rawAt_checks hloader hs.2 .refl
  exact (keeping_of_loading hs hchecking hloading (rawAt_accounts hs.1.accounted)).imp
    fun _ _ _ _ hQ => ⟨hQ.1, hQ.2.1⟩

theorem checkGraph_keeps : (keeping source.loader.resolveKey known free).Runs
    (source.checkGraph known key) s fun _ s' =>
      s'.resolved = s.resolved ∧ (source.documentsOf s').Complete key :=
  keeping_of_loading hs (checkGraph_checks hloader hs.2)
    (checkGraph_runs (fun _ => trivial) fun _ _ _ => trivial)
    (checkGraph_accounts hs.1.accounted)

end Loading

/-! ## Resolution -/

/-- The interfaces are in the store and belong to the documents that this one names, all of them. -/
structure Named (document : Option String) (library : Option (Library Store)) (raw : Value)
    (externals : List (String × Interface)) (s : Store) : Prop where
  /-- They are in the store. -/
  there : ∀ k j, (k, j) ∈ externals → some k ≠ document ∧ s.resolved.lookup k = some j ∧
    ∃ l name, library = some l ∧ RawDocument.Names (fun _ => True) raw name ∧
      l.resolveKey document name = .ok k
  /-- There is one for every document that is named. -/
  all : ∀ l name k, library = some l → RawDocument.Names (fun _ => True) raw name →
    l.resolveKey document name = .ok k → some k ≠ document → ∃ j, (k, j) ∈ externals

/-- Resolving a document keeps what its library keeps, and asks for the documents that it names. -/
theorem resolveDocument_keeps {rules : IdentifierRules} {document : Option String}
    {library : Option (Library Store)} {D : Discipline Error Store}
    (hle : ∀ {s s'}, D.le s s' → Extends s.resolved s'.resolved) (hfault : ∀ e s, D.fault e s)
    (hs : D.inv s) (hlibrary : ∀ l key s, library = some l → D.inv s →
      D.Runs (l.interfaceAt key) s fun i s' => s'.resolved.lookup key = some i) :
    D.Runs (resolveDocument rules document library raw) s fun i s' =>
      ∃ externals, i.registry.externals = mergeExternals externals ∧
        Named document library raw externals s' := by
  let link (s : Store) (k : String) (j : Interface) : Prop :=
    s.resolved.lookup k = some j ∧ ∃ l name, library = some l ∧
      RawDocument.Names (fun _ => True) raw name ∧ l.resolveKey document name = .ok k
  let stands (_ : Store) (externals : List (String × Interface)) (raw : Value) (_ : Schema) : Prop :=
    ∀ l, library = some l → ∀ text, RawSchema.Follows (fun _ => True) raw text →
      Reaches l.resolveKey document (fun k => (externals.lookup k).isSome) text
  have hresolves : ∀ outline : Outline, outline.IsOf raw →
      Resolves D ⟨document, outline.types.map Header.name, library⟩ outline.fragments
        (RawDocument.Names (fun _ => True) raw) link stands := by
    intro outline hof
    exact
      { fault := fun e s _ _ => hfault e s
        key := fun _ _ e s _ _ _ => hfault e s
        library := fun l name k s hl hname hk _ hs =>
          (hlibrary l k s hl hs).imp fun _ _ _ _ hj => ⟨hj, l, name, hl, hname, hk⟩
        namesOnly := namesOnly_of_lookup_fragments hof fun _ hname => hname
        linkStable := fun hstep hlink => ⟨hle hstep _ _ hlink.1, hlink.2⟩
        standsStable := by
          intro s s' externals externals' raw schema _ hextends hstands l hl text hfollows name hname
          obtain ⟨k, hk, hthere⟩ := hstands l hl text hfollows name hname
          refine ⟨k, hk, fun hother => ?_⟩
          obtain ⟨j, hj⟩ := Option.isSome_iff_exists.1 (hthere hother)
          exact Option.isSome_iff_exists.2 ⟨j, hextends k j hj⟩
        form := by
          intro s externals raw schema _ _ hform _ l hl text hfollows
          refine hform.of_follows (fun href => ?_) (fun hpart => hpart l hl) hfollows
          refine href.reaches hl fun k j hj => ?_
          rw [List.lookup_isSome_iff]
          exact ⟨(k, j), hj, beq_self_eq_true k⟩ }
  have hruns : D.Runs (resolveDocument rules document library raw) s _ :=
    resolveDocument_runs hs (fun e _ => hfault e s) hresolves
  refine hruns.imp fun i s' _ _ hi => ?_
  obtain ⟨externals, hstands⟩ := hi
  refine ⟨externals, hstands.registry, hstands.linked, ?_⟩
  rintro l name k hl ⟨fragment, rawSchema, hschema, -, text, hfollows, hname⟩ hk hother
  obtain ⟨schema, hreaches⟩ := hstands.raws hschema
  obtain ⟨k', hk', hthere⟩ := hreaches l hl text hfollows name hname
  cases hk.symm.trans hk'
  obtain ⟨j, hj⟩ := Option.isSome_iff_exists.1 (hthere hother)
  exact ⟨j, mem_of_lookup hj⟩

/-- The interfaces that a document was resolved with are those of the documents that it leads to. -/
theorem Named.linkedBy {ask : String → Storing Interface} {externals : List (String × Interface)}
    {i : Interface} (h : Named (some key) (some ⟨source.loader.resolveKey, ask⟩) raw externals s)
    (hraw : (source.documentsOf s).load key = .ok raw)
    (hregistry : i.registry.externals = mergeExternals externals) :
    s.LinkedBy source.loader.resolveKey key i externals where
  registry := hregistry
  there k j hj := by
    obtain ⟨hne, hthere, l, name, hl, hname, hk⟩ := h.there k j hj
    cases hl
    exact ⟨⟨raw, name, hraw, hname, hk, fun heq => hne (congrArg some heq)⟩, hthere⟩
  all k hfollows := by
    obtain ⟨raw', name, hraw', hname, hk, hne⟩ := hfollows
    cases hraw.symm.trans hraw'
    exact h.all _ name k rfl hname hk fun heq => hne (Option.some.inj heq)

/-- The interface under a key, resolved whatever the store holds under it. -/
def resolveAt (source : Source) (keys free : List String) (key : String) : Storing Interface := do
  let raw ← source.rawAt key
  resolveDocument source.rules (some key)
    (some (source.libraryAround keys (without key free))) raw

/-- While a document is being resolved its key is not free, and so nothing is put in under it. -/
theorem resolveAt_keeps (hloader : ∀ k ∈ source.loader.keys, k ∈ known)
    (hs : (keeping source.loader.resolveKey known (without key free)).inv s)
    (hlibrary : ∀ k s, (keeping source.loader.resolveKey known (without key free)).inv s →
      (keeping source.loader.resolveKey known (without key free)).Runs
        (source.interfaceAt known (without key free) k) s fun i s' =>
          s'.resolved.lookup k = some i) :
    (keeping source.loader.resolveKey known (without key free)).Runs
      (source.resolveAt known free key) s fun i s' =>
        ∃ externals, s'.LinkedBy source.loader.resolveKey key i externals := by
  refine (rawAt_keeps hloader hs).bind fun raw s₁ hs₁ _ hraw => ?_
  have hresolve : (keeping source.loader.resolveKey known (without key free)).Runs
      (resolveDocument source.rules (some key) (some (source.libraryAround known
        (without key free))) raw) s₁ fun i s' =>
      ∃ externals, i.registry.externals = mergeExternals externals ∧ Named (some key)
        (some (source.libraryAround known (without key free))) raw externals s' := by
    refine resolveDocument_keeps (fun hle => hle.resolved) (fun _ _ => trivial) hs₁ ?_
    intro l k s hl hs
    cases hl
    exact hlibrary k s hs
  refine hresolve.imp fun i s₂ _ hle hi => ?_
  obtain ⟨externals, hregistry, hnamed⟩ := hi
  exact ⟨externals, hnamed.linkedBy
    ((Store.documents_within hle.raws).load key raw hraw.2) hregistry⟩

/-- Asking for an interface resolves it unless it is there. -/
theorem interfaceAt_eq {keys : List String} : source.interfaceAt keys free key = (do
    source.checkGraph keys key
    match (← get).resolved.lookup key with
    | some interface => return interface
    | none =>
      if key ∈ free then
        let interface ← source.resolveAt keys free key
        modify fun store => { store with resolved := putEntry key interface store.resolved }
        return interface
      else throw (.stalled key)) := by
  have hresolve : ((do
      let interface ← source.resolveAt keys free key
      modify fun store => { store with resolved := putEntry key interface store.resolved }
      return interface) : Storing Interface) = do
      let raw ← source.rawAt key
      let interface ← resolveDocument source.rules (some key)
        (some (source.libraryAround keys (without key free))) raw
      modify fun store => { store with resolved := putEntry key interface store.resolved }
      return interface := bind_assoc ..
  rw [hresolve, interfaceAt]
  rfl

/-- Asking for an interface keeps everything, and the interface is in the store then. -/
theorem interfaceAt_keeps (hloader : ∀ k ∈ source.loader.keys, k ∈ known)
    (hs : (keeping source.loader.resolveKey known free).inv s) :
    (keeping source.loader.resolveKey known free).Runs (source.interfaceAt known free key) s
      fun i s' => s'.resolved.lookup key = some i := by
  induction hlength : free.length using Nat.strong_induction_on generalizing free key s with
  | _ n ih =>
    subst hlength
    rw [interfaceAt_eq]
    refine (checkGraph_keeps hloader hs).bind fun _ s₁ hs₁ _ hcheck => .afterGet ?_
    obtain ⟨-, hcomplete⟩ := hcheck
    split
    · next i hi => exact .pure hs₁ hi
    · next hnone =>
      split
      · next hfree =>
        have hresolve : (keeping source.loader.resolveKey known (without key free)).Runs
            (source.resolveAt known free key) s₁ _ :=
          resolveAt_keeps hloader hs₁ fun k s hs => ih _ (length_without_lt hfree) hs rfl
        have hwiden : (keeping source.loader.resolveKey known free).Runs
            (source.resolveAt known free key) s₁ _ :=
          hresolve.weaken (fun _ hs _ => hs)
            (fun _ hle => hle.mono fun k hk => (mem_without.1 hk).1) fun _ _ _ _ => trivial
        refine hwiden.bind fun i s₂ hs₂ _ hi => ?_
        obtain ⟨hle, externals, hlinked⟩ := hi
        have hnew : s₂.resolved.lookup key = none := by
          rw [hle.others key fun hmem => (mem_without.1 hmem).2 rfl, hnone]
        have hput := hs₂.1.put hnew (hcomplete.mono (Store.documents_within hle.raws)) hlinked
        have hgrows : Grows free s₂ { s₂ with resolved := putEntry key i s₂.resolved } := by
          refine ⟨fun _ _ h => h, fun k j hj => lookup_putEntry_of_some hnew hj, fun k hk => ?_⟩
          refine lookup_putEntry_of_ne ?_
          rintro rfl
          exact hk hfree
        exact .afterModify ⟨hput, hs₂.2⟩ hgrows (.pure ⟨hput, hs₂.2⟩ lookup_putEntry_self)
      · exact .throw hs₁ trivial

/-! ## Operations -/

theorem keeping_inv (hs : s.Kept source.loader.resolveKey) :
    (keeping source.loader.resolveKey (source.knownKeys s) free).inv s :=
  ⟨hs, fun _ _ hraw => mem_knownKeys_of_lookup hraw⟩

theorem ofExcept_keeps {α : Type} {x : Except Error α}
    {resolveKey : (origin : Option String) → (raw : String) → Except Error String}
    (hs : (keeping resolveKey known free).inv s) :
    (keeping resolveKey known free).Runs (ofExcept x) s fun a s' => x = .ok a ∧ s' = s := by
  cases x with
  | ok a => exact .pure hs ⟨rfl, rfl⟩
  | error e => exact .throw hs trivial

theorem raw_keeps {name : String} (hs : s.Kept source.loader.resolveKey) :
    (keeping source.loader.resolveKey (source.knownKeys s) []).Runs (source.raw name) s
      fun _ _ => True := by
  refine (ofExcept_keeps (keeping_inv hs)).bind fun key s₁ hs₁ _ _ => ?_
  exact (rawAt_keeps mem_knownKeys_of_mem_keys hs₁).imp fun _ _ _ _ _ => trivial

theorem interface_keeps {name : String} (hs : s.Kept source.loader.resolveKey) :
    (keeping source.loader.resolveKey (source.knownKeys s) (source.knownKeys s)).Runs
      (source.interface name) s fun i s' =>
        ∃ key, source.loader.resolveKey none name = .ok key ∧ s'.resolved.lookup key = some i := by
  unfold interface
  refine (ofExcept_keeps (keeping_inv hs)).bind fun key s₁ hs₁ _ hkey => .afterGet ?_
  obtain ⟨hkey, rfl⟩ := hkey
  exact (interfaceAt_keeps mem_knownKeys_of_mem_keys hs₁).imp
    fun i _ _ _ hi => ⟨key, hkey, hi⟩

end Source

/-- So does a raw document that is resolved, and it asks for the documents that it names. -/
theorem Resolver.resolve_keeps {resolver : Resolver} {raw : Value} {s : Store}
    {resolveKey : (origin : Option String) → (raw : String) → Except Error String}
    (hsource : ∀ source, resolver.source = some source → source.loader.resolveKey = resolveKey)
    (hs : s.Kept resolveKey) :
    ∃ known free, (Store.keeping resolveKey known free).Runs (resolver.resolve raw) s
      fun i s' => ∃ externals, i.registry.externals = mergeExternals externals ∧
        Source.Named none (resolver.source.map fun source => source.library s) raw externals s' := by
  have hruns : ∀ library known free, (Store.keeping resolveKey known free).inv s →
      (∀ l key s, library = some l → (Store.keeping resolveKey known free).inv s →
        (Store.keeping resolveKey known free).Runs (l.interfaceAt key) s fun i s' =>
          s'.resolved.lookup key = some i) →
      resolver.source.map (fun source => source.library s) = library →
      (Store.keeping resolveKey known free).Runs (resolver.resolve raw) s fun i s' =>
        ∃ externals, i.registry.externals = mergeExternals externals ∧
          Source.Named none library raw externals s' := by
    intro library known free hs hlibrary hsame
    have hdocument : (Store.keeping resolveKey known free).Runs
        (resolveDocument resolver.rules none library raw) s _ :=
      Source.resolveDocument_keeps (fun hle => hle.resolved) (fun _ _ => trivial) hs hlibrary
    refine hdocument.congr ?_
    rw [← hsame]
    rfl
  cases hresolver : resolver.source with
  | none =>
    have hinv : (Store.keeping resolveKey (s.raws.map Prod.fst) []).inv s :=
      ⟨hs, fun _ _ hraw => List.mem_map_of_mem (mem_of_lookup hraw)⟩
    exact ⟨_, _, hruns none _ _ hinv (fun _ _ _ hl => by cases hl) (by rw [hresolver]; rfl)⟩
  | some source =>
    obtain rfl := hsource source hresolver
    refine ⟨_, source.knownKeys s, hruns (some (source.library s)) _ _ (Source.keeping_inv hs) ?_
      (by rw [hresolver]; rfl)⟩
    intro l key s' hl hs'
    cases hl
    exact Source.interfaceAt_keeps Source.mem_knownKeys_of_mem_keys hs'

/-! ## Histories -/

namespace Store

/-- One operation that uses an allowed source leads from the first store to the second one. -/
inductive Step (allowed : Source → Prop) (s : Store) : Store → Prop where
  /-- A raw document is asked for. -/
  | raw {source : Source} (name : String) (hsource : allowed source) :
      Step allowed s (stateAfter (source.raw name) s)
  /-- An interface is asked for. -/
  | interface {source : Source} (name : String) (hsource : allowed source) :
      Step allowed s (stateAfter (source.interface name) s)
  /-- A raw document is resolved. -/
  | resolve {resolver : Resolver} (raw : Value)
      (hsource : ∀ source, resolver.source = some source → allowed source) :
      Step allowed s (stateAfter (resolver.resolve raw) s)

variable {s t : Store} {allowed : Source → Prop}
  {resolveKey : (origin : Option String) → (raw : String) → Except Error String}

/-- An operation keeps everything, and the documents and interfaces that are there. -/
theorem Step.keeps (hs : s.Kept resolveKey) (h : Step (·.loader.resolveKey = resolveKey) s t) :
    t.Kept resolveKey ∧ Extends s.raws t.raws ∧ Extends s.resolved t.resolved := by
  have hkept : ∀ {α : Type} {x : Storing α} {Q : α → Store → Prop} {known free : List String},
      (keeping resolveKey known free).Runs x s Q → (stateAfter x s).Kept resolveKey ∧
        Extends s.raws (stateAfter x s).raws ∧ Extends s.resolved (stateAfter x s).resolved :=
    fun hruns => ⟨hruns.inv_stateAfter.1, hruns.le_stateAfter.raws, hruns.le_stateAfter.resolved⟩
  cases h with
  | raw name hsource =>
    subst hsource
    exact hkept (Source.raw_keeps hs)
  | interface name hsource =>
    subst hsource
    exact hkept (Source.interface_keeps hs)
  | resolve raw hsource =>
    obtain ⟨known, free, hruns⟩ := Resolver.resolve_keeps hsource hs
    exact hkept hruns

/-- Everything is kept through all operations. -/
theorem Reachable.kept (hs : s.Reachable (·.loader.resolveKey = resolveKey)) : s.Kept resolveKey := by
  induction hs with
  | empty => exact .empty
  | raw name hsource _ ih => exact (Step.keeps ih (.raw name hsource)).1
  | interface name hsource _ ih => exact (Step.keeps ih (.interface name hsource)).1
  | resolve raw hsource _ ih => exact (Step.keeps ih (.resolve raw hsource)).1

/-- From operation to operation documents and interfaces are never lost. -/
theorem keeps_of_steps (hs : s.Kept resolveKey)
    (h : ReflTransGen (Step (·.loader.resolveKey = resolveKey)) s t) :
    t.Kept resolveKey ∧ Extends s.raws t.raws ∧ Extends s.resolved t.resolved := by
  induction h with
  | refl => exact ⟨hs, fun _ _ h => h, fun _ _ h => h⟩
  | tail _ hstep ih =>
    obtain ⟨hkept, hraws, hresolved⟩ := hstep.keeps ih.1
    exact ⟨hkept, fun k r hr => hraws k r (ih.2.1 k r hr),
      fun k j hj => hresolved k j (ih.2.2 k j hj)⟩

end Store

end ServiceContract
