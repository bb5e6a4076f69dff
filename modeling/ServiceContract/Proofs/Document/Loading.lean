import ServiceContract.Proofs.Document.Keeping

/-!
# Documents are loaded once

A raw document is loaded at most once with success, and it is asked for again until then. So is an
interface resolved at most once: when it is there, asking for it gives it again under every name with
its key, without any attempt to load a document; when it is not there, it is resolved from the start.
Nothing of this depends on how the sources fail, or on what they answer from one operation to the next.
-/

namespace ServiceContract

open Json (Value)
open Relation (ReflTransGen)

namespace Source

open Store (Kept keeping)

variable {source : Source} {s s' : Store} {name key : String} {raw : Value} {i : Interface} {e : Error}

/-! ## Raw documents -/

/-- How a raw document is asked for: one that is there is given, one that is not is loaded once more, and
it is there then unless this fails. -/
structure GivesRaw (source : Source) (name key : String) (s : Store) : Prop where
  /-- It is there. -/
  found : ∀ raw, s.raws.lookup key = some raw → source.raw name s = .ok raw s
  /-- It is loaded. -/
  loaded : ∀ raw, s.raws.lookup key = none → source.loader.load key = .ok raw →
    ∃ s', source.raw name s = .ok raw s' ∧ s'.raws.lookup key = some raw ∧
      s'.attempts = s.attempts ++ [⟨key, true⟩]
  /-- It cannot be loaded. -/
  failed : ∀ e, s.raws.lookup key = none → source.loader.load key = .error e →
    ∃ s', source.raw name s = .error e s' ∧ s'.raws.lookup key = none ∧
      s'.attempts = s.attempts ++ [⟨key, false⟩]

theorem raw_eq (hkey : source.loader.resolveKey none name = .ok key) :
    source.raw name s = source.rawAt key s := by
  unfold Source.raw
  rw [hkey]
  rfl

theorem givesRaw (hkey : source.loader.resolveKey none name = .ok key) :
    source.GivesRaw name key s where
  found _ hraw := (raw_eq hkey).trans (rawAt_of_lookup hraw)
  loaded _ hnone hload :=
    ⟨_, (raw_eq hkey).trans (rawAt_of_load hnone hload), lookup_putEntry_self, rfl⟩
  failed _ hnone hload := ⟨_, (raw_eq hkey).trans (rawAt_of_fail hnone hload), hnone, rfl⟩

/-! ## Interfaces -/

/-- The interface under a key, checked, resolved and put in whatever the store holds under it. -/
def resolveAnew (source : Source) (keys : List String) (key : String) : Storing Interface := do
  source.checkGraph keys key
  let interface ← source.resolveAt keys keys key
  modify fun store => { store with resolved := putEntry key interface store.resolved }
  return interface

theorem interface_eq (hkey : source.loader.resolveKey none name = .ok key) :
    source.interface name s = source.interfaceAt (source.knownKeys s) (source.knownKeys s) key s := by
  unfold Source.interface
  rw [hkey]
  rfl

variable (hs : s.Kept source.loader.resolveKey)
  (hkey : source.loader.resolveKey none name = .ok key)

include hs hkey

/-- An interface that is there is given, and the store stays as it is. -/
theorem interface_of_lookup (hi : s.resolved.lookup key = some i) :
    source.interface name s = .ok i s := by
  rw [interface_eq hkey, interfaceAt, bind_of_ok (checkGraph_of_complete (hs.complete key i hi)),
    get_bind, hi]
  rfl

/-- An interface that is not there is resolved from the start. -/
theorem interface_of_lookup_none (hnone : s.resolved.lookup key = none) :
    source.interface name s = source.resolveAnew (source.knownKeys s) key s := by
  have hcheck : (keeping source.loader.resolveKey (source.knownKeys s) []).Runs
      (source.checkGraph (source.knownKeys s) key) s _ :=
    checkGraph_keeps mem_knownKeys_of_mem_keys (keeping_inv hs)
  rw [interface_eq hkey, interfaceAt_eq, resolveAnew]
  cases hx : source.checkGraph (source.knownKeys s) key s with
  | error e s₁ => rw [bind_of_error hx, bind_of_error hx]
  | ok u s₁ =>
    obtain ⟨hinv₁, -, hsame, hcomplete⟩ := hcheck.ok hx
    have hmem : key ∈ source.knownKeys s := by
      obtain ⟨raw, hraw⟩ := hcomplete.load
      exact hinv₁.2 key raw (Store.load_documents.1 hraw)
    rw [bind_of_ok hx, bind_of_ok hx, get_bind, hsame, hnone]
    dsimp only
    rw [if_pos hmem]

/-- An interface that could not be resolved is not there. -/
theorem lookup_of_interface_error (h : source.interface name s = .error e s') :
    s'.resolved.lookup key = none := by
  have hnone : s.resolved.lookup key = none := by
    cases hi : s.resolved.lookup key with
    | none => rfl
    | some i => cases (interface_of_lookup hs hkey hi).symm.trans h
  have hcheck : (keeping source.loader.resolveKey (source.knownKeys s)
      (without key (source.knownKeys s))).Runs (source.checkGraph (source.knownKeys s) key) s _ :=
    checkGraph_keeps mem_knownKeys_of_mem_keys (keeping_inv hs)
  have hown : key ∉ without key (source.knownKeys s) := fun hmem => (mem_without.1 hmem).2 rfl
  rw [interface_of_lookup_none hs hkey hnone, resolveAnew] at h
  cases hx : source.checkGraph (source.knownKeys s) key s with
  | error e₁ s₁ =>
    rw [bind_of_error hx] at h
    cases h
    rw [(hcheck.error hx).2.1.others key hown, hnone]
  | ok u s₁ =>
    rw [bind_of_ok hx] at h
    obtain ⟨hinv₁, hle₁, -⟩ := hcheck.ok hx
    have hresolve := resolveAt_keeps mem_knownKeys_of_mem_keys hinv₁ fun k s hs =>
      interfaceAt_keeps mem_knownKeys_of_mem_keys hs
    cases hy : source.resolveAt (source.knownKeys s) (source.knownKeys s) key s₁ with
    | error e₂ s₂ =>
      rw [bind_of_error hy] at h
      cases h
      rw [(hresolve.error hy).2.1.others key hown, hle₁.others key hown, hnone]
    | ok i s₂ =>
      rw [bind_of_ok hy] at h
      cases h

end Source

/-- How an interface is asked for: one that is there is given, and the store stays as it is; one that is
not there is resolved from the start, and still not there if this fails; and one that was given once is
given from then on. -/
structure Source.GivesInterface (source : Source) (name key : String) (s : Store) : Prop where
  /-- It is there. -/
  found : ∀ i, s.resolved.lookup key = some i → source.interface name s = .ok i s
  /-- It is resolved. -/
  anew : s.resolved.lookup key = none →
    source.interface name s = source.resolveAnew (source.knownKeys s) key s
  /-- It cannot be resolved. -/
  failed : ∀ e s', source.interface name s = .error e s' → s'.resolved.lookup key = none
  /-- It is kept, whatever operations follow with whatever sources, and under all its names. -/
  kept : ∀ i s', source.interface name s = .ok i s' →
    ∀ t, ReflTransGen (Store.Step (·.loader.resolveKey = source.loader.resolveKey)) s' t →
      ∀ (other : Source) (spelling : String), other.loader.resolveKey = source.loader.resolveKey →
        other.loader.resolveKey none spelling = .ok key → other.interface spelling t = .ok i t

theorem Source.givesInterface {source : Source} {name key : String} {s : Store}
    (hs : s.Kept source.loader.resolveKey) (hkey : source.loader.resolveKey none name = .ok key) :
    source.GivesInterface name key s where
  found _ hi := interface_of_lookup hs hkey hi
  anew hnone := interface_of_lookup_none hs hkey hnone
  failed _ _ h := lookup_of_interface_error hs hkey h
  kept i s' h t hsteps other spelling hother hspelling := by
    obtain ⟨hs', -, key', hkey', hi⟩ := (interface_keeps hs).ok h
    cases hkey.symm.trans hkey'
    obtain ⟨ht, -, hresolved⟩ := Store.keeps_of_steps hs'.1 hsteps
    exact interface_of_lookup (hother ▸ ht) hspelling (hresolved key i hi)

/-- Documents are loaded once: whatever operations led to a store with sources that find the same keys
for names, and however these failed, no document was asked for again after it was loaded; the raw
documents that are there are those that were loaded, and so is their number; and the next operation
goes by what is there. Where all documents have only texts under `$ref`, it asks for none twice, and so
one source stands for a loader that fails at any attempt. -/
theorem Store.Reachable.loads_once
    {resolveKey : (origin : Option String) → (raw : String) → Except Error String} {s : Store}
    (hs : s.Reachable (·.loader.resolveKey = resolveKey)) :
    (s.attempts.Pairwise fun earlier later => earlier.succeeded → later.key ≠ earlier.key) ∧
    (∀ key, s.raws.lookup key = none ↔ ⟨key, true⟩ ∉ s.attempts) ∧
    s.loadedCount = s.loadedKeys.toFinset.card ∧
    (∀ before key, s.attempts = before ++ [⟨key, false⟩] → s.raws.lookup key = none) ∧
    (∀ (source : Source) (name key : String), source.loader.resolveKey = resolveKey →
      resolveKey none name = .ok key →
      source.GivesRaw name key s ∧ source.GivesInterface name key s) ∧
    ∀ (source steady : Source) (name : String),
      (∀ key raw, steady.loader.load key = .ok raw → raw.RefsAreTexts) →
      s.Reachable (·.Samples steady) → source.Samples steady →
      (stateAfter (source.interface name) s).AskedOnce s.attempts ∧
        (stateAfter (source.raw name) s).AskedOnce s.attempts := by
  have hkept := hs.kept
  refine ⟨hkept.accounted.once, fun key => hkept.accounted.lookup_eq_none,
    hkept.accounted.loadedCount_eq, ?_, ?_, ?_⟩
  · intro before key hlast
    have honce := hkept.accounted.once
    rw [hlast, List.pairwise_append] at honce
    rw [hkept.accounted.lookup_eq_none, hlast, List.mem_append]
    rintro (hearlier | hsame)
    · exact honce.2.2 _ hearlier _ (List.mem_singleton_self _) rfl rfl
    · cases List.mem_singleton.1 hsame
  · rintro source name key rfl hkey
    exact ⟨Source.givesRaw hkey, Source.givesInterface hkept hkey⟩
  · intro source steady name hrefs hreachable hsource
    exact hreachable.askedOnce hrefs hsource name

namespace Sample

/-- A source that has no documents any more. -/
def failing : Source := ⟨.ofDocuments [], .none⟩

end Sample

/-- The lists cannot be resolved while the nodes cannot be loaded. Then they are resolved, with no
second attempt at any document, and from then on they are there under every name, even for a source
that has no documents any more. -/
theorem Store.Reachable.loads_once_lists :
    ∃ e s i s', Sample.interrupted.interface "lists.json" .empty = .error e s ∧
      s.attempts = [⟨"lists.json", true⟩, ⟨"nodes.json", false⟩] ∧
      s.raws.lookup "nodes.json" = none ∧ s.resolved.lookup "lists.json" = none ∧
      Sample.source.interface "lists.json" s = .ok i s' ∧ s'.AskedOnce s.attempts ∧
      Sample.failing.interface "./lists.json" s' = .ok i s' := by
  have hfails : (fault? (Sample.interrupted.interface "lists.json") .empty).isSome := by
    decide +kernel
  obtain ⟨e, he⟩ := Option.isSome_iff_exists.1 hfails
  obtain ⟨s, hfail⟩ := fault?_eq_some.1 he
  have hafter : stateAfter (Sample.interrupted.interface "lists.json") .empty = s := by
    unfold stateAfter
    rw [hfail]
  have hattempts : (stateAfter (Sample.interrupted.interface "lists.json") .empty).attempts =
      [⟨"lists.json", true⟩, ⟨"nodes.json", false⟩] := by decide +kernel
  have hsucceeds : (result? (Sample.source.interface "lists.json")
      (stateAfter (Sample.interrupted.interface "lists.json") .empty)).isSome := by decide +kernel
  rw [hafter] at hattempts hsucceeds
  obtain ⟨i, hi⟩ := Option.isSome_iff_exists.1 hsucceeds
  obtain ⟨s', hsucceed⟩ := result?_eq_some.1 hi
  have hafter' : stateAfter (Sample.source.interface "lists.json") s = s' := by
    unfold stateAfter
    rw [hsucceed]
  have hkey : Sample.source.loader.resolveKey none "lists.json" = .ok "lists.json" := by
    decide +kernel
  have hspelling : Sample.source.loader.resolveKey none "./lists.json" = .ok "lists.json" := by
    decide +kernel
  have hreachable : s.Reachable (·.loader.resolveKey = Sample.source.loader.resolveKey) :=
    hafter ▸ .interface "lists.json" rfl .empty
  have hsamples : s.Reachable (·.Samples Sample.source) :=
    hafter ▸ .interface "lists.json" Sample.interrupted_samples .empty
  obtain ⟨-, -, -, hlast, hgives, hasked⟩ := hreachable.loads_once
  obtain ⟨-, hinterrupted⟩ :=
    loads_once .empty |>.2.2.2.2.1 Sample.interrupted "lists.json" "lists.json" rfl hkey
  obtain ⟨-, hinterface⟩ := hgives Sample.source "lists.json" "lists.json" rfl hkey
  have haskedOnce := (hasked Sample.source Sample.source "lists.json"
    (fun _ _ => Sample.source_refsAreTexts) hsamples Sample.source_samples).1
  rw [hafter'] at haskedOnce
  exact ⟨e, s, i, s', hfail, hattempts, hlast [⟨"lists.json", true⟩] "nodes.json" hattempts,
    hinterrupted.failed e s hfail, hsucceed, haskedOnce,
    hinterface.kept i s' hsucceed s' .refl Sample.failing "./lists.json" rfl hspelling⟩

end ServiceContract
