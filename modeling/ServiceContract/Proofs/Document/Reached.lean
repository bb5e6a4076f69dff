import ServiceContract.Proofs.Document.Keeping

/-!
# The registries of an interface

The registries that an interface has of other documents are those of the documents that its own
document leads to, each the registry of the interface that the store holds. So whichever way leads to a
document, the registry is the same, and it makes no difference in which order the registries of several
interfaces are merged.
-/

namespace ServiceContract

open Json (Value)
open Relation (ReflTransGen TransGen)

/-! ## Merging -/

section Merge

variable {key : String} {home : Registry} {merged : List (String × Registry)}
  {interfaces interfaces' : List (String × Interface)}

theorem ascending_mergeMissing {externals : List (String × Registry)}
    (h : Ascending (merged.map Prod.fst)) :
    Ascending ((mergeMissing merged externals).map Prod.fst) := by
  induction externals generalizing merged with
  | nil => exact h
  | cons entry rest ih =>
    obtain ⟨k, registry⟩ := entry
    unfold mergeMissing
    rw [List.foldl_cons]
    refine ih ?_
    dsimp only
    split
    · exact h
    · exact ascending_putEntry h

/-- Merged registries stand in the order of their keys. -/
theorem ascending_mergeExternals : Ascending ((mergeExternals interfaces).map Prod.fst) := by
  rw [mergeExternals_eq]
  have hfold : ∀ (l : List (String × Interface)) merged, Ascending (merged.map Prod.fst) →
      Ascending ((l.foldl mergeInterface merged).map Prod.fst) := by
    intro l
    induction l with
    | nil => exact fun _ h => h
    | cons entry rest ih => exact fun _ h => ih _ (ascending_putEntry (ascending_mergeMissing h))
  exact hfold interfaces [] .nil

/-- A registry is merged from the interfaces: it is that of one of them, or one of them has it. -/
def MergedFrom (interfaces : List (String × Interface)) (key : String) (home : Registry) : Prop :=
  (∃ i, (key, i) ∈ interfaces ∧ i.registry = home) ∨
    ∃ k i, (k, i) ∈ interfaces ∧ (key, home) ∈ i.registry.externals

theorem isSome_lookup_of_mergedFrom (h : MergedFrom interfaces key home) :
    ((mergeExternals interfaces).lookup key).isSome := by
  rcases h with ⟨i, hi, -⟩ | ⟨k, i, hi, hhome⟩
  · obtain ⟨j, -, hj⟩ := lookup_mergeExternals_of_mem hi
    rw [hj]
    rfl
  · exact isSome_lookup_mergeExternals hi hhome

/-- If there is one registry at most under each key, then what is merged is found. -/
theorem lookup_mergeExternals
    (hone : ∀ {key home home'}, MergedFrom interfaces key home → MergedFrom interfaces key home' →
      home = home') :
    (mergeExternals interfaces).lookup key = some home ↔ MergedFrom interfaces key home := by
  constructor
  · exact fun h => mem_mergeExternals (mem_of_lookup h)
  · intro h
    obtain ⟨home', hhome'⟩ := Option.isSome_iff_exists.1 (isSome_lookup_of_mergedFrom h)
    rw [hhome', hone h (mem_mergeExternals (mem_of_lookup hhome'))]

/-- The same interfaces give the same registries in any order. -/
theorem mergeExternals_congr
    (hone : ∀ {key home home'}, MergedFrom interfaces key home → MergedFrom interfaces key home' →
      home = home')
    (hsame : ∀ entry, entry ∈ interfaces' ↔ entry ∈ interfaces) :
    mergeExternals interfaces' = mergeExternals interfaces := by
  have hmerged : ∀ key home, MergedFrom interfaces' key home ↔ MergedFrom interfaces key home := by
    intro key home
    simp only [MergedFrom, hsame]
  have hone' : ∀ {key home home'}, MergedFrom interfaces' key home →
      MergedFrom interfaces' key home' → home = home' :=
    fun h h' => hone ((hmerged _ _).1 h) ((hmerged _ _).1 h')
  refine eq_of_lookup_eq ascending_mergeExternals ascending_mergeExternals fun key => ?_
  ext home
  rw [lookup_mergeExternals hone', lookup_mergeExternals hone, hmerged]

end Merge

/-! ## What an interface reaches -/

namespace Store

variable {s : Store} {key k : String} {i : Interface} {home : Registry}
  {externals : List (String × Interface)}
  {resolveKey : (origin : Option String) → (raw : String) → Except Error String}

/-- The registry of an interface that another one was resolved with is smaller. -/
theorem LinkedBy.sizeOf_lt {j : Interface} (h : s.LinkedBy resolveKey key i externals)
    (hj : (k, j) ∈ externals) : sizeOf j.registry < sizeOf i.registry := by
  obtain ⟨j', hj', hmerged⟩ := lookup_mergeExternals_of_mem hj
  cases (h.there k j hj).2.symm.trans (h.there k j' hj').2
  exact sizeOf_external_lt (h.registry ▸ mem_of_lookup hmerged)

section Kept

variable (hs : s.Kept resolveKey)

include hs

/-- What an interface has belongs to a document that its own leads to, and it is in the store. -/
theorem Kept.reached (hi : s.resolved.lookup key = some i)
    (hhome : (k, home) ∈ i.registry.externals) :
    TransGen (s.documents resolveKey).Follows key k ∧
      ∃ j, s.resolved.lookup k = some j ∧ j.registry = home := by
  induction hsize : sizeOf i.registry using Nat.strong_induction_on generalizing key i with
  | _ n ih =>
    subst hsize
    obtain ⟨externals, hlinked⟩ := hs.linked key i hi
    rw [hlinked.registry] at hhome
    rcases mem_mergeExternals hhome with ⟨j, hj, rfl⟩ | ⟨k', j, hj, hhome⟩
    · obtain ⟨hfollows, hthere⟩ := hlinked.there k j hj
      exact ⟨.single hfollows, j, hthere, rfl⟩
    · obtain ⟨hfollows, hthere⟩ := hlinked.there k' j hj
      obtain ⟨hreached, hhome⟩ := ih _ (hlinked.sizeOf_lt hj) hthere hhome rfl
      exact ⟨.head hfollows hreached, hhome⟩

/-- An interface has something for every document that its own leads to. -/
theorem Kept.isSome_lookup (hi : s.resolved.lookup key = some i)
    (h : TransGen (s.documents resolveKey).Follows key k) :
    (i.registry.externals.lookup k).isSome := by
  induction h using TransGen.head_induction_on generalizing i with
  | single hfollows =>
    obtain ⟨externals, hlinked⟩ := hs.linked _ i hi
    obtain ⟨j, hj⟩ := hlinked.all k hfollows
    rw [hlinked.registry]
    exact isSome_lookup_of_mergedFrom (.inl ⟨j, hj, rfl⟩)
  | head hfollows _ ih =>
    obtain ⟨externals, hlinked⟩ := hs.linked _ i hi
    obtain ⟨j, hj⟩ := hlinked.all _ hfollows
    obtain ⟨home, hhome⟩ := Option.isSome_iff_exists.1 (ih (hlinked.there _ j hj).2)
    rw [hlinked.registry]
    exact isSome_lookup_mergeExternals hj (mem_of_lookup hhome)

/-- No document whose interface is in the store leads back to itself. -/
theorem Kept.not_transGen (hi : s.resolved.lookup key = some i) :
    ¬ TransGen (s.documents resolveKey).Follows key key := by
  intro h
  obtain ⟨home, hhome⟩ := Option.isSome_iff_exists.1 (hs.isSome_lookup hi h)
  obtain ⟨-, j, hj, hsame⟩ := hs.reached hi (mem_of_lookup hhome)
  cases hi.symm.trans hj
  have hlt := sizeOf_external_lt (mem_of_lookup hhome)
  rw [hsame] at hlt
  exact Nat.lt_irrefl _ hlt

/-- What is merged for an interface is what the store holds. -/
theorem Kept.lookup_of_mergedFrom (hlinked : s.LinkedBy resolveKey key i externals)
    (h : MergedFrom externals k home) : ∃ j, s.resolved.lookup k = some j ∧ j.registry = home := by
  rcases h with ⟨j, hj, rfl⟩ | ⟨k', j, hj, hhome⟩
  · exact ⟨j, (hlinked.there k j hj).2, rfl⟩
  · exact (hs.reached (hlinked.there k' j hj).2 hhome).2

/-- What it has it has under one key in every interface that has it. -/
theorem Kept.lookup_trans {far : String} {there : Registry} {j : Interface}
    (hi : s.resolved.lookup key = some i) (hj : s.resolved.lookup k = some j)
    (hreached : TransGen (s.documents resolveKey).Follows key k)
    (hthere : j.registry.externals.lookup far = some there) :
    i.registry.externals.lookup far = some there := by
  obtain ⟨hfar, j₁, hj₁, rfl⟩ := hs.reached hj (mem_of_lookup hthere)
  obtain ⟨there', hthere'⟩ := Option.isSome_iff_exists.1 (hs.isSome_lookup hi (hreached.trans hfar))
  obtain ⟨-, j₂, hj₂, rfl⟩ := hs.reached hi (mem_of_lookup hthere')
  rw [hthere', Option.some.inj (hj₂.symm.trans hj₁)]

theorem Kept.mergedFrom_unique (hlinked : s.LinkedBy resolveKey key i externals) {home' : Registry}
    (h : MergedFrom externals k home) (h' : MergedFrom externals k home') : home = home' := by
  obtain ⟨j, hj, rfl⟩ := hs.lookup_of_mergedFrom hlinked h
  obtain ⟨j', hj', rfl⟩ := hs.lookup_of_mergedFrom hlinked h'
  rw [Option.some.inj (hj.symm.trans hj')]

end Kept

end Store

/-- The registries of an interface follow the documents: after any operations with sources that find the
same keys for names, an interface that is asked for has registries for exactly the documents that its
own leads to, of which its own is none. Each is the registry of the interface that the store holds, and
the interface has the same for whatever that one has. It does not depend on the order in which the
interfaces were merged. -/
theorem Store.Reachable.externals_follow
    {resolveKey : (origin : Option String) → (raw : String) → Except Error String} {s s' : Store}
    {source : Source} {name key : String} {i : Interface}
    (hs : s.Reachable (·.loader.resolveKey = resolveKey))
    (hsource : source.loader.resolveKey = resolveKey) (hkey : resolveKey none name = .ok key)
    (h : source.interface name s = .ok i s') :
    (∀ k, (i.registry.externals.lookup k).isSome ↔
      TransGen (s'.documents resolveKey).Follows key k) ∧
    i.registry.externals.lookup key = none ∧
    (∀ k home, i.registry.externals.lookup k = some home →
      (∃ j, s'.resolved.lookup k = some j ∧ j.registry = home) ∧
        ∀ far there, home.externals.lookup far = some there →
          i.registry.externals.lookup far = some there) ∧
    ∃ interfaces, i.registry.externals = mergeExternals interfaces ∧
      (∀ k j, (k, j) ∈ interfaces →
        (s'.documents resolveKey).Follows key k ∧ s'.resolved.lookup k = some j) ∧
      ∀ interfaces', interfaces'.Perm interfaces →
        mergeExternals interfaces' = i.registry.externals := by
  subst hsource
  obtain ⟨⟨hs', -⟩, -, key', hkey', hi⟩ := (Source.interface_keeps hs.kept).ok h
  cases hkey.symm.trans hkey'
  obtain ⟨interfaces, hlinked⟩ := hs'.linked key i hi
  refine ⟨fun k => ⟨fun hk => ?_, hs'.isSome_lookup hi⟩, ?_, fun k home hk => ?_,
    interfaces, hlinked.registry, hlinked.there, fun interfaces' hperm => ?_⟩
  · obtain ⟨home, hhome⟩ := Option.isSome_iff_exists.1 hk
    exact (hs'.reached hi (mem_of_lookup hhome)).1
  · cases hself : i.registry.externals.lookup key with
    | none => rfl
    | some home => exact absurd (hs'.reached hi (mem_of_lookup hself)).1 (hs'.not_transGen hi)
  · obtain ⟨hreached, j, hj, rfl⟩ := hs'.reached hi (mem_of_lookup hk)
    exact ⟨⟨j, hj, rfl⟩, fun far there hthere => hs'.lookup_trans hi hj hreached hthere⟩
  · rw [hlinked.registry]
    exact mergeExternals_congr (fun h h' => hs'.mergedFrom_unique hlinked h h')
      fun entry => hperm.mem_iff

namespace Sample

/-- The source of a document that borrows from a document which borrows from the nodes. -/
def lenders : Source :=
  ⟨.ofDocuments [("a.json", borrowing "b.json"), ("b.json", borrowing "nodes.json"),
    ("nodes.json", nodes)], .none⟩

end Sample

/-- The first document names the nodes nowhere, but leads to them, and its interface has their
registry. -/
theorem Store.Reachable.externals_follow_lenders :
    ∃ i s', Sample.lenders.interface "a.json" .empty = .ok i s' ∧
      TransGen (s'.documents Sample.lenders.loader.resolveKey).Follows "a.json" "nodes.json" ∧
      i.registry.externals.lookup "a.json" = none ∧
      ∃ j, s'.resolved.lookup "nodes.json" = some j ∧
        i.registry.externals.lookup "nodes.json" = some j.registry := by
  have hreaches : ((result? (Sample.lenders.interface "a.json") .empty).bind
      fun i => i.registry.externals.lookup "nodes.json").isSome := by decide +kernel
  obtain ⟨home, hhome⟩ := Option.isSome_iff_exists.1 hreaches
  obtain ⟨i, hi, hhome⟩ := Option.bind_eq_some_iff.1 hhome
  obtain ⟨s', h⟩ := result?_eq_some.1 hi
  have hkey : Sample.lenders.loader.resolveKey none "a.json" = .ok "a.json" := by decide +kernel
  obtain ⟨hexact, hself, hthere, -⟩ := Store.Reachable.externals_follow .empty rfl hkey h
  obtain ⟨⟨j, hj, rfl⟩, -⟩ := hthere "nodes.json" home hhome
  refine ⟨i, s', h, (hexact "nodes.json").1 ?_, hself, j, hj, hhome⟩
  rw [hhome]
  rfl

end ServiceContract
