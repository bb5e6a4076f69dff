import Mathlib.Data.List.Chain
import ServiceContract.Proofs.Document.Comparison

/-!
# The check of the document graph is exact

The documents of a store are a part of those of its loader that only grows. The check of the graph
goes through them depth first. When it succeeds, everything that is reached from its root is there
and no way comes back; such a document is complete. When it fails, it names a circle of documents
that are reached from the root, or a document that is reached and cannot be loaded, or a name that
has no key. A complete document is checked again without loading anything.
-/

namespace ServiceContract

open Json (Value)
open Relation (ReflTransGen TransGen)

/-! ## Documents -/

namespace Loader

variable {loader loader' : Loader} {key other : String} {raw : Value}

/-- The first loader has only documents of the second one, and finds the same keys for names. -/
structure Within (loader loader' : Loader) : Prop where
  /-- Names have the same keys. -/
  resolveKey : loader.resolveKey = loader'.resolveKey
  /-- What is loaded is the same. -/
  load : ∀ key raw, loader.load key = .ok raw → loader'.load key = .ok raw

theorem Sees.mono (hwithin : loader.Within loader') (h : loader.Sees key other) :
    loader'.Sees key other := by
  obtain ⟨raw, name, hload, hname, hother, hne⟩ := h
  exact ⟨raw, name, hwithin.load key raw hload, hname, hwithin.resolveKey ▸ hother, hne⟩

theorem Follows.mono (hwithin : loader.Within loader') (h : loader.Follows key other) :
    loader'.Follows key other := by
  obtain ⟨raw, name, hload, hname, hother, hne⟩ := h
  exact ⟨raw, name, hwithin.load key raw hload, hname, hwithin.resolveKey ▸ hother, hne⟩

/-- A document that both have leads to the same documents. -/
theorem Sees.of_within (hwithin : loader.Within loader') (hload : loader.load key = .ok raw)
    (h : loader'.Sees key other) : loader.Sees key other := by
  obtain ⟨raw', name, hload', hname, hother, hne⟩ := h
  cases (hwithin.load key raw hload).symm.trans hload'
  exact ⟨raw, name, hload, hname, hwithin.resolveKey ▸ hother, hne⟩

theorem Follows.of_within (hwithin : loader.Within loader') (hload : loader.load key = .ok raw)
    (h : loader'.Follows key other) : loader.Follows key other := by
  obtain ⟨raw', name, hload', hname, hother, hne⟩ := h
  cases (hwithin.load key raw hload).symm.trans hload'
  exact ⟨raw, name, hload, hname, hwithin.resolveKey ▸ hother, hne⟩

/-- The document is there, all names in it have keys, and so on for every document that the check goes
to from there, until all ways end. -/
inductive Complete (loader : Loader) : (key : String) → Prop where
  /-- If all documents that it leads to are complete, it is. -/
  | intro {key : String} {raw : Value} (hload : loader.load key = .ok raw)
      (hnames : ∀ name ∈ documentsNamedIn raw,
        ∃ other, loader.resolveKey (some key) name = .ok other)
      (hothers : ∀ other, loader.Sees key other → Complete loader other) : Complete loader key

namespace Complete

theorem load (h : loader.Complete key) : ∃ raw, loader.load key = .ok raw := by
  cases h with
  | intro hload => exact ⟨_, hload⟩

theorem of_sees (h : loader.Complete key) (hsees : loader.Sees key other) : loader.Complete other := by
  cases h with
  | intro _ _ hothers => exact hothers other hsees

theorem of_reaches (h : loader.Complete key) (hreaches : ReflTransGen loader.Sees key other) :
    loader.Complete other := by
  induction hreaches with
  | refl => exact h
  | tail _ hsees ih => exact ih.of_sees hsees

/-- No way comes back. -/
theorem acyclic (h : loader.Complete key) : ¬ TransGen loader.Sees key key := by
  refine not_transGen_of_acc ?_
  induction h with
  | intro _ _ _ ih => exact ⟨_, ih⟩

theorem mono (hwithin : loader.Within loader') (h : loader.Complete key) : loader'.Complete key := by
  induction h with
  | intro hload hnames _ ih =>
    refine .intro (hwithin.load _ _ hload) (fun name hname => ?_) fun other hsees => ?_
    · exact hwithin.resolveKey ▸ hnames name hname
    · exact ih other (hsees.of_within hwithin hload)

end Complete

/-- The second list of documents has those of the first one, and all that are in it are complete. -/
structure Completed (loader : Loader) (done done' : List String) : Prop where
  /-- None is lost. -/
  kept : ∀ key ∈ done, key ∈ done'
  /-- All are complete. -/
  complete : ∀ key ∈ done', loader.Complete key

/-- Each document of a path leads to the next one, and the root to all of them. -/
structure Path (loader : Loader) (root : String) (path : List String) : Prop where
  /-- The links. -/
  links : path.IsChain loader.Sees
  /-- The way from the root. -/
  reached : ∀ key ∈ path, ReflTransGen loader.Sees root key

theorem Path.mono {root : String} {path : List String} (hwithin : loader.Within loader')
    (h : loader.Path root path) : loader'.Path root path where
  links := h.links.imp fun _ _ hsees => hsees.mono hwithin
  reached key hkey := by
    have hmono : ∀ a b, loader.Sees a b → loader'.Sees a b := fun _ _ hsees => hsees.mono hwithin
    exact ReflTransGen.mono hmono root key (h.reached key hkey)

/-- A path goes on with a document that its last one leads to. -/
theorem Path.append {root : String} {path : List String} (h : loader.Path root (path ++ [key]))
    (hsees : loader.Sees key other) : loader.Path root (path ++ [key] ++ [other]) where
  links := h.links.append_overlap (List.isChain_pair.2 hsees) (List.cons_ne_nil _ _)
  reached k hk := by
    rcases List.mem_append.1 hk with hk | hk
    · exact h.reached k hk
    · rw [List.mem_singleton.1 hk]
      exact .tail (h.reached key (by simp)) hsees

/-- What a check from the root may blame for its fault, if these are the documents that it found and
others cannot be loaded. -/
inductive Blames (loader : Loader) (load : (key : String) → Except Error Value) (root : String) :
    Error → Prop where
  /-- A circle: its documents in order, with the first one again at the end. -/
  | circle {first : String} {others : List String}
      (hpath : loader.Path root (first :: others ++ [first])) :
      Blames loader load root (.cyclicReference (others.getLastD first ++ "#")
        (Text.join " -> " (first :: others ++ [first])))
  /-- A document that cannot be loaded. -/
  | missing {key : String} {e : Error} (hreached : ReflTransGen loader.Sees root key)
      (hload : load key = .error e) : Blames loader load root e
  /-- A name that has no key. -/
  | unnamed {key name : String} {raw : Value} {e : Error}
      (hreached : ReflTransGen loader.Sees root key) (hload : loader.load key = .ok raw)
      (hname : name ∈ documentsNamedIn raw)
      (h : loader.resolveKey (some key) name = .error e) : Blames loader load root e

end Loader

namespace Store

variable {s s' : Store} {key : String} {raw : Value}
  {resolveKey : (origin : Option String) → (raw : String) → Except Error String}

/-- The raw documents of a store as a loader. -/
def documents (s : Store) (resolveKey : (origin : Option String) → (raw : String) →
    Except Error String) : Loader where
  resolveKey := resolveKey
  keys := s.raws.map Prod.fst
  contents := fun key =>
    match s.raws.lookup key with
    | some raw => .ok raw
    | none => .error (.load key "no such document")

theorem load_documents : (s.documents resolveKey).load key = .ok raw ↔ s.raws.lookup key = some raw := by
  unfold Loader.load documents
  cases hraw : s.raws.lookup key with
  | none => simp [hraw]
  | some found =>
    have hmem : key ∈ s.raws.map Prod.fst := List.mem_map_of_mem (mem_of_lookup hraw)
    simp [hmem, hraw]

theorem documents_within (h : Extends s.raws s'.raws) :
    (s.documents resolveKey).Within (s'.documents resolveKey) where
  resolveKey := rfl
  load key raw hload := load_documents.2 (h key raw (load_documents.1 hload))

/-- A store that was filled by one loader has documents of this loader. -/
theorem documents_within_loader {loader : Loader}
    (h : ∀ key raw, s.raws.lookup key = some raw → loader.load key = .ok raw) :
    (s.documents loader.resolveKey).Within loader where
  resolveKey := rfl
  load key raw hload := h key raw (load_documents.1 hload)

end Store

namespace Source

variable {source : Source} {s : Store} {key root : String} {raw : Value}
  {known free stack done children : List String}

/-! ## The check of the graph -/

/-- The documents of a store, by the keys that the source finds for names. -/
abbrev documentsOf (source : Source) (s : Store) : Loader := s.documents source.loader.resolveKey

/-- While the check goes through the documents it only loads some, under known keys. -/
def checking (source : Source) (known : List String) (root : String) : Discipline Error Store where
  inv s := ∀ key raw, s.raws.lookup key = some raw → key ∈ known
  le s s' := Extends s.raws s'.raws
  fault e s := (source.documentsOf s).Blames source.loader.load root e
  refl _ _ _ h := h
  trans h h' key raw hraw := h' key raw (h key raw hraw)

theorem sees_of_mem_children {other : String} (hload : (source.documentsOf s).load key = .ok raw)
    (h : source.children key raw = .ok children) (hother : other ∈ children) :
    (source.documentsOf s).Sees key other := by
  unfold Source.children at h
  obtain ⟨keys, hkeys, hpure⟩ := bind_eq_ok.1 h
  cases hpure
  obtain ⟨hother, hne⟩ := List.mem_filter.1 hother
  obtain ⟨name, hname, hsame⟩ :=
    exists_of_forall₂_right (mapM_eq_ok.1 hkeys) (mem_nameSet.1 hother)
  exact ⟨raw, name, hload, hname, hsame, by simpa using hne⟩

theorem exists_of_mapM_error {α β : Type} {f : α → Except Error β} {l : List α} {e : Error}
    (h : l.mapM f = .error e) : ∃ a ∈ l, f a = .error e := by
  induction l with
  | nil => cases h
  | cons a l ih =>
    rw [List.mapM_cons] at h
    cases ha : f a with
    | error e' =>
      rw [ha] at h
      cases h
      exact ⟨a, List.mem_cons_self .., ha⟩
    | ok b =>
      rw [ha] at h
      cases hl : l.mapM f with
      | error e' =>
        simp only [bind, Except.bind, hl] at h
        cases h
        obtain ⟨a', ha', hfail⟩ := ih hl
        exact ⟨a', List.mem_cons_of_mem _ ha', hfail⟩
      | ok bs =>
        simp only [bind, Except.bind, hl] at h
        cases h

/-- A name in a document that has no key is blamed, and only that. -/
theorem children_runs (hs : (checking source known root).inv s)
    (hload : (source.documentsOf s).load key = .ok raw)
    (hreached : ReflTransGen (source.documentsOf s).Sees root key) :
    (checking source known root).Runs (ofExcept (source.children key raw)) s fun children s' =>
      source.children key raw = .ok children ∧ s' = s := by
  cases hchildren : source.children key raw with
  | ok children => exact .pure hs ⟨rfl, rfl⟩
  | error e =>
    refine .throw hs ?_
    unfold Source.children at hchildren
    cases hkeys : (documentsNamedIn raw).mapM (source.loader.resolveKey (some key)) with
    | ok keys =>
      rw [hkeys] at hchildren
      cases hchildren
    | error e' =>
      rw [hkeys] at hchildren
      cases hchildren
      obtain ⟨name, hname, hfail⟩ := exists_of_mapM_error hkeys
      exact .unnamed hreached hload hname hfail

/-- The circle that is named has all keys from the first visit to the second one. -/
theorem exists_circle_of_mem (hmem : key ∈ stack) : ∃ before others,
    stack = before ++ key :: others ∧ stack.dropWhile (· ≠ key) = key :: others := by
  obtain ⟨before, others, rfl, hfirst⟩ := List.eq_append_cons_of_mem hmem
  refine ⟨before, others, rfl, ?_⟩
  rw [List.dropWhile_append_of_pos fun k hk => by
    simpa using fun heq : k = key => hfirst (heq ▸ hk)]
  simp

theorem documentCycle_blamed {loader : Loader} {load : String → Except Error Value}
    (hmem : key ∈ stack) (hpath : loader.Path root (stack ++ [key])) :
    loader.Blames load root (documentCycle stack key) := by
  obtain ⟨before, others, rfl, hcircle⟩ := exists_circle_of_mem hmem
  have hsuffix : key :: others ++ [key] <:+ before ++ key :: others ++ [key] :=
    ⟨before, by simp⟩
  have hlast : (before ++ key :: others).getLastD key = others.getLastD key := by
    cases others <;> simp [List.getLast?_cons]
  unfold documentCycle
  rw [hcircle, hlast]
  exact .circle ⟨hpath.links.suffix hsuffix, fun k hk => hpath.reached k (hsuffix.subset hk)⟩

section Check

variable (hloader : ∀ k ∈ source.loader.keys, k ∈ known)
  (hs : (checking source known root).inv s)

include hloader hs

theorem rawAt_checks (hreached : ReflTransGen (source.documentsOf s).Sees root key) :
    (checking source known root).Runs (source.rawAt key) s fun raw s' =>
      (source.documentsOf s').load key = .ok raw ∧ key ∈ known := by
  cases hraw : s.raws.lookup key with
  | some raw =>
    have hrun : (checking source known root).Runs (pure raw) s fun raw s' =>
        (source.documentsOf s').load key = .ok raw ∧ key ∈ known :=
      .pure hs ⟨Store.load_documents.2 hraw, hs key raw hraw⟩
    exact hrun.congr (rawAt_of_lookup hraw)
  | none =>
    unfold Discipline.Runs
    cases hload : source.loader.load key with
    | ok raw =>
      rw [rawAt_of_load hraw hload]
      have hkey := hloader key (Loader.mem_keys_of_load hload)
      exact ⟨fun k r hr => forall_lookup_putEntry (P := fun k _ => k ∈ known) hs hkey hr,
        fun k r hr => lookup_putEntry_of_some hraw hr,
        Store.load_documents.2 lookup_putEntry_self, hkey⟩
    | error e =>
      rw [rawAt_of_fail hraw hload]
      exact ⟨hs, fun _ _ h => h, .missing hreached hload⟩

omit hloader in
/-- Visits one after another complete all their documents if each completes its own. -/
theorem foldlM_checks {visit : List String → String → Storing (List String)}
    (hdone : ∀ k ∈ done, (source.documentsOf s).Complete k)
    (hvisit : ∀ {done s'} child, child ∈ children → (checking source known root).inv s' →
      Extends s.raws s'.raws → (∀ k ∈ done, (source.documentsOf s').Complete k) →
      (checking source known root).Runs (visit done child) s' fun done' s'' =>
        child ∈ done' ∧ (source.documentsOf s'').Completed done done') :
    (checking source known root).Runs (children.foldlM visit done) s fun done' s' =>
      (∀ k ∈ children, k ∈ done') ∧ (source.documentsOf s').Completed done done' := by
  refine Discipline.Runs.foldlM (I := fun before done' s' =>
    (∀ k ∈ before, k ∈ done') ∧ (source.documentsOf s').Completed done done') hs
    ⟨by simp, fun _ hk => hk, hdone⟩ ?_
  rintro before child done' s' hchild hs' hle ⟨hbefore, hcompleted⟩
  refine (hvisit child hchild hs' hle hcompleted.complete).imp ?_
  rintro done'' s'' - - ⟨hthere, hcompleted'⟩
  refine ⟨fun k hk => ?_, fun k hk => hcompleted'.kept k (hcompleted.kept k hk),
    hcompleted'.complete⟩
  rcases List.mem_append.1 hk with hk | hk
  · exact hcompleted'.kept k (hbefore k hk)
  · rw [List.mem_singleton.1 hk]
    exact hthere

omit hloader hs in
/-- A document is complete if all documents that it leads to are. -/
theorem complete_of_children {s' : Store} (hle : Extends s.raws s'.raws)
    (hload : (source.documentsOf s).load key = .ok raw) (h : source.children key raw = .ok children)
    (hchildren : ∀ k ∈ children, (source.documentsOf s').Complete k) :
    (source.documentsOf s').Complete key := by
  have hwithin : (source.documentsOf s).Within (source.documentsOf s') := Store.documents_within hle
  refine .intro (hwithin.load key raw hload) (fun name hname => ?_) fun other hsees => ?_
  · unfold Source.children at h
    obtain ⟨keys, hkeys, -⟩ := bind_eq_ok.1 h
    obtain ⟨other, -, hother⟩ :=
      exists_of_forall₂_right (mapM_eq_ok.1 hkeys).flip hname
    exact ⟨other, hother⟩
  · have hsees' : (source.documentsOf s).Sees key other := hsees.of_within hwithin hload
    exact hchildren other (@mem_children_of_sees ⟨source.documentsOf s, source.rules⟩ key raw
      children other hload h hsees')

/-- A visit that succeeds completes the document, and one that fails blames what it should. -/
theorem visit_checks (hknown : ∀ k ∈ known, k ∈ free ∨ k ∈ stack)
    (hdone : ∀ k ∈ done, (source.documentsOf s).Complete k)
    (hpath : (source.documentsOf s).Path root (stack ++ [key])) :
    (checking source known root).Runs (source.visit free stack done key) s fun done' s' =>
      key ∈ done' ∧ (source.documentsOf s').Completed done done' := by
  induction hlength : free.length using Nat.strong_induction_on
    generalizing free stack done key s with
  | _ n ih =>
    subst hlength
    have hreached : ReflTransGen (source.documentsOf s).Sees root key := hpath.reached key (by simp)
    rw [visit]
    split
    · next hmem => exact .pure hs ⟨hmem, fun _ hk => hk, hdone⟩
    · split
      · next hfree =>
        refine (rawAt_checks hloader hs hreached).bind fun raw s₁ hs₁ hle₁ hraw => ?_
        have hwithin₁ : (source.documentsOf s).Within (source.documentsOf s₁) :=
          Store.documents_within hle₁
        have hpath₁ := hpath.mono hwithin₁
        refine (children_runs hs₁ hraw.1 (hpath₁.reached key (by simp))).bind
          fun children s₂ hs₂ _ hchildren => ?_
        obtain ⟨hchildren, rfl⟩ := hchildren
        -- The key is on the stack while its children are visited.
        have hknown' : ∀ k ∈ known, k ∈ without key free ∨ k ∈ stack ++ [key] := by
          intro k hk
          by_cases heq : k = key
          · exact .inr (by simp [heq])
          · exact (hknown k hk).imp (fun h => mem_without.2 ⟨h, heq⟩) fun h => List.mem_append_left _ h
        have hvisit : ∀ {done' s'} child, child ∈ children → (checking source known root).inv s' →
            Extends s₂.raws s'.raws → (∀ k ∈ done', (source.documentsOf s').Complete k) →
            (checking source known root).Runs
              (source.visit (without key free) (stack ++ [key]) done' child) s' fun done'' s'' =>
              child ∈ done'' ∧ (source.documentsOf s'').Completed done' done'' := by
          intro done' s' child hchild hs' hle hdone'
          have hwithin' : (source.documentsOf s₂).Within (source.documentsOf s') :=
            Store.documents_within hle
          have hsees := (sees_of_mem_children hraw.1 hchildren hchild).mono hwithin'
          exact ih _ (length_without_lt hfree) hs' hknown' hdone'
            ((hpath₁.mono hwithin').append hsees) rfl
        refine (foldlM_checks hs₂ (fun k hk => (hdone k hk).mono hwithin₁) hvisit).bind
          fun done' s₃ hs₃ hle₃ hcompleted => ?_
        obtain ⟨hthere, hcompleted⟩ := hcompleted
        have hkey : (source.documentsOf s₃).Complete key :=
          complete_of_children hle₃ hraw.1 hchildren fun k hk => hcompleted.complete k (hthere k hk)
        refine .pure hs₃ ⟨List.mem_cons_self .., fun k hk => ?_, ?_⟩
        · exact List.mem_cons_of_mem _ (hcompleted.kept k hk)
        · intro k hk
          rcases List.mem_cons.1 hk with rfl | hk
          · exact hkey
          · exact hcompleted.complete k hk
      · next hfree =>
        split
        · next hstack => exact .throw hs (documentCycle_blamed hstack hpath)
        · next hstack =>
          -- Such a key is not known, and so it cannot be loaded.
          refine Discipline.Runs.bind (Q := fun _ _ => False) ?_ fun _ _ _ _ h => h.elim
          refine (rawAt_checks hloader hs hreached).map fun raw s₁ _ _ hraw => ?_
          exact (hknown key hraw.2).elim hfree hstack

omit hs in
/-- A check that succeeds completes the document. -/
theorem checkGraph_checks (hs : (checking source known key).inv s) :
    (checking source known key).Runs (source.checkGraph known key) s fun _ s' =>
      (source.documentsOf s').Complete key := by
  have hpath : (source.documentsOf s).Path key ([] ++ [key]) := by
    refine ⟨List.isChain_singleton key, fun k hk => ?_⟩
    rw [List.mem_singleton.1 hk]
  have hvisit : (checking source known key).Runs (source.visit known [] [] key) s _ :=
    visit_checks hloader hs (fun k hk => .inl hk) (fun k hk => by cases hk) hpath
  exact hvisit.map fun done _ _ _ h => h.2.complete key h.1

end Check

/-! ## Complete documents -/

theorem foldlM_of_steady {α β ε σ : Type} {f : β → α → EStateM ε σ β} {l : List α} {s : σ}
    (h : ∀ b, ∀ a ∈ l, ∃ b', f b a s = .ok b' s) (b : β) : ∃ b', l.foldlM f b s = .ok b' s := by
  induction l generalizing b with
  | nil => exact ⟨b, rfl⟩
  | cons a l ih =>
    obtain ⟨b₁, ha⟩ := h b a (List.mem_cons_self ..)
    obtain ⟨b₂, hl⟩ := ih (fun b a ha => h b a (List.mem_cons_of_mem _ ha)) b₁
    exact ⟨b₂, by rw [List.foldlM_cons, bind_of_ok ha, hl]⟩

theorem exists_children (hnames : ∀ name ∈ documentsNamedIn raw,
      ∃ other, source.loader.resolveKey (some key) name = .ok other) :
    ∃ children, source.children key raw = .ok children := by
  unfold Source.children
  cases hkeys : (documentsNamedIn raw).mapM (source.loader.resolveKey (some key)) with
  | ok keys => exact ⟨_, rfl⟩
  | error e =>
    obtain ⟨name, hname, hfail⟩ := exists_of_mapM_error hkeys
    obtain ⟨other, hother⟩ := hnames name hname
    cases hother.symm.trans hfail

/-- A visit of a document that is complete in the store succeeds and leaves the store as it is, if it
does not come to the documents on the stack. -/
theorem visit_of_complete (h : (source.documentsOf s).Complete key)
    (hstack : ∀ k, ReflTransGen (source.documentsOf s).Sees key k → k ∉ stack) :
    ∃ done', source.visit free stack done key s = .ok done' s := by
  induction h generalizing free stack done with
  | @intro key raw hload hnames hothers ih =>
    by_cases hdone : key ∈ done
    · exact ⟨done, by rw [visit, if_pos hdone]; rfl⟩
    have hraw : source.rawAt key s = .ok raw s := rawAt_of_lookup (Store.load_documents.1 hload)
    by_cases hfree : key ∈ free
    · obtain ⟨children, hchildren⟩ := exists_children hnames
      have hacyclic : ¬ TransGen (source.documentsOf s).Sees key key :=
        Loader.Complete.acyclic (.intro hload hnames hothers)
      have hvisit : ∀ done', ∀ child ∈ children, ∃ done'',
          source.visit (without key free) (stack ++ [key]) done' child s = .ok done'' s := by
        intro done' child hchild
        have hsees := sees_of_mem_children hload hchildren hchild
        refine ih child hsees fun k hk hmem => ?_
        rcases List.mem_append.1 hmem with hmem | hmem
        · exact hstack k (.head hsees hk) hmem
        · rw [List.mem_singleton.1 hmem] at hk
          exact hacyclic (.head' hsees hk)
      obtain ⟨done', hfold⟩ := foldlM_of_steady hvisit done
      refine ⟨key :: done', ?_⟩
      rw [visit, if_neg hdone, dif_pos hfree, bind_of_ok hraw, hchildren]
      exact bind_of_ok hfold
    · rw [visit_of_not_mem hdone hfree (hstack key .refl)]
      exact ⟨done, bind_of_ok hraw⟩

theorem checkGraph_of_complete (h : (source.documentsOf s).Complete key) :
    source.checkGraph known key s = .ok () s := by
  obtain ⟨done, hvisit⟩ := @visit_of_complete source s key known [] [] h fun _ _ => by simp
  unfold checkGraph
  simp only [discard, map_const]
  exact bind_of_ok hvisit

/-! ## Given documents -/

end Source

namespace Loader

variable {loader : Loader} {root key : String} {e : Error}

/-- Every document that the root leads to is there. -/
def Whole (loader : Loader) (root : String) : Prop :=
  ∀ key, ReflTransGen loader.Sees root key → ∃ raw, loader.load key = .ok raw

/-- The root does not lead to a document that leads back to itself. -/
def CircleFree (loader : Loader) (root : String) : Prop :=
  ∀ key, ReflTransGen loader.Sees root key → ¬ TransGen loader.Sees key key

/-- The fault names a circle of documents that the root leads to, from a document back to itself, and
the last document before that. -/
def NamesCircle (loader : Loader) (root : String) (e : Error) : Prop :=
  ∃ first others, loader.Path root (first :: others ++ [first]) ∧
    e = .cyclicReference (others.getLastD first ++ "#")
      (Text.join " -> " (first :: others ++ [first]))

/-- The fault names a document that the root leads to and that is not there. -/
def NamesMissing (loader : Loader) (root : String) (e : Error) : Prop :=
  ∃ key, ReflTransGen loader.Sees root key ∧ loader.load key = .error e ∧
    e = .load key "no such document"

theorem transGen_of_isChain {α : Type} {r : α → α → Prop} {a b : α} {l : List α}
    (h : (a :: l ++ [b]).IsChain r) : TransGen r a b := by
  induction l generalizing a with
  | nil => exact .single (List.isChain_pair.1 h)
  | cons c l ih =>
    obtain ⟨hac, hrest⟩ := List.isChain_cons_cons.1 h
    exact .head hac (ih hrest)

theorem NamesCircle.not_circleFree (h : loader.NamesCircle root e) : ¬ loader.CircleFree root := by
  obtain ⟨first, others, hpath, -⟩ := h
  exact fun hfree => hfree first (hpath.reached first (by simp)) (transGen_of_isChain hpath.links)

theorem NamesMissing.not_whole (h : loader.NamesMissing root e) : ¬ loader.Whole root := by
  obtain ⟨key, hreached, hload, -⟩ := h
  intro hwhole
  obtain ⟨raw, hraw⟩ := hwhole key hreached
  cases hraw.symm.trans hload

theorem Complete.whole (h : loader.Complete root) : loader.Whole root :=
  fun _ hreached => (h.of_reaches hreached).load

theorem Complete.circleFree (h : loader.Complete root) : loader.CircleFree root :=
  fun _ hreached => (h.of_reaches hreached).acyclic

theorem error_of_load_ofDocuments {documents : List (String × Value)}
    (h : (ofDocuments documents).load key = .error e) : e = .load key "no such document" := by
  unfold load at h
  split at h
  · unfold ofDocuments at h
    dsimp only at h
    split at h <;> cases h
    rfl
  · cases h
    rfl

/-- Blame in a part of given documents is blame in all of them. -/
theorem Blames.ofDocuments {documents : List (String × Value)}
    (hwithin : loader.Within (.ofDocuments documents))
    (h : loader.Blames (Loader.ofDocuments documents).load root e) :
    (Loader.ofDocuments documents).NamesCircle root e ∨
      (Loader.ofDocuments documents).NamesMissing root e := by
  have hreaches : ∀ {key}, ReflTransGen loader.Sees root key →
      ReflTransGen (Loader.ofDocuments documents).Sees root key :=
    fun h => ReflTransGen.mono (fun _ _ hsees => Sees.mono hwithin hsees) _ _ h
  cases h with
  | circle hpath => exact .inl ⟨_, _, hpath.mono hwithin, rfl⟩
  | missing hreached hload =>
    exact .inr ⟨_, hreaches hreached, hload, error_of_load_ofDocuments hload⟩
  | unnamed _ _ _ hname =>
    rw [hwithin.resolveKey] at hname
    cases hname

end Loader

namespace Source

variable {source : Source} {s : Store} {keys : List String} {documents : List (String × Value)}

/-- With given documents the check succeeds for a document that only leads to documents which are
there and on no circle, or else names a circle or a document that is not there. -/
theorem checkGraph_ends (hsource : source.loader = .ofDocuments documents)
    (hs : ∀ key raw, s.raws.lookup key = some raw → source.loader.load key = .ok raw)
    (hkeys : ∀ k ∈ source.knownKeys s, k ∈ keys) (key : String) :
    (outcome (source.checkGraph keys key) s = .ok () ∧ source.loader.Complete key) ∨
      ∃ e, outcome (source.checkGraph keys key) s = .error e ∧
        (source.loader.NamesCircle key e ∨ source.loader.NamesMissing key e) := by
  have hloader : ∀ k ∈ source.loader.keys, k ∈ keys :=
    fun k hk => hkeys k (mem_knownKeys_of_mem_keys k hk)
  have hknown : (checking source keys key).inv s :=
    fun k raw hraw => hkeys k (mem_knownKeys_of_lookup hraw)
  have hchecks := checkGraph_checks hloader hknown
  have hloads : (loading fun k raw => source.loader.load k = .ok raw).Runs
      (source.checkGraph keys key) s fun _ _ => True := checkGraph_runs (fun hload => hload) hs
  cases hx : source.checkGraph keys key s with
  | ok u s' =>
    have hwithin := Store.documents_within_loader (hloads.ok hx).1
    exact .inl ⟨outcome_eq_ok.2 ⟨s', hx⟩, (hchecks.ok hx).2.2.mono hwithin⟩
  | error e s' =>
    have hwithin := Store.documents_within_loader (hloads.error hx).1
    have hblames := (hchecks.error hx).2.2
    refine .inr ⟨e, outcome_eq_error.2 ⟨s', hx⟩, ?_⟩
    dsimp only [checking, documentsOf] at hblames
    rw [hsource] at hwithin hblames ⊢
    exact hblames.ofDocuments hwithin

/-- The check of the graph is exact: with given documents, and whatever a store holds of them, it
succeeds if and only if all documents that are reached are there and none is on a circle. If all are
there it names a circle, link by link; if none is on a circle it names one that is not there; and
otherwise it does one of both. -/
theorem checkGraph_exact (hsource : source.loader = .ofDocuments documents)
    (hs : s.Reachable (·.loader = .ofDocuments documents))
    (hkeys : ∀ k ∈ source.knownKeys s, k ∈ keys) (key : String) :
    (outcome (source.checkGraph keys key) s = .ok () ↔
      source.loader.Whole key ∧ source.loader.CircleFree key) ∧
    (source.loader.Whole key → ¬ source.loader.CircleFree key →
      ∃ e, outcome (source.checkGraph keys key) s = .error e ∧ source.loader.NamesCircle key e) ∧
    (source.loader.CircleFree key → ¬ source.loader.Whole key →
      ∃ e, outcome (source.checkGraph keys key) s = .error e ∧ source.loader.NamesMissing key e) ∧
    ∀ e, outcome (source.checkGraph keys key) s = .error e →
      source.loader.NamesCircle key e ∨ source.loader.NamesMissing key e := by
  have hsound : s.Sound (ending (.ofDocuments documents)) :=
    hs.sound (fun source (h : source.loader = _) => h ▸ ending_respects (.ofDocuments documents))
      ⟨_, ending_respects (.ofDocuments documents)⟩
  have hraws : ∀ key raw, s.raws.lookup key = some raw → source.loader.load key = .ok raw := by
    rw [hsource]
    exact hsound.raws
  rcases checkGraph_ends hsource hraws hkeys key with ⟨hok, hcomplete⟩ | ⟨e, herror, hnames⟩
  · rw [hok]
    refine ⟨⟨fun _ => ⟨hcomplete.whole, hcomplete.circleFree⟩, fun _ => rfl⟩,
      fun _ hcircle => absurd hcomplete.circleFree hcircle,
      fun _ hmissing => absurd hcomplete.whole hmissing, fun e h => (by cases h)⟩
  · rw [herror]
    refine ⟨⟨fun h => (by cases h), fun h => ?_⟩, fun hwhole _ => ⟨e, rfl, ?_⟩,
      fun hfree _ => ⟨e, rfl, ?_⟩, fun e' h => ?_⟩
    · exact hnames.elim (fun hcircle => absurd h.2 hcircle.not_circleFree)
        fun hmissing => absurd h.1 hmissing.not_whole
    · exact hnames.resolve_right fun hmissing => hmissing.not_whole hwhole
    · exact hnames.resolve_left fun hcircle => hcircle.not_circleFree hfree
    · cases h
      exact hnames

end Source

namespace Sample

/-- A document whose only type is a type of another document. -/
def borrowing (other : String) : Value :=
  document [("types", .array [.object
    (declaration "node" [("schema", reference (other ++ "#/types/node"))])])]

/-- The source of documents of which one leads to two that borrow from one another, one to a document
that leads nowhere, and one to a document that is not there. -/
def borrowers : Source :=
  ⟨.ofDocuments [("a.json", borrowing "b.json"), ("b.json", borrowing "a.json"),
    ("c.json", borrowing "b.json"), ("d.json", borrowing "e.json"), ("e.json", document []),
    ("f.json", borrowing "g.json")], .none⟩

end Sample

/-- The three ends of the check. A circle is named from the document that was come to first. -/
theorem Source.checkGraph_exact_borrowers :
    Sample.borrowers.loader.NamesCircle "c.json"
      (.cyclicReference "a.json#" "b.json -> a.json -> b.json") ∧
    (Sample.borrowers.loader.Whole "d.json" ∧ Sample.borrowers.loader.CircleFree "d.json") ∧
    Sample.borrowers.loader.NamesMissing "f.json" (.load "g.json" "no such document") := by
  have hexact : ∀ key, _ := @checkGraph_exact Sample.borrowers .empty _ _ rfl .empty fun _ hk => hk
  have hcircle : fault? (Sample.borrowers.checkGraph (Sample.borrowers.knownKeys .empty) "c.json")
      .empty = some (.cyclicReference "a.json#" "b.json -> a.json -> b.json") := by decide +kernel
  have hpasses : (result? (Sample.borrowers.checkGraph (Sample.borrowers.knownKeys .empty) "d.json")
      .empty).isSome := by decide +kernel
  have hmissing : fault? (Sample.borrowers.checkGraph (Sample.borrowers.knownKeys .empty) "f.json")
      .empty = some (.load "g.json" "no such document") := by decide +kernel
  refine ⟨?_, ?_, ?_⟩
  · obtain ⟨s', h⟩ := fault?_eq_some.1 hcircle
    refine ((hexact "c.json").2.2.2 _ (outcome_eq_error.2 ⟨s', h⟩)).resolve_right ?_
    rintro ⟨key, -, -, heq⟩
    cases heq
  · obtain ⟨u, hu⟩ := Option.isSome_iff_exists.1 hpasses
    obtain ⟨s', h⟩ := result?_eq_some.1 hu
    exact (hexact "d.json").1.1 (outcome_eq_ok.2 ⟨s', h⟩)
  · obtain ⟨s', h⟩ := fault?_eq_some.1 hmissing
    refine ((hexact "f.json").2.2.2 _ (outcome_eq_error.2 ⟨s', h⟩)).resolve_left ?_
    rintro ⟨first, others, -, heq⟩
    cases heq

end ServiceContract
