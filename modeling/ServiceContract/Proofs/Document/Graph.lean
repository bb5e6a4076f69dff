import Mathlib.Logic.Relation
import ServiceContract.Proofs.Document.Links
import ServiceContract.Proofs.Document.Store

/-!
# The document graph

Documents are linked by the references that the check of the graph sees, and by those that
resolution follows. A check that succeeds leaves no way from a document back to itself along the
links that it sees. Resolution goes from document to document along the links that it follows, and
so it can only come back to a document that is being resolved if one of the links on the way round
was hidden from the check. A document that was resolved is on no circle, hidden or not.
-/

namespace ServiceContract

open Json (Value Members)
open Relation (TransGen ReflTransGen)

/-! ## Links -/

namespace Loader

/-- Resolution of the first document may ask for the second one. -/
def Follows (loader : Loader) (document other : String) : Prop :=
  ∃ raw name, loader.load document = .ok raw ∧ RawDocument.Names (fun _ => True) raw name ∧
    loader.resolveKey (some document) name = .ok other ∧ other ≠ document

/-- The check goes from the first document to the second one. -/
def Sees (loader : Loader) (document other : String) : Prop :=
  ∃ raw name, loader.load document = .ok raw ∧ name ∈ documentsNamedIn raw ∧
    loader.resolveKey (some document) name = .ok other ∧ other ≠ document

/-- There is a way from the document back to itself by links that resolution follows, and the check
does not see all of them. -/
def HiddenCircle (loader : Loader) (document : String) : Prop :=
  ∃ here there, ReflTransGen loader.Follows document here ∧ loader.Follows here there ∧
    ¬ loader.Sees here there ∧ ReflTransGen loader.Follows there document

/-- The faults of the loader itself are not that a document is asked for while it is being
resolved. -/
structure NeverStalls (loader : Loader) : Prop where
  /-- Loading a document. -/
  load : ∀ key, ServiceContract.NeverStalls (loader.load key)
  /-- Finding the key of a name. -/
  resolveKey : ∀ origin name, ServiceContract.NeverStalls (loader.resolveKey origin name)

theorem ofDocuments_neverStalls (documents : List (String × Value)) :
    (ofDocuments documents).NeverStalls where
  load key := by
    rw [neverStalls_iff]
    unfold load
    split
    · unfold ofDocuments
      dsimp only
      split
      · exact .ok
      · exact .error (by simp)
    · exact .error (by simp)
  resolveKey _ _ := neverStalls_iff.2 .ok

end Loader

/-- From a document from which all ways end there is no way back. -/
theorem not_transGen_of_acc {α : Type} {r : α → α → Prop} {a : α} (h : Acc (fun b a => r a b) a) :
    ¬ TransGen r a a := by
  induction h with
  | intro a _ ih =>
    intro hcircle
    obtain ⟨b, hab, hba⟩ := TransGen.head'_iff.1 hcircle
    exact ih b hab (.tail' hba hab)

/-- A way by links of one kind is a way by links of another kind, or has a link that is not. -/
theorem transGen_or_exists_not {α : Type} {r t : α → α → Prop} {a c : α} (h : TransGen r a c) :
    TransGen t a c ∨ ∃ b b', ReflTransGen r a b ∧ r b b' ∧ ¬ t b b' ∧ ReflTransGen r b' c := by
  induction h with
  | @single c hac =>
    by_cases ht : t a c
    · exact .inl (.single ht)
    · exact .inr ⟨a, c, .refl, hac, ht, .refl⟩
  | @tail b c hab hbc ih =>
    rcases ih with ih | ⟨d, d', had, hdd', hnot, hd'b⟩
    · by_cases ht : t b c
      · exact .inl (.tail ih ht)
      · exact .inr ⟨b, c, hab.to_reflTransGen, hbc, ht, .refl⟩
    · exact .inr ⟨d, d', had, hdd', hnot, .tail hd'b hbc⟩

/-! ## The check -/

namespace Source

variable {source : Source} {s : Store} {key : String} {keys free stack done : List String}
  {excuse : String → Prop}

/-- The store has documents of the loader, and a document is only found to be asked for while it is
being resolved with an excuse. -/
def stalling (loader : Loader) (excuse : String → Prop) : Discipline Error Store where
  inv s := ∀ key raw, s.raws.lookup key = some raw → loader.load key = .ok raw
  le _ _ := True
  fault e _ := ∀ key, e = .stalled key → excuse key
  refl _ := trivial
  trans _ _ := trivial

/-- All ways from the document by links that the check sees end, and it is a document of the
loader. -/
structure Settled (loader : Loader) (key : String) : Prop where
  /-- The loader has it. -/
  mem : key ∈ loader.keys
  /-- All ways end. -/
  acc : Acc (fun other key => loader.Sees key other) key

/-- The second list of documents has those of the first one, and all that are in it are settled. -/
structure Visited (loader : Loader) (done done' : List String) : Prop where
  /-- None is lost. -/
  kept : ∀ k ∈ done, k ∈ done'
  /-- All are settled. -/
  settled : ∀ k ∈ done', Settled loader k

theorem ofExcept_stalls {α : Type} {loader : Loader} {x : Except Error α}
    (hs : (stalling loader excuse).inv s) (hx : ServiceContract.NeverStalls x) :
    (stalling loader excuse).Runs (ofExcept x) s fun a s' => x = .ok a ∧ s' = s := by
  cases x with
  | ok a => exact .pure hs ⟨rfl, rfl⟩
  | error e => exact .throw hs fun key he => absurd (congrArg _ he) (hx key)

section Check

variable (hloader : source.loader.NeverStalls) (hs : (stalling source.loader excuse).inv s)

include hloader hs

theorem rawAt_stalls : (stalling source.loader excuse).Runs (source.rawAt key) s
    fun raw _ => source.loader.load key = .ok raw := by
  unfold rawAt
  refine .afterGet ?_
  split
  · next raw hraw => exact .pure hs (hs key raw hraw)
  · split
    · next raw hload =>
      have hput : (stalling source.loader excuse).inv
          { s with
            raws := putEntry key raw s.raws
            attempts := s.attempts ++ [⟨key, true⟩] } :=
        fun k r hr => forall_lookup_putEntry hs hload hr
      exact .afterModify hput trivial (.pure hput hload)
    · next e hload =>
      refine .afterModify hs trivial (.throw hs fun k he => ?_)
      rw [he] at hload
      exact absurd hload (hloader.load key k)

omit hs in
theorem children_neverStalls {raw : Value} : ServiceContract.NeverStalls (source.children key raw) :=
  neverStalls_iff.2 <|
    (FailsOnly.mapM fun _ => neverStalls_iff.1 (hloader.resolveKey _ _)).bind fun _ => .ok

omit hloader hs in
theorem mem_children_of_sees {raw : Value} {children : List String} {other : String}
    (hload : source.loader.load key = .ok raw) (h : source.children key raw = .ok children)
    (hsees : source.loader.Sees key other) : other ∈ children := by
  obtain ⟨raw', name, hload', hname, hother, hne⟩ := hsees
  cases hload.symm.trans hload'
  unfold Source.children at h
  obtain ⟨keys, hkeys, hpure⟩ := bind_eq_ok.1 h
  cases hpure
  have hflip : List.Forall₂ (fun k name => source.loader.resolveKey (some key) name = .ok k) keys
      (documentsNamedIn raw) := (mapM_eq_ok.1 hkeys).flip
  obtain ⟨k, hk, hsame⟩ := exists_of_forall₂_right hflip hname
  cases hother.symm.trans hsame
  exact List.mem_filter.2 ⟨mem_nameSet.2 hk, by simpa using hne⟩

omit hloader in
/-- Visits one after another settle all their documents if each settles its own. -/
theorem foldlM_settles {visit : List String → String → Storing (List String)} {children : List String}
    (hdone : ∀ k ∈ done, Settled source.loader k)
    (hvisit : ∀ {done s} child, (stalling source.loader excuse).inv s →
      (∀ k ∈ done, Settled source.loader k) →
      (stalling source.loader excuse).Runs (visit done child) s fun done' _ =>
        child ∈ done' ∧ Visited source.loader done done') :
    (stalling source.loader excuse).Runs (children.foldlM visit done) s fun done' _ =>
      (∀ k ∈ children, k ∈ done') ∧ Visited source.loader done done' := by
  refine Discipline.Runs.foldlM (I := fun before done' _ =>
    (∀ k ∈ before, k ∈ done') ∧ Visited source.loader done done') hs
    ⟨by simp, fun _ hk => hk, hdone⟩ ?_
  rintro before child done' s' - hs' - ⟨hbefore, hvisited⟩
  refine (hvisit child hs' hvisited.settled).imp ?_
  rintro done'' _ _ _ ⟨hchild, hvisited'⟩
  refine ⟨fun k hk => ?_, fun k hk => hvisited'.kept k (hvisited.kept k hk), hvisited'.settled⟩
  rcases List.mem_append.1 hk with hk | hk
  · exact hvisited'.kept k (hbefore k hk)
  · rw [List.mem_singleton.1 hk]
    exact hchild

/-- A visit that succeeds settles the document and keeps those settled that were before. -/
theorem visit_settles (hkeys : ∀ k ∈ source.loader.keys, k ∈ free ∨ k ∈ stack)
    (hdone : ∀ k ∈ done, Settled source.loader k) :
    (stalling source.loader excuse).Runs (source.visit free stack done key) s fun done' _ =>
      key ∈ done' ∧ Visited source.loader done done' := by
  induction hlength : free.length using Nat.strong_induction_on
    generalizing free stack done key s with
  | _ n ih =>
    subst hlength
    rw [visit]
    split
    · next hmem => exact .pure hs ⟨hmem, fun _ hk => hk, hdone⟩
    · split
      · next hfree =>
        refine (rawAt_stalls hloader hs).bind fun raw s₁ hs₁ _ hload => ?_
        refine (ofExcept_stalls hs₁ (children_neverStalls hloader)).bind
          fun children s₂ hs₂ _ hchildren => ?_
        obtain ⟨hresult, rfl⟩ := hchildren
        -- The key is on the stack while its children are visited.
        have hkeys' : ∀ k ∈ source.loader.keys, k ∈ without key free ∨ k ∈ stack ++ [key] := by
          intro k hk
          by_cases heq : k = key
          · exact .inr (by simp [heq])
          · exact (hkeys k hk).imp (fun h => mem_without.2 ⟨h, heq⟩) fun h => List.mem_append_left _ h
        have hfold : (stalling source.loader excuse).Runs (children.foldlM
            (source.visit (without key free) (stack ++ [key])) done) s₂ _ :=
          foldlM_settles hs₂ hdone fun child hs' hdone' =>
            ih _ (length_without_lt hfree) hs' hkeys' hdone' rfl
        refine hfold.bind fun done' s₃ hs₃ _ hvisited => ?_
        obtain ⟨hthere, hvisited⟩ := hvisited
        have hkey : Settled source.loader key := by
          refine ⟨Loader.mem_keys_of_load hload, ⟨_, fun other hsees => ?_⟩⟩
          have hother := hthere other (mem_children_of_sees hload hresult hsees)
          exact (hvisited.settled other hother).acc
        refine .pure hs₃ ⟨List.mem_cons_self .., fun k hk => ?_, ?_⟩
        · exact List.mem_cons_of_mem _ (hvisited.kept k hk)
        · intro k hk
          rcases List.mem_cons.1 hk with rfl | hk
          · exact hkey
          · exact hvisited.settled k hk
      · next hfree =>
        split
        · exact .throw hs fun k he => by simp [documentCycle] at he
        · next hstack =>
          -- Such a key is none of the loader's, and so it cannot be loaded.
          refine Discipline.Runs.bind (Q := fun _ _ => False) ?_ fun _ _ _ _ h => h.elim
          refine (rawAt_stalls hloader hs).map fun raw s₁ _ _ hload => ?_
          rcases hkeys key (Loader.mem_keys_of_load hload) with h | h
          · exact hfree h
          · exact hstack h

theorem checkGraph_settles (hkeys : ∀ k ∈ source.loader.keys, k ∈ keys) :
    (stalling source.loader excuse).Runs (source.checkGraph keys key) s fun _ _ =>
      Settled source.loader key := by
  have hvisit : (stalling source.loader excuse).Runs (source.visit keys [] [] key) s _ :=
    visit_settles hloader hs (fun k hk => .inl (hkeys k hk)) fun k hk => by cases hk
  exact hvisit.map fun done _ _ _ h => h.2.settled key h.1

end Check

/-! ## Resolution -/

section Resolution

variable (hloader : source.loader.NeverStalls)

include hloader

/-- Resolving a document asks only for documents that it leads to. -/
theorem resolveDocument_stalls {ask : String → Storing Interface} {raw : Value}
    (hload : source.loader.load key = .ok raw) (hs : (stalling source.loader excuse).inv s)
    (hask : ∀ {other s}, source.loader.Follows key other → (stalling source.loader excuse).inv s →
      (stalling source.loader excuse).Runs (ask other) s fun _ _ => True) :
    (stalling source.loader excuse).Runs
      (resolveDocument source.rules (some key) (some ⟨source.loader.resolveKey, ask⟩) raw) s
      fun _ _ => True := by
  have hresolves : ∀ outline : Outline, outline.IsOf raw →
      Resolves (stalling source.loader excuse) ⟨some key, outline.types.map Header.name,
          some ⟨source.loader.resolveKey, ask⟩⟩ outline.fragments
        (RawDocument.Names (fun _ => True) raw) (fun _ _ _ => True) (fun _ _ _ _ => True) := by
    intro outline hof
    exact
      { fault := fun e _ _ he k heq => absurd heq (he k)
        key := fun l name e _ hl he _ k heq => by
          cases hl
          exact absurd (heq ▸ he) (hloader.resolveKey (some key) name k)
        library := by
          intro l name other s hl hnamed hother hne hs
          cases hl
          exact hask ⟨raw, name, hload, hnamed, hother, fun h => hne (congrArg some h)⟩ hs
        namesOnly := namesOnly_of_lookup_fragments hof fun _ hname => hname
        linkStable := fun _ _ => trivial
        standsStable := fun _ _ _ => trivial
        form := fun _ _ _ _ => trivial }
  have hruns : (stalling source.loader excuse).Runs
      (resolveDocument source.rules (some key) (some ⟨source.loader.resolveKey, ask⟩) raw) s _ :=
    resolveDocument_runs hs (fun e he k heq => absurd heq (he k)) hresolves
  exact hruns.imp fun _ _ _ _ _ => trivial

/-- Asking for an interface finds a document being resolved only at the end of a circle that is
hidden from the check, if all documents being resolved lead to the one that is asked for. -/
theorem interfaceAt_stalls (hkeys : ∀ k ∈ source.loader.keys, k ∈ keys)
    (hheld : ∀ k ∈ keys, k ∉ free → TransGen source.loader.Follows k key)
    (hs : (stalling source.loader source.loader.HiddenCircle).inv s) :
    (stalling source.loader source.loader.HiddenCircle).Runs (source.interfaceAt keys free key) s
      fun _ _ => True := by
  induction hlength : free.length using Nat.strong_induction_on generalizing free key s with
  | _ n ih =>
    subst hlength
    rw [interfaceAt]
    refine (checkGraph_settles hloader hs hkeys).bind fun _ s₁ hs₁ _ hsettled => .afterGet ?_
    split
    · exact .pure hs₁ trivial
    · split
      · next hfree =>
        refine (rawAt_stalls hloader hs₁).bind fun raw s₂ hs₂ _ hload => ?_
        -- The document itself is now among those being resolved.
        have hheld' : ∀ {other}, source.loader.Follows key other →
            ∀ k ∈ keys, k ∉ without key free → TransGen source.loader.Follows k other := by
          intro other hlink k hk hnot
          by_cases heq : k = key
          · rw [heq]
            exact .single hlink
          · exact .tail (hheld k hk fun h => hnot (mem_without.2 ⟨h, heq⟩)) hlink
        refine (resolveDocument_stalls hloader hload hs₂ fun hlink hs =>
          ih _ (length_without_lt hfree) (hheld' hlink) hs rfl).bind fun i s₃ hs₃ _ _ => ?_
        exact .afterModify hs₃ trivial (.pure hs₃ trivial)
      · next hfree =>
        refine .throw hs₁ fun k heq => ?_
        cases heq
        have hcircle := hheld key (hkeys key hsettled.mem) hfree
        have hseen := not_transGen_of_acc hsettled.acc
        exact (transGen_or_exists_not hcircle).resolve_left hseen

/-- Asking for the interface of a name finds a document being resolved only at the end of a hidden
circle. -/
theorem interface_stalls {name : String}
    (hs : (stalling source.loader source.loader.HiddenCircle).inv s) :
    (stalling source.loader source.loader.HiddenCircle).Runs (source.interface name) s
      fun _ _ => True := by
  unfold interface
  refine (ofExcept_stalls hs (hloader.resolveKey none name)).bind fun key s₁ hs₁ _ _ => .afterGet ?_
  exact interfaceAt_stalls hloader mem_knownKeys_of_mem_keys (fun k hk hnot => absurd hk hnot) hs₁

end Resolution

end Source

/-! ## Documents that were resolved -/

/-- The documents of a loader, with raw schemas from which all ways by references end. -/
def ending (loader : Loader) : Store.Meaning where
  serves key raw := loader.load key = .ok raw
  stands document _ _ _ raw _ := document ≠ none → ∀ text,
    RawSchema.Follows (fun _ => True) raw text →
      Reaches loader.resolveKey document (Acc fun other key => loader.Follows key other) text

/-- All ways from a document end whose interface is in a sound store. -/
theorem acc_of_lookup {loader : Loader} {s : Store} {key : String} {i : Interface}
    (hs : s.Sound (ending loader)) (hi : s.resolved.lookup key = some i) :
    Acc (fun other key => loader.Follows key other) key := by
  obtain ⟨raw, externals, hraw, hstands⟩ := hs.resolved key i hi
  refine ⟨_, fun other hfollows => ?_⟩
  obtain ⟨raw', name, hload, ⟨fragment, rawSchema, hschema, -, text, htext, hname⟩, hother, hne⟩ :=
    hfollows
  cases (hs.raws key raw hraw).symm.trans hload
  obtain ⟨schema, hreaches⟩ := hstands.raws hschema
  obtain ⟨k, hk, hacc⟩ := hreaches (by simp) text htext name hname
  cases hother.symm.trans hk
  exact hacc fun heq => hne (Option.some.inj heq)

/-- Reading a document only comes to documents that were resolved before. -/
theorem ending_respects (loader : Loader) : (ending loader).Respects loader where
  loads h := h
  stable _ _ _ h := h
  form := by
    intro document rawDocument outline library s externals raw schema _ _ hkeys halone hs hlinked
      hform _ hdocument text hfollows
    obtain ⟨l, rfl⟩ := Option.ne_none_iff_exists'.1 fun h => hdocument (halone h)
    rw [← hkeys l rfl]
    refine hform.of_follows (fun href => ?_) (fun hpart => hkeys l rfl ▸ hpart hdocument) hfollows
    exact href.reaches rfl fun key i hi => acc_of_lookup hs (hlinked key i hi).2

/-! ## What the check misses -/

/-- Some references are hidden from the check by fragments and properties called `$ref`: exactly those
below them whose documents are not shown elsewhere. Resolution asks for no other documents than
references name which it may follow, and for all of these if it succeeds. Hence it only comes back to
a document that is being resolved by a circle with a link that was hidden from the check, and not at
all if nothing is hidden; and it never succeeds for a document on a circle. -/
theorem Source.stalls_only_by_hidden_links {σ : Type} (rules : IdentifierRules)
    (document : Option String) (library : Library σ) (raw : Value) (s : σ)
    (documents : List (String × Value)) :
    (SeesAll raw ↔ ∀ name, RawDocument.Names (fun _ => True) raw name →
      ¬ RawDocument.Names (· ≠ "$ref") raw name → raw.Shows name) ∧
    (∀ key ∈ (stateAfter (resolveDocument rules document (some library.recording) raw) (s, [])).2,
      MayAsk library document raw key) ∧
    (∀ i s', resolveDocument rules document (some library.recording) raw (s, []) = .ok i s' →
      ∀ name, RawDocument.Names (fun _ => True) raw name →
        ∃ key, library.resolveKey document name = .ok key ∧ (some key ≠ document → key ∈ s'.2)) ∧
    ∀ (source : Source) (store : Store) (name : String), source.loader = .ofDocuments documents →
      store.Reachable (fun source => source.loader = .ofDocuments documents) →
      (∀ key store', source.interface name store = .error (.stalled key) store' →
        source.loader.HiddenCircle key) ∧
      ((∀ key raw, source.loader.load key = .ok raw → SeesAll raw) →
        ∀ key store', source.interface name store ≠ .error (.stalled key) store') ∧
      ∀ key i store', source.interface name store = .ok i store' →
        source.loader.resolveKey none name = .ok key → ¬ TransGen source.loader.Follows key key := by
  refine ⟨seesAll_iff, recording_runs.inv_stateAfter, fun i s' h => (recording_runs.ok h).2.2, ?_⟩
  intro source store name hsource hreachable
  have hrespects := ending_respects (.ofDocuments documents)
  have hsound : store.Sound (ending (.ofDocuments documents)) :=
    hreachable.sound (fun source (hsource : source.loader = _) => hsource ▸ hrespects)
      ⟨_, hrespects⟩
  rw [← hsource] at hsound hrespects
  have hloader : source.loader.NeverStalls := hsource ▸ Loader.ofDocuments_neverStalls documents
  have hhidden : ∀ key store', source.interface name store = .error (.stalled key) store' →
      source.loader.HiddenCircle key :=
    fun key store' h => ((source.interface_stalls hloader hsound.raws).error h).2.2 key rfl
  refine ⟨hhidden, fun hall key store' h => ?_, fun key i store' h hkey => ?_⟩
  · obtain ⟨here, there, -, ⟨raw, name, hload, hname, hthere, hne⟩, hunseen, -⟩ := hhidden key store' h
    exact hunseen ⟨raw, name, hload, hall here raw hload name hname, hthere, hne⟩
  · obtain ⟨hsound', -, key', hkey', hi⟩ := (Source.interface_runs hrespects hsound).ok h
    cases hkey.symm.trans hkey'
    exact not_transGen_of_acc (acc_of_lookup hsound' hi)

namespace Sample

/-- A document whose only type has a property called `$ref`, which is of the type of another
document. -/
def hider (other : String) : Value :=
  document [("types", .array [.object (declaration "node" [("schema", .object [
    ("type", .string "object"),
    ("properties", .object [("$ref", reference (other ++ "#/types/node"))])])])])]

/-- The source of two such documents that refer to one another. -/
def circle : Source :=
  ⟨.ofDocuments [("a.json", hider "b.json"), ("b.json", hider "a.json")], .none⟩

theorem circle_stalls : ∃ s', circle.interface "a.json" .empty = .error (.stalled "a.json") s' :=
  fault?_eq_some.1 (by decide +kernel)

end Sample

/-- A property called `$ref` hides a reference from the check, and by two of them resolution comes
back to a document that is being resolved. -/
theorem Source.misses_hidden_links : ¬ SeesAll (Sample.hider "b.json") ∧
    ∃ s', Sample.circle.interface "a.json" .empty = .error (.stalled "a.json") s' := by
  refine ⟨fun h => ?_, Sample.circle_stalls⟩
  have hfollows : RawSchema.Follows (fun _ => True) (.object [("type", .string "object"),
      ("properties", .object [("$ref", Sample.reference "b.json#/types/node")])])
      "b.json#/types/node" :=
    .part (.property (.named rfl rfl) (List.mem_singleton.2 rfl)) (fun _ _ => trivial)
      (.here rfl rfl)
  have hnames : RawDocument.Names (fun _ => True) (Sample.hider "b.json") "b.json" :=
    ⟨none, _, .type (List.mem_singleton.2 rfl) rfl, fun _ _ => trivial, _, hfollows, by decide +kernel⟩
  exact absurd (h _ hnames) (by decide +kernel)

/-- The circle of these two documents is hidden from the check. -/
theorem Source.stalls_by_hidden_links : Sample.circle.loader.HiddenCircle "a.json" := by
  obtain ⟨s', h⟩ := Sample.circle_stalls
  have hstalls := (Source.stalls_only_by_hidden_links .none none (Sample.circle.library .empty)
    (Sample.hider "b.json") .empty [("a.json", Sample.hider "b.json"),
      ("b.json", Sample.hider "a.json")]).2.2.2 Sample.circle .empty "a.json" rfl .empty
  exact hstalls.1 "a.json" s' h

end ServiceContract
