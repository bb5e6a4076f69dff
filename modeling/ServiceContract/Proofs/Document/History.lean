import ServiceContract.Proofs.Document.Comparison
import ServiceContract.Proofs.Document.Wiring

/-!
# History does not matter

A store keeps what was loaded and resolved. Between operations the loader may fail now and then, so
that of the documents that a document leads to some are in the store and others are not. Still an
operation ends as it does on an empty store with a loader that never fails by chance, unless it fails
because a document could not be loaded: whatever the store holds is what would be resolved afresh.
-/

namespace ServiceContract

open Json (Value)
open Relation (ReflTransGen)

/-! ## Interfaces -/

namespace Source

variable {steady : Source} {key : String} {s : Store}

/-- The interface under the key is the one that is resolved afresh, whatever operation asks for it and
whichever documents are being resolved around it that it does not lead to. -/
def Repeats (steady : Source) (key : String) : Prop :=
  ∀ (c : Comparison steady) (free : List String),
    (∀ k ∈ c.known, ReflTransGen steady.loader.Sees key k → k ∈ free) →
    c.likeness.Mirrors (c.source.interfaceAt c.known free key) (always (steady.afresh key))

theorem resolved_of_checkGraph {source : Source} {keys : List String} {u : Unit} {s' : Store}
    (h : source.checkGraph keys key s = .ok u s') : s'.resolved = s.resolved := by
  have hruns : (loading fun _ _ => True).Runs (source.checkGraph keys key) s fun _ _ => True :=
    checkGraph_runs (fun _ => trivial) fun _ _ _ => trivial
  exact (hruns.ok h).2.1.2

/-- The library that a document is resolved with while other documents are being resolved. -/
def libraryAround (source : Source) (keys free : List String) : Library Store where
  resolveKey := source.loader.resolveKey
  interfaceAt := fun key => source.interfaceAt keys free key

variable (hsees : ∀ key raw, steady.loader.load key = .ok raw → SeesAll raw)
  (hchildren : Settled steady.loader key → ∀ other, steady.loader.Sees key other →
    steady.Repeats other)

include hsees hchildren

/-- A document that was checked is resolved from the interfaces that are resolved afresh. -/
theorem resolveDocument_mirrors_afresh {c : Comparison steady} {free : List String} {raw : Value}
    (hsettled : Settled steady.loader key) (hload : steady.loader.load key = .ok raw)
    (hfree : ∀ k ∈ c.known, ReflTransGen steady.loader.Sees key k → k ∈ free) :
    c.likeness.Mirrors
      (resolveDocument c.source.rules (some key)
        (some (c.source.libraryAround c.known (without key free))) raw)
      (always (outcome
        (resolveDocument steady.rules (some key) (some steady.freshLibrary) raw) ())) := by
  have hanswers : Answers c.likeness (some key)
      (some (c.source.libraryAround c.known (without key free)))
      (RawDocument.Names (fun _ => True) raw) steady.afresh := by
    rintro l name other hl hnamed hother hne
    cases hl
    have hlink : steady.loader.Sees key other :=
      ⟨raw, name, hload, hsees key raw hload name hnamed, c.samples.resolveKey ▸ hother,
        fun h => hne (congrArg some h)⟩
    -- The other document does not lead back to this one, which passed the check.
    refine hchildren hsettled other hlink c _ fun k hk hreaches => mem_without.2 ⟨?_, ?_⟩
    · exact hfree k hk (.head hlink hreaches)
    · rintro rfl
      exact not_transGen_of_acc hsettled.acc (.head' hlink hreaches)
  have hlibrary : (c.source.libraryAround c.known (without key free)).answering steady.afresh =
      steady.freshLibrary := by
    unfold Library.answering libraryAround freshLibrary
    rw [c.samples.resolveKey]
  intro s _ hs
  rw [← c.samples.rules, ← hlibrary]
  exact (resolveDocument_mirrors hanswers s () hs).outcome

/-- An interface that is not in the store is resolved from those that are resolved afresh. What is
kept at the end is a parameter, as it is not yet known that this one is the same. -/
theorem interfaceAt_mirrors_resolution {c : Comparison steady} {free : List String}
    {M : Likeness Error Store Unit} (hs : c.Holds s) (hnone : s.resolved.lookup key = none)
    (hfree : ∀ k ∈ c.known, ReflTransGen steady.loader.Sees key k → k ∈ free)
    (hweakens : c.likeness.Weakens M)
    (hput : ∀ {s i}, c.Holds s → steady.resolution key = .ok i →
      M.rel { s with resolved := putEntry key i s.resolved } ()) :
    M.MirrorsFrom (c.source.interfaceAt c.known free key) s (always (steady.resolution key)) () := by
  rw [interfaceAt]
  unfold resolution
  rw [Likeness.always_bind]
  have hcheck : c.likeness.MirrorsFrom (c.source.checkGraph c.known key) s _ () :=
    c.checkGraph_mirrors s () hs
  refine (hcheck.mono hweakens).bind fun _ s₁ _ hx hy _ => .afterGet ?_
  obtain ⟨_, -, hs₁⟩ := hcheck.ok hx
  have hchecked : discard (steady.walk [] [] key) = .ok () := eq_ok_of_always hy
  have hsettled : Settled steady.loader key := by
    obtain ⟨done, hwalk, -⟩ := bind_eq_ok.1 hchecked
    obtain ⟨hthere, hvisited⟩ := walk_settles (by simp) hwalk
    exact hvisited.settled key hthere
  have hmem : key ∈ free := hfree key (hs.mem_known_of_checkGraph hx) .refl
  rw [resolved_of_checkGraph hx, hnone]
  dsimp only
  rw [dif_pos hmem, Likeness.always_bind]
  have hraw : c.likeness.MirrorsFrom (c.source.rawAt key) s₁ _ () := c.rawAt_mirrors s₁ () hs₁
  refine (hraw.mono hweakens).bind fun raw s₂ _ hx₂ hy₂ _ => ?_
  obtain ⟨_, -, hs₂⟩ := hraw.ok hx₂
  have hload : steady.loader.load key = .ok raw := eq_ok_of_always hy₂
  have hresolve := resolveDocument_mirrors_afresh hsees hchildren hsettled hload hfree s₂ () hs₂
  cases hx₃ : resolveDocument c.source.rules (some key)
      (some (c.source.libraryAround c.known (without key free))) raw s₂ with
  | ok i s₃ =>
    obtain ⟨_, hy₃, hs₃⟩ := hresolve.ok hx₃
    refine .of_ok (bind_of_ok hx₃) hy₃ (hput hs₃ ?_)
    unfold resolution
    rw [hchecked, hload]
    exact eq_ok_of_always hy₃
  | error e s₃ =>
    obtain ⟨hs₃, hfault⟩ := hresolve.error hx₃
    exact .of_error (bind_of_error hx₃) (hweakens.inv hs₃) (hfault.imp_left hweakens.excuse)

/-- Resolving afresh is resolving from what is resolved afresh. -/
theorem afresh_eq : steady.afresh key = steady.resolution key := by
  let anyhow : Likeness Error Store Unit :=
    .towards (fun _ => True) (fun _ => True) (Comparison.fresh steady).excuse fun _ => trivial
  have hmirrors : anyhow.MirrorsFrom (steady.interfaceAt steady.loader.keys steady.loader.keys key)
      .empty (always (steady.resolution key)) () :=
    interfaceAt_mirrors_resolution hsees hchildren Comparison.fresh_holds rfl (fun _ hk _ => hk)
      ⟨fun _ => trivial, fun _ => trivial, fun h => h⟩ fun _ _ => trivial
  exact (hmirrors.outcome_eq fun _ _ h => h.1).trans Likeness.outcome_always

/-- The interface is the one that is resolved afresh if those of the documents that it leads to are. -/
theorem repeats_of_children : steady.Repeats key := by
  have hafresh := afresh_eq hsees hchildren
  intro c free hfree s _ hs
  rw [hafresh]
  cases hi : s.resolved.lookup key with
  | none =>
    refine interfaceAt_mirrors_resolution hsees hchildren hs hi hfree .refl ?_
    intro s i hs hnew
    exact
      { current :=
          { raws := hs.current.raws
            resolved := fun _ _ hj =>
              forall_lookup_putEntry hs.current.resolved (hafresh.trans hnew) hj }
        known := hs.known
        attempts := hs.attempts }
  | some i =>
    rw [interfaceAt]
    have hcheck : c.likeness.MirrorsFrom (c.source.checkGraph c.known key) s _ () :=
      c.checkGraph_mirrors s () hs
    cases hx : c.source.checkGraph c.known key s with
    | error e s₁ =>
      obtain ⟨hs₁, hfault⟩ := hcheck.error hx
      refine .of_error (bind_of_error hx) hs₁ (hfault.imp_right ?_)
      rintro ⟨_, hy⟩
      refine ⟨(), ?_⟩
      unfold resolution
      rw [eq_error_of_always hy]
      rfl
    | ok u s₁ =>
      obtain ⟨_, -, hs₁⟩ := hcheck.ok hx
      have hthere : s₁.resolved.lookup key = some i := by rw [resolved_of_checkGraph hx, hi]
      have hsame : steady.resolution key = .ok i :=
        hafresh.symm.trans (hs₁.current.resolved key i hthere)
      rw [hsame]
      refine .of_ok ((bind_of_ok hx).trans ?_) rfl hs₁
      rw [get_bind, hthere]
      rfl

omit hchildren in
/-- Every interface is the one that is resolved afresh. -/
theorem repeats (key : String) : steady.Repeats key := by
  have hacc : ∀ key, Acc (fun other key => steady.loader.Sees key other) key →
      steady.Repeats key := by
    intro key h
    induction h with
    | intro key _ ih => exact repeats_of_children hsees fun _ other hlink => ih other hlink
  exact repeats_of_children hsees fun hsettled other hlink => hacc other (hsettled.acc.inv hlink)

end Source

/-! ## Operations -/

namespace Comparison

variable {steady source : Source} {s : Store}

/-- An operation that starts at a store. -/
def startingAt (hsource : source.Samples steady) (s : Store) : Comparison steady where
  source := source
  known := source.knownKeys s
  before := s.attempts
  mayFail := True
  samples := hsource
  keys := fun _ hk => List.mem_append_left _ hk
  faults := .inl trivial

theorem startingAt_holds {hsource : source.Samples steady} (hs : s.Current steady) :
    (startingAt hsource s).Holds s where
  current := hs
  known _ _ hraw := Source.mem_knownKeys_of_lookup hraw
  attempts := ⟨[], (List.append_nil _).symm, List.nodup_nil, fun _ h => (by cases h)⟩

end Comparison

namespace Source

variable {steady source : Source} {s : Store} {name : String}

/-- The answer to a raw document of a name. -/
theorem raw_mirrors (c : Comparison steady) (name : String) : c.likeness.Mirrors (c.source.raw name)
    (always (steady.loader.resolveKey none name >>= steady.loader.load)) := by
  unfold raw
  rw [c.samples.resolveKey, Likeness.always_bind]
  exact c.ofExcept_mirrors.bind fun key => c.rawAt_mirrors

theorem interface_mirrors (hsees : ∀ key raw, steady.loader.load key = .ok raw → SeesAll raw)
    {c : Comparison steady} (hs : c.Holds s) (hknown : c.known = c.source.knownKeys s)
    (name : String) :
    c.likeness.MirrorsFrom (c.source.interface name) s
      (always (steady.loader.resolveKey none name >>= steady.afresh)) () := by
  unfold interface
  rw [c.samples.resolveKey, Likeness.always_bind]
  refine (c.ofExcept_mirrors s () hs).bind fun key s₁ _ hx _ hs₁ => .afterGet ?_
  have hruns : (loading fun _ _ => True).Runs (ofExcept (steady.loader.resolveKey none name)) s
      fun _ s' => _ ∧ s' = s := ofExcept_runs fun _ _ _ => trivial
  obtain ⟨-, -, -, hsame⟩ := hruns.ok hx
  rw [hsame, ← hknown]
  exact repeats hsees key c c.known (fun k hk _ => hk) s () hs

/-- On an empty store nothing else can happen. -/
theorem outcome_interface (hsees : ∀ key raw, steady.loader.load key = .ok raw → SeesAll raw) :
    outcome (steady.interface name) .empty =
      (steady.loader.resolveKey none name >>= steady.afresh) := by
  have hmirrors : (Comparison.fresh steady).likeness.MirrorsFrom (steady.interface name) .empty
      (always (steady.loader.resolveKey none name >>= steady.afresh)) () :=
    interface_mirrors hsees Comparison.fresh_holds (List.append_nil _).symm name
  exact (hmirrors.outcome_eq fun _ _ h => h.1).trans Likeness.outcome_always

theorem outcome_raw : outcome (steady.raw name) .empty =
    (steady.loader.resolveKey none name >>= steady.loader.load) := by
  have hmirrors := raw_mirrors (Comparison.fresh steady) name .empty () Comparison.fresh_holds
  exact (hmirrors.outcome_eq fun _ _ h => h.1).trans Likeness.outcome_always

end Source

/-- Resolving a raw document of any kind keeps the store current. -/
theorem Resolver.resolve_current {steady : Source} {resolver : Resolver} {raw : Value} {s : Store}
    (hsees : ∀ key raw, steady.loader.load key = .ok raw → SeesAll raw)
    (hsource : ∀ source, resolver.source = some source → source.Samples steady)
    (hs : s.Current steady) : (stateAfter (resolver.resolve raw) s).Current steady := by
  cases hresolver : resolver.source with
  | none =>
    let current : Likeness Error Store Unit :=
      .towards (·.Current steady) (·.Current steady) (fun _ _ => True) fun h => h
    have hanswers : Answers current none (none : Option (Library Store))
        (RawDocument.Names (fun _ => True) raw) steady.afresh := fun _ _ _ hl => by cases hl
    have hmirrors : current.MirrorsFrom (resolveDocument resolver.rules none none raw) s _ () :=
      resolveDocument_mirrors hanswers s () hs
    have hsame : resolver.resolve raw s = resolveDocument resolver.rules none none raw s := by
      unfold resolve
      rw [hresolver]
      rfl
    exact (hmirrors.congr hsame).inv_stateAfter
  | some source =>
    let c := Comparison.startingAt (hsource source hresolver) s
    have hanswers : Answers c.likeness none (some (source.library s))
        (RawDocument.Names (fun _ => True) raw) steady.afresh := by
      rintro l _ other hl _ _ _
      cases hl
      exact Source.repeats hsees other c c.known fun k hk _ => hk
    have hmirrors : c.likeness.MirrorsFrom
        (resolveDocument resolver.rules none (some (source.library s)) raw) s _ () :=
      resolveDocument_mirrors hanswers s () (Comparison.startingAt_holds hs)
    have hsame : resolver.resolve raw s =
        resolveDocument resolver.rules none (some (source.library s)) raw s := by
      unfold resolve
      rw [hresolver]
      rfl
    exact (hmirrors.congr hsame).inv_stateAfter.current

/-! ## Histories -/

/-- From the store, an operation of the source ends as the same one of the steady source does on an
empty store, or it fails with the fault of a document that it could not load. -/
structure EndsAsFresh {α : Type} (operation : Source → Storing α) (source steady : Source)
    (s : Store) : Prop where
  /-- With the same result. -/
  ok : ∀ a s', operation source s = .ok a s' → ∃ s'', operation steady .empty = .ok a s''
  /-- With the same fault. -/
  error : ∀ e s', operation source s = .error e s' →
    source.FailedLoad s.attempts e s' ∨ ∃ s'', operation steady .empty = .error e s''

theorem endsAsFresh_of_mirrors {α : Type} {operation : Source → Storing α} {source steady : Source}
    {s : Store} {hsource : source.Samples steady} {r : Except Error α}
    (h : (Comparison.startingAt hsource s).likeness.MirrorsFrom (operation source) s (always r) ())
    (hfresh : outcome (operation steady) .empty = r) : EndsAsFresh operation source steady s := by
  constructor
  · intro a s' hx
    obtain ⟨_, hy, -⟩ := h.ok hx
    exact outcome_eq_ok.1 (hfresh.trans (eq_ok_of_always hy))
  · intro e s' hx
    rcases (h.error hx).2 with ⟨-, hfailed⟩ | ⟨_, hy⟩
    · exact .inl hfailed
    · exact .inr (outcome_eq_error.1 (hfresh.trans (eq_error_of_always hy)))

/-- What a store holds is current after every history of operations. -/
theorem Store.Reachable.current {steady : Source} {s : Store}
    (hsees : ∀ key raw, steady.loader.load key = .ok raw → SeesAll raw)
    (hs : s.Reachable (·.Samples steady)) : s.Current steady := by
  induction hs with
  | empty => exact ⟨fun _ _ h => (by cases h), fun _ _ h => (by cases h)⟩
  | @raw s source name hsource _ ih =>
    have hmirrors := Source.raw_mirrors (Comparison.startingAt hsource s) name s ()
      (Comparison.startingAt_holds ih)
    exact hmirrors.inv_stateAfter.current
  | @interface s source name hsource _ ih =>
    have hholds : (Comparison.startingAt hsource s).Holds s := Comparison.startingAt_holds ih
    have hmirrors := Source.interface_mirrors hsees hholds rfl name
    exact hmirrors.inv_stateAfter.current
  | resolve raw hsource _ ih => exact Resolver.resolve_current hsees hsource ih

/-- After every history an operation comes out as what the steady source answers. -/
theorem Store.Reachable.mirrors {source steady : Source} {s : Store}
    (hrefs : ∀ key raw, steady.loader.load key = .ok raw → raw.RefsAreTexts)
    (hs : s.Reachable (·.Samples steady)) (hsource : source.Samples steady) (name : String) :
    (Comparison.startingAt hsource s).likeness.MirrorsFrom (source.interface name) s
        (always (steady.loader.resolveKey none name >>= steady.afresh)) () ∧
      (Comparison.startingAt hsource s).likeness.MirrorsFrom (source.raw name) s
        (always (steady.loader.resolveKey none name >>= steady.loader.load)) () := by
  have hsees : ∀ key raw, steady.loader.load key = .ok raw → SeesAll raw :=
    fun key raw hload => seesAll_of_refsAreTexts (hrefs key raw hload)
  have hholds : (Comparison.startingAt hsource s).Holds s :=
    Comparison.startingAt_holds (hs.current hsees)
  exact ⟨Source.interface_mirrors hsees hholds rfl name,
    Source.raw_mirrors (Comparison.startingAt hsource s) name s () hholds⟩

/-- No operation asks for a document twice: what was loaded is kept, and what could not be loaded ends
the operation. So a loader that fails on some attempts is one source for as long as an operation
takes. -/
theorem Store.Reachable.askedOnce {source steady : Source} {s : Store}
    (hrefs : ∀ key raw, steady.loader.load key = .ok raw → raw.RefsAreTexts)
    (hs : s.Reachable (·.Samples steady)) (hsource : source.Samples steady) (name : String) :
    (stateAfter (source.interface name) s).AskedOnce s.attempts ∧
      (stateAfter (source.raw name) s).AskedOnce s.attempts := by
  obtain ⟨hinterface, hraw⟩ := hs.mirrors hrefs hsource name
  exact ⟨hinterface.inv_stateAfter.askedOnce, hraw.inv_stateAfter.askedOnce⟩

/-- History does not matter: whatever a store went through with sources that fail now and then, an
interface or a raw document that is asked for is the one that an empty store and a source that never
fails by chance would give, and so is every fault that is not that of a document which could not be
loaded. In no document of the source there may be anything but a text under `$ref`. -/
theorem Store.Reachable.history_independent {source steady : Source} {s : Store}
    (hrefs : ∀ key raw, steady.loader.load key = .ok raw → raw.RefsAreTexts)
    (hs : s.Reachable (·.Samples steady)) (hsource : source.Samples steady) (name : String) :
    EndsAsFresh (·.interface name) source steady s ∧ EndsAsFresh (·.raw name) source steady s := by
  have hsees : ∀ key raw, steady.loader.load key = .ok raw → SeesAll raw :=
    fun key raw hload => seesAll_of_refsAreTexts (hrefs key raw hload)
  obtain ⟨hinterface, hraw⟩ := hs.mirrors hrefs hsource name
  exact ⟨endsAsFresh_of_mirrors hinterface (Source.outcome_interface hsees),
    endsAsFresh_of_mirrors hraw Source.outcome_raw⟩

namespace Sample

/-- The source of both documents while that of the nodes cannot be loaded. -/
def interrupted : Source := ⟨.ofDocuments [("lists.json", lists)], .none⟩

theorem source_refsAreTexts {key : String} {raw : Value}
    (h : source.loader.load key = .ok raw) : raw.RefsAreTexts := by
  obtain ⟨name, hmem, -⟩ := Loader.mem_of_load_ofDocuments h
  simp only [documents, List.mem_cons, Prod.mk.injEq, List.not_mem_nil, or_false] at hmem
  rcases hmem with ⟨-, rfl⟩ | ⟨-, rfl⟩
  · simp [nodes, document, declaration, reference]
  · simp [lists, listSchema, document, declaration, reference]

theorem interrupted_samples : interrupted.Samples source where
  rules := rfl
  resolveKey := rfl
  load := by
    intro key raw h
    obtain ⟨name, hmem, rfl⟩ := Loader.mem_of_load_ofDocuments h
    cases List.mem_singleton.1 hmem
    have hkey : DocumentKey.normalize none "lists.json" ∈ source.loader.keys := by decide +kernel
    unfold Loader.load
    rw [if_pos hkey]
    rfl

theorem source_samples : source.Samples source := ⟨rfl, rfl, fun h => h⟩

end Sample

/-- After an attempt that failed midway the lists are resolved as on an empty store. -/
theorem Store.Reachable.history_independent_lists :
    ∃ e s i s' s'', Sample.interrupted.interface "lists.json" .empty = .error e s ∧
      Sample.source.interface "lists.json" s = .ok i s' ∧
      Sample.source.interface "lists.json" .empty = .ok i s'' := by
  have hfails : (fault? (Sample.interrupted.interface "lists.json") .empty).isSome := by
    decide +kernel
  obtain ⟨e, he⟩ := Option.isSome_iff_exists.1 hfails
  obtain ⟨s, hfail⟩ := fault?_eq_some.1 he
  have hafter : stateAfter (Sample.interrupted.interface "lists.json") .empty = s := by
    unfold stateAfter
    rw [hfail]
  have hsucceeds : (result? (Sample.source.interface "lists.json")
      (stateAfter (Sample.interrupted.interface "lists.json") .empty)).isSome := by decide +kernel
  rw [hafter] at hsucceeds
  obtain ⟨i, hi⟩ := Option.isSome_iff_exists.1 hsucceeds
  obtain ⟨s', hsucceed⟩ := result?_eq_some.1 hi
  have hreachable : s.Reachable (·.Samples Sample.source) :=
    hafter ▸ .interface "lists.json" Sample.interrupted_samples .empty
  have hends := (hreachable.history_independent (fun _ _ => Sample.source_refsAreTexts)
    Sample.source_samples "lists.json").1
  obtain ⟨s'', hfresh⟩ := hends.ok i s' hsucceed
  exact ⟨e, s, i, s', s'', hfail, hsucceed, hfresh⟩

end ServiceContract
