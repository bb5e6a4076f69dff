import ServiceContract.Proofs.Document.Check
import ServiceContract.Proofs.Document.Rules
import ServiceContract.Proofs.Document.Wiring

/-!
# What the check of the graph refuses

Resolution follows the references in schemas. The check goes through the whole tree before that, and
a literal, an annotation or an unknown keyword may hold something that looks like a reference. Here
the check is left out: a document then has an interface if it can be resolved from the interfaces of
the documents that it follows, which are had in the same way. With the check it has the same one if
all these documents pass, and only then.
-/

namespace ServiceContract

open Json (Value)
open Relation (ReflTransGen TransGen)

namespace Source

variable {source : Source} {good : String → Prop} {key other : String} {raw : Value}
  {i j : Interface} {s : Store} {keys free : List String}

/-! ## Resolution with another check -/

/-- The interface under a key, resolved on first use, with another check in place of that of the
graph. -/
def interfaceAfter (source : Source) (check : (key : String) → Storing Unit) (free : List String)
    (key : String) : Storing Interface := do
  check key
  match (← get).resolved.lookup key with
  | some interface => return interface
  | none =>
    if _free : key ∈ free then
      let raw ← source.rawAt key
      let library : Library Store :=
        { resolveKey := source.loader.resolveKey
          interfaceAt := fun key' => interfaceAfter source check (without key free) key' }
      let interface ← resolveDocument source.rules (some key) (some library) raw
      modify fun store => { store with resolved := putEntry key interface store.resolved }
      return interface
    else throw (.stalled key)
termination_by free.length
decreasing_by exact length_without_lt _free

/-- The interface of a name, without any check. -/
def uncheckedInterface (source : Source) (name : String) : Storing Interface := do
  let key ← ofExcept (source.loader.resolveKey none name)
  source.interfaceAfter (fun _ => pure ()) (source.knownKeys (← get)) key

theorem interfaceAt_eq_interfaceAfter :
    source.interfaceAt keys free key = source.interfaceAfter (source.checkGraph keys) free key := by
  induction hlength : free.length using Nat.strong_induction_on generalizing free key with
  | _ n ih =>
    subst hlength
    rw [interfaceAt, interfaceAfter]
    refine bind_congr fun _ => bind_congr fun store => ?_
    cases store.resolved.lookup key with
    | some i => rfl
    | none =>
      dsimp only
      by_cases hfree : key ∈ free
      · have hlibrary : (fun key' => source.interfaceAt keys (without key free) key') =
            fun key' => source.interfaceAfter (source.checkGraph keys) (without key free) key' :=
          funext fun key' => ih _ (length_without_lt hfree) rfl
        rw [dif_pos hfree, dif_pos hfree, hlibrary]
      · rw [dif_neg hfree, dif_neg hfree]

/-! ## Interfaces without a store -/

/-- What a document is resolved to from interfaces that were found for other documents. -/
def resolvedFrom (source : Source) (found : String → Interface) (key : String) (raw : Value) :
    Except Error Interface :=
  outcome (resolveDocument source.rules (some key)
    (some ⟨source.loader.resolveKey, fun other => pure (found other)⟩) raw) ()

/-- The document has the interface: it is resolved from the interfaces of the documents that it
follows, and they have these in the same way. All of them are good. -/
inductive Yields (source : Source) (good : String → Prop) : (key : String) → Interface → Prop where
  /-- If all documents that it follows have interfaces, so has it. -/
  | intro {key : String} {raw : Value} {i : Interface} (found : String → Interface)
      (hgood : good key) (hload : source.loader.load key = .ok raw)
      (hfound : ∀ other, source.loader.Follows key other → Yields source good other (found other))
      (hresolved : source.resolvedFrom found key raw = .ok i) : Yields source good key i

/-- Only the interfaces of documents that are followed matter. -/
theorem resolvedFrom_congr {found found' : String → Interface}
    (hload : source.loader.load key = .ok raw)
    (h : ∀ other, source.loader.Follows key other → found other = found' other) :
    source.resolvedFrom found key raw = source.resolvedFrom found' key raw := by
  let steady : Likeness Error Unit Unit :=
    .towards (fun _ => True) (fun _ => True) (fun _ _ => False) fun _ => trivial
  have hanswers : Answers steady (some key)
      (some ⟨source.loader.resolveKey, fun other => pure (found other)⟩)
      (RawDocument.Names (fun _ => True) raw) fun other => .ok (found' other) := by
    rintro l name other hl hnamed hother hne
    cases hl
    have hfollows : source.loader.Follows key other :=
      ⟨raw, name, hload, hnamed, hother, fun heq => hne (congrArg some heq)⟩
    have hsame : always (.ok (found' other)) = (pure (found other) : EStateM Error Unit Interface) := by
      rw [← h other hfollows]
      rfl
    show steady.Mirrors (pure (found other)) (always (.ok (found' other)))
    rw [hsame]
    exact .pure
  exact (resolveDocument_mirrors hanswers () () trivial).outcome_eq fun _ _ hfalse => hfalse

namespace Yields

/-- A document has one interface, whatever is asked of the others. -/
theorem unique {good' : String → Prop} (h : source.Yields good key i)
    (h' : source.Yields good' key j) : i = j := by
  induction h generalizing j with
  | intro found _ hload _ hresolved ih =>
    cases h' with
    | intro found' _ hload' hfound' hresolved' =>
      cases hload.symm.trans hload'
      have hsame : ∀ other, source.loader.Follows _ other → found other = found' other :=
        fun other hfollows => ih other hfollows (hfound' other hfollows)
      rw [resolvedFrom_congr hload hsame, hresolved'] at hresolved
      exact (Except.ok.inj hresolved).symm

theorem of_reaches (h : source.Yields good key i)
    (hreaches : ReflTransGen source.loader.Follows key other) : ∃ j, source.Yields good other j := by
  induction hreaches with
  | refl => exact ⟨i, h⟩
  | tail _ hfollows ih =>
    obtain ⟨j, hj⟩ := ih
    cases hj with
    | intro found _ _ hfound _ => exact ⟨_, hfound _ hfollows⟩

theorem isGood (h : source.Yields good key i) : good key := by
  cases h with
  | intro _ hgood => exact hgood

/-- No way comes back. -/
theorem acyclic (h : source.Yields good key i) : ¬ TransGen source.loader.Follows key key := by
  refine not_transGen_of_acc ?_
  induction h with
  | intro _ _ _ _ _ ih => exact ⟨_, ih⟩

/-- One interface can be chosen for each document that has one. -/
theorem exists_found (source : Source) (good : String → Prop) (i : Interface) :
    ∃ found : String → Interface, ∀ key j, source.Yields good key j → found key = j := by
  classical
  refine ⟨fun key => if h : ∃ j, source.Yields good key j then h.choose else i, fun key j hj => ?_⟩
  have hsome : ∃ j, source.Yields good key j := ⟨j, hj⟩
  exact (dif_pos hsome).trans (hsome.choose_spec.unique hj)

end Yields

/-! ## What a store holds -/

/-- The store holds documents of the loader and interfaces that they have. -/
def yielding (source : Source) (good : String → Prop) : Discipline Error Store where
  inv s := (∀ key raw, s.raws.lookup key = some raw → source.loader.load key = .ok raw) ∧
    ∀ key i, s.resolved.lookup key = some i → source.Yields good key i
  le _ _ := True
  fault _ _ := True
  refl _ := trivial
  trans _ _ := trivial

theorem yielding_of_loading {α : Type} {x : Storing α} {Q : α → Store → Prop}
    (hs : (yielding source good).inv s)
    (hx : (loading fun key raw => source.loader.load key = .ok raw).Runs x s Q) :
    (yielding source good).Runs x s fun a s' =>
      (∀ key raw, s'.raws.lookup key = some raw → source.loader.load key = .ok raw) ∧ Q a s' := by
  have hweak : (yielding source good).Runs x s fun a s' =>
      (loading fun key raw => source.loader.load key = .ok raw).le s s' ∧ Q a s' := by
    refine hx.weaken (fun s' hs' hle => ⟨hs', fun k j hj => ?_⟩) (fun _ _ => trivial)
      fun _ _ _ _ => trivial
    rw [hle.2] at hj
    exact hs.2 k j hj
  exact hweak.imp fun a s' hs' _ hQ => ⟨hs'.1, hQ.2⟩

theorem yielding_put (hs : (yielding source good).inv s) (h : source.Yields good key i) :
    (yielding source good).inv { s with resolved := putEntry key i s.resolved } :=
  ⟨hs.1, fun _ _ hj => forall_lookup_putEntry hs.2 h hj⟩

/-- A document is loaded as the loader has it. -/
theorem rawAt_yields (hs : (yielding source good).inv s) :
    (yielding source good).Runs (source.rawAt key) s fun raw _ =>
      source.loader.load key = .ok raw :=
  (yielding_of_loading hs (rawAt_runs (fun hload => hload) hs.1)).imp
    fun raw _ _ _ hraw => hraw.1 key raw hraw.2

theorem rawAt_eq_ok (hs : (yielding source good).inv s) (hload : source.loader.load key = .ok raw) :
    ∃ s', source.rawAt key s = .ok raw s' ∧ (yielding source good).inv s' := by
  cases hraw : s.raws.lookup key with
  | some raw' =>
    cases (hs.1 key raw' hraw).symm.trans hload
    exact ⟨s, rawAt_of_lookup hraw, hs⟩
  | none =>
    exact ⟨_, rawAt_of_load hraw hload, fun _ _ hr => forall_lookup_putEntry hs.1 hload hr, hs.2⟩

/-- A good document is resolved to the interface that it has if the library has those of the documents
that it follows. -/
theorem resolveDocument_yields {ask : String → Storing Interface}
    (hload : source.loader.load key = .ok raw) (hgood : good key)
    (hask : ∀ other s, source.loader.Follows key other → (yielding source good).inv s →
      (yielding source good).Runs (ask other) s fun j _ => source.Yields good other j)
    (hs : (yielding source good).inv s) :
    (yielding source good).Runs
      (resolveDocument source.rules (some key) (some ⟨source.loader.resolveKey, ask⟩) raw) s
      fun i _ => source.Yields good key i := by
  have hfollows : ∀ {name other}, RawDocument.Names (fun _ => True) raw name →
      source.loader.resolveKey (some key) name = .ok other → some other ≠ some key →
      source.loader.Follows key other :=
    fun hnamed hother hne => ⟨raw, _, hload, hnamed, hother, fun heq => hne (congrArg some heq)⟩
  have hreaches : (yielding source good).Runs
      (resolveDocument source.rules (some key) (some ⟨source.loader.resolveKey, ask⟩) raw) s
      fun _ _ => ∀ name, RawDocument.Names (fun _ => True) raw name →
        ∃ other, source.loader.resolveKey (some key) name = .ok other ∧
          (some other ≠ some key → ∃ j, source.Yields good other j) := by
    refine resolveDocument_reaches (D := yielding source good) (fun _ _ _ => trivial)
      (fun _ _ _ _ hj => hj) (fun name other s' hnamed hother hne hs' => ?_) hs
    exact (hask other s' (hfollows hnamed hother hne) hs').imp fun j _ _ _ hj => ⟨j, hj⟩
  unfold Discipline.Runs at hreaches ⊢
  cases hx : resolveDocument source.rules (some key) (some ⟨source.loader.resolveKey, ask⟩) raw s with
  | error e s' =>
    rw [hx] at hreaches
    exact hreaches
  | ok i s' =>
    rw [hx] at hreaches
    obtain ⟨hs', hle, hreached⟩ := hreaches
    refine ⟨hs', hle, ?_⟩
    obtain ⟨found, hfound⟩ := Yields.exists_found source good i
    have hanswers : Answers (yielding source good).likeness (some key)
        (some ⟨source.loader.resolveKey, ask⟩) (RawDocument.Names (fun _ => True) raw)
        fun other => .ok (found other) := by
      rintro l name other hl hnamed hother hne s' _ hs'
      cases hl
      have hruns := hask other s' (hfollows hnamed hother hne) hs'
      exact (hruns.imp fun j _ _ _ hj => (hfound other j hj).symm).mirrors
    obtain ⟨_, hresolved, -⟩ := (resolveDocument_mirrors hanswers s () hs).ok hx
    refine .intro found hgood hload (fun other hother => ?_) (outcome_eq_ok.2 ⟨_, hresolved⟩)
    obtain ⟨raw', name, hload', hnamed, hkey, hne⟩ := hother
    cases hload.symm.trans hload'
    obtain ⟨other', hkey', hthere⟩ := hreached name hnamed
    cases hkey.symm.trans hkey'
    obtain ⟨j, hj⟩ := hthere fun heq => hne (Option.some.inj heq)
    rw [hfound other j hj]
    exact hj

/-- A document that passes the check has its interface, if only good ones pass. -/
theorem interfaceAfter_yields {check : String → Storing Unit}
    (hcheck : ∀ key s, (yielding source good).inv s →
      (yielding source good).Runs (check key) s fun _ _ => good key)
    (hs : (yielding source good).inv s) :
    (yielding source good).Runs (source.interfaceAfter check free key) s fun i _ =>
      source.Yields good key i := by
  induction hlength : free.length using Nat.strong_induction_on generalizing free key s with
  | _ n ih =>
    subst hlength
    rw [interfaceAfter]
    refine (hcheck key s hs).bind fun _ s₁ hs₁ _ hgood => .afterGet ?_
    split
    · next i hi => exact .pure hs₁ (hs₁.2 key i hi)
    · split
      · next hfree =>
        refine (rawAt_yields hs₁).bind fun raw s₂ hs₂ _ hload => ?_
        refine (resolveDocument_yields hload hgood (fun other s' _ hs' =>
          ih _ (length_without_lt hfree) hs' rfl) hs₂).bind fun i s₃ hs₃ _ hi => ?_
        exact .afterModify (yielding_put hs₃ hi) trivial (.pure (yielding_put hs₃ hi) hi)
      · exact .throw hs₁ trivial

/-! ## The check of the graph -/

end Source

namespace Loader

/-- The fault is that of the check of a document that is followed. -/
def Refuses (loader : Loader) (key : String) (e : Error) : Prop :=
  ∃ other, ReflTransGen loader.Follows key other ∧
    (loader.NamesCircle other e ∨ loader.NamesMissing other e)

theorem Refuses.of_follows {loader : Loader} {key other : String} {e : Error}
    (h : loader.Refuses other e) (hfollows : loader.Follows key other) : loader.Refuses key e := by
  obtain ⟨far, hreaches, hnames⟩ := h
  exact ⟨far, .head hfollows hreaches, hnames⟩

end Loader

namespace Source

variable {source : Source} {good : String → Prop} {key other : String} {i : Interface} {s : Store}
  {keys free : List String} {documents : List (String × Value)}

/-- The store holds interfaces of documents that passed the check with all that they follow. -/
abbrev checked (source : Source) : Discipline Error Store := yielding source source.loader.Complete

/-- Nothing else goes wrong than the check of a document that is followed. -/
abbrev refusing (source : Source) (key : String) : Discipline Error Store :=
  source.checked.withFault fun e _ => source.loader.Refuses key e

theorem mem_keys_of_mem_knownKeys {k : String} (hs : (yielding source good).inv s)
    (hk : k ∈ source.knownKeys s) : k ∈ source.loader.keys := by
  rcases List.mem_append.1 hk with hk | hk
  · exact hk
  · cases hraw : s.raws.lookup k with
    | none => exact absurd hk (lookup_eq_none.1 hraw)
    | some raw => exact Loader.mem_keys_of_load (hs.1 k raw hraw)

section Check

variable (hsource : source.loader = .ofDocuments documents)
  (hkeys : ∀ k ∈ source.loader.keys, k ∈ keys) (hs : source.checked.inv s)

include hsource hkeys hs

theorem checkGraph_refuses : (source.refusing key).Runs (source.checkGraph keys key) s fun _ _ =>
    source.loader.Complete key := by
  have hknown : ∀ k ∈ source.knownKeys s, k ∈ keys :=
    fun k hk => hkeys k (mem_keys_of_mem_knownKeys hs hk)
  have hruns : source.checked.Runs (source.checkGraph keys key) s fun _ _ => _ ∧ True :=
    yielding_of_loading hs (checkGraph_runs (fun hload => hload) hs.1)
  have hends := checkGraph_ends hsource hs.1 hknown key
  unfold Discipline.Runs
  unfold outcome at hends
  cases hx : source.checkGraph keys key s with
  | ok u s' =>
    rw [hx] at hends
    rcases hends with ⟨-, hcomplete⟩ | ⟨e, he, -⟩
    · exact ⟨(hruns.ok hx).1, trivial, hcomplete⟩
    · cases he
  | error e s' =>
    rw [hx] at hends
    rcases hends with ⟨hok, -⟩ | ⟨e', he, hnames⟩
    · cases hok
    · cases he
      exact ⟨(hruns.error hx).1, trivial, key, .refl, hnames⟩

/-- An interface that is had was resolved from documents that passed the check. -/
theorem interfaceAt_yields : source.checked.Runs (source.interfaceAt keys free key) s fun i _ =>
    source.Yields source.loader.Complete key i := by
  rw [interfaceAt_eq_interfaceAfter]
  refine interfaceAfter_yields (fun key s hs => ?_) hs
  exact (checkGraph_refuses hsource hkeys hs).withFault fun _ _ _ => trivial

end Check

theorem resolveDocument_refuses {raw : Value} {found : String → Interface}
    {ask : String → Storing Interface} (hload : source.loader.load key = .ok raw)
    (hresolved : source.resolvedFrom found key raw = .ok i)
    (hask : ∀ other s, source.loader.Follows key other → source.checked.inv s →
      (source.refusing other).Runs (ask other) s fun j _ => j = found other)
    (hs : source.checked.inv s) :
    (source.refusing key).Runs
      (resolveDocument source.rules (some key) (some ⟨source.loader.resolveKey, ask⟩) raw) s
      fun j _ => j = i := by
  have hanswers : Answers (source.refusing key).likeness (some key)
      (some ⟨source.loader.resolveKey, ask⟩) (RawDocument.Names (fun _ => True) raw)
      fun other => .ok (found other) := by
    rintro l name other hl hnamed hother hne s' _ hs'
    cases hl
    have hfollows : source.loader.Follows key other :=
      ⟨raw, name, hload, hnamed, hother, fun heq => hne (congrArg some heq)⟩
    have hruns : (source.refusing key).Runs (ask other) s' fun j _ => j = found other :=
      (hask other s' hfollows hs').withFault fun _ _ hrefuses => hrefuses.of_follows hfollows
    exact hruns.mirrors
  have hmirrors : (source.refusing key).likeness.MirrorsFrom
      (resolveDocument source.rules (some key) (some ⟨source.loader.resolveKey, ask⟩) raw) s
      (always (source.resolvedFrom found key raw)) () :=
    (resolveDocument_mirrors hanswers s () hs).outcome
  rw [hresolved] at hmirrors
  exact Discipline.runs_of_mirrors (fun _ => trivial) hmirrors

/-- A document that has an interface without the check has no other one with it, and it is only
refused because a document that it follows does not pass. -/
theorem interfaceAt_refuses (hsource : source.loader = .ofDocuments documents)
    (hkeys : ∀ k ∈ source.loader.keys, k ∈ keys) (h : source.Yields good key i)
    (hheld : ∀ k ∈ keys, k ∉ free → TransGen source.loader.Follows k key)
    (hs : source.checked.inv s) :
    (source.refusing key).Runs (source.interfaceAt keys free key) s fun j _ => j = i := by
  induction h generalizing free s with
  | @intro key raw i found hgood hload hfound hresolved ih =>
    have hyields : source.Yields good key i := .intro found hgood hload hfound hresolved
    rw [interfaceAt]
    refine (checkGraph_refuses hsource hkeys hs).bind fun _ s₁ hs₁ _ hcomplete => .afterGet ?_
    split
    · next j hj => exact .pure hs₁ ((hs₁.2 key j hj).unique hyields)
    · split
      · next hfree =>
        have hraw : (source.refusing key).Runs (source.rawAt key) s₁ fun raw' _ => raw' = raw := by
          obtain ⟨s₂, hx, hs₂⟩ := rawAt_eq_ok hs₁ hload
          unfold Discipline.Runs
          rw [hx]
          exact ⟨hs₂, trivial, rfl⟩
        refine hraw.bind fun raw' s₂ hs₂ _ heq => ?_
        subst heq
        -- The document itself is now among those being resolved.
        have hheld' : ∀ {other}, source.loader.Follows key other →
            ∀ k ∈ keys, k ∉ without key free → TransGen source.loader.Follows k other := by
          intro other hfollows k hk hnot
          by_cases heq : k = key
          · exact heq ▸ .single hfollows
          · exact .tail (hheld k hk fun hmem => hnot (mem_without.2 ⟨hmem, heq⟩)) hfollows
        have hresolve := resolveDocument_refuses hload hresolved
          (fun other s' hfollows hs' => ih other hfollows (hheld' hfollows) hs') hs₂
        refine hresolve.result.bind fun j s₃ hs₃ _ hj => ?_
        obtain ⟨hx, rfl⟩ := hj
        have hnew : source.Yields source.loader.Complete key j :=
          ((resolveDocument_yields hload hcomplete (fun other s' _ hs' =>
            interfaceAt_yields hsource hkeys hs') hs₂).ok hx).2.2
        exact .afterModify (yielding_put hs₃ hnew) trivial (.pure (yielding_put hs₃ hnew) rfl)
      · next hfree =>
        have hkey : key ∈ keys := hkeys key (Loader.mem_keys_of_load hload)
        exact absurd (hheld key hkey hfree) hyields.acyclic

theorem interface_yields (hsource : source.loader = .ofDocuments documents) {name : String}
    (hs : source.checked.inv s) :
    source.checked.Runs (source.interface name) s fun i _ => ∃ key,
      source.loader.resolveKey none name = .ok key ∧ source.Yields source.loader.Complete key i := by
  unfold interface
  have hkey := yielding_of_loading hs
    (ofExcept_runs hs.1 (x := source.loader.resolveKey none name))
  refine hkey.bind fun key s₁ hs₁ _ hresult => .afterGet ?_
  exact (interfaceAt_yields hsource mem_knownKeys_of_mem_keys hs₁).imp
    fun i _ _ _ hi => ⟨key, hresult.2.1, hi⟩

theorem Yields.complete (hsource : source.loader = .ofDocuments documents)
    (h : source.Yields good key i)
    (hshown : ∀ other raw, ReflTransGen source.loader.Follows key other →
      source.loader.load other = .ok raw → ∀ name, raw.Shows name →
        RawDocument.Names (fun _ => True) raw name) : source.loader.Complete key := by
  induction h with
  | @intro key raw i found hgood hload hfound hresolved ih =>
    refine .intro hload (fun name _ => ?_) fun other hsees => ?_
    · rw [hsource]
      exact ⟨_, rfl⟩
    · obtain ⟨raw', name, hload', hname, hother, hne⟩ := hsees
      have hnamed := hshown key raw' .refl hload' name (Value.mem_documentsNamedIn_iff.1 hname)
      have hfollows : source.loader.Follows key other := ⟨raw', name, hload', hnamed, hother, hne⟩
      exact ih other hfollows fun far raw hreaches => hshown far raw (.head hfollows hreaches)

end Source

/-- In the stores that operations of one source lead to, all interfaces come from documents that
passed the check. -/
theorem Store.Reachable.checked {source : Source} {documents : List (String × Value)} {s : Store}
    (hsource : source.loader = .ofDocuments documents) (hs : s.Reachable (· = source)) :
    source.checked.inv s := by
  induction hs with
  | empty => exact ⟨fun _ _ h => (by cases h), fun _ _ h => (by cases h)⟩
  | @raw s source' name heq _ ih =>
    subst heq
    have hraw : source'.checked.Runs (source'.raw name) s fun _ _ => True := by
      unfold Source.raw
      have hkey := Source.yielding_of_loading ih
        (Source.ofExcept_runs ih.1 (x := source'.loader.resolveKey none name))
      refine hkey.bind fun key s₁ hs₁ _ _ => ?_
      exact (Source.rawAt_yields hs₁).imp fun _ _ _ _ _ => trivial
    exact hraw.inv_stateAfter
  | interface name heq _ ih =>
    subst heq
    exact (Source.interface_yields hsource ih).inv_stateAfter
  | @resolve s resolver raw hallowed _ ih =>
    have hruns : source.checked.Runs (resolver.resolve raw) s fun _ _ => True := by
      have hdocument : source.checked.Runs (resolveDocument resolver.rules none
          (resolver.source.map fun source => source.library s) raw) s fun _ _ => True := by
        refine resolveDocument_keeps_library ih (fun _ _ => trivial) fun l key s' hl hs' => ?_
        obtain ⟨source', hresolver, rfl⟩ := Option.map_eq_some_iff.1 hl
        obtain rfl := hallowed source' hresolver
        exact (Source.interfaceAt_yields hsource Source.mem_knownKeys_of_mem_keys hs').imp
          fun _ _ _ _ _ => trivial
      exact hdocument.congr rfl
    exact hruns.inv_stateAfter

/-- What the check of the graph refuses. Suppose that the document of a name has an interface when the
check is left out, so that resolution comes to an end without coming back to a document that is being
resolved. Then it has the same interface with the check, or the check of a document that it follows
finds a circle or a document that is not there; this depends on what looks like a reference anywhere in
these documents. If all that looks like one is a reference that is followed, nothing is refused. -/
theorem Source.interface_of_unchecked (source : Source) (documents : List (String × Value))
    (hsource : source.loader = .ofDocuments documents) (s : Store)
    (hs : s.Reachable (· = source)) (name key : String)
    (hkey : source.loader.resolveKey none name = .ok key) (i : Interface) (s' : Store)
    (h : source.uncheckedInterface name .empty = .ok i s') :
    (outcome (source.interface name) s = .ok i ∨
      ∃ e, outcome (source.interface name) s = .error e ∧ source.loader.Refuses key e) ∧
    (outcome (source.interface name) s = .ok i ↔
      ∀ other, ReflTransGen source.loader.Follows key other →
        source.loader.Whole other ∧ source.loader.CircleFree other) ∧
    ((∀ other raw, ReflTransGen source.loader.Follows key other →
      source.loader.load other = .ok raw → ∀ shown, raw.Shows shown →
        RawDocument.Names (fun _ => True) raw shown) →
      outcome (source.interface name) s = .ok i) := by
  have hinv : source.checked.inv s := hs.checked hsource
  have hyields : source.Yields (fun _ => True) key i := by
    have hempty : (yielding source fun _ => True).inv .empty :=
      ⟨fun _ _ hraw => (by cases hraw), fun _ _ hi => (by cases hi)⟩
    have hruns := @interfaceAfter_yields source (fun _ => True) key .empty
      (source.knownKeys .empty) (fun _ => pure ()) (fun _ s hs => .pure hs trivial) hempty
    unfold uncheckedInterface at h
    rw [hkey] at h
    exact (hruns.ok h).2.2
  have hsame : source.interface name s =
      source.interfaceAt (source.knownKeys s) (source.knownKeys s) key s := by
    unfold interface
    rw [hkey]
    rfl
  have hruns := (interfaceAt_refuses hsource mem_knownKeys_of_mem_keys hyields
    (fun k hk hnot => absurd hk hnot) hinv).congr hsame
  have hends : outcome (source.interface name) s = .ok i ∨
      ∃ e, outcome (source.interface name) s = .error e ∧ source.loader.Refuses key e := by
    cases hx : source.interface name s with
    | ok j s'' =>
      obtain ⟨-, -, rfl⟩ := hruns.ok hx
      exact .inl (outcome_eq_ok.2 ⟨s'', hx⟩)
    | error e s'' => exact .inr ⟨e, outcome_eq_error.2 ⟨s'', hx⟩, (hruns.error hx).2.2⟩
  have hiff : outcome (source.interface name) s = .ok i ↔
      ∀ other, ReflTransGen source.loader.Follows key other →
        source.loader.Whole other ∧ source.loader.CircleFree other := by
    constructor
    · intro hok other hreaches
      obtain ⟨s'', hx⟩ := outcome_eq_ok.1 hok
      obtain ⟨-, -, key', hkey', hchecked⟩ := (interface_yields hsource hinv).ok hx
      cases hkey.symm.trans hkey'
      obtain ⟨j, hj⟩ := hchecked.of_reaches hreaches
      have hcomplete := hj.isGood
      exact ⟨hcomplete.whole, hcomplete.circleFree⟩
    · intro hall
      refine hends.resolve_right ?_
      rintro ⟨e, -, other, hreaches, hcircle | hmissing⟩
      · exact hcircle.not_circleFree (hall other hreaches).2
      · exact hmissing.not_whole (hall other hreaches).1
  refine ⟨hends, hiff, fun hshown => hiff.2 fun other hreaches => ?_⟩
  obtain ⟨j, hj⟩ := hyields.of_reaches hreaches
  have hcomplete : source.loader.Complete other :=
    hj.complete hsource fun far raw hfar => hshown far raw (hreaches.trans hfar)
  exact ⟨hcomplete.whole, hcomplete.circleFree⟩

namespace Sample

/-- A document with a type of integers; one of the examples for it looks like a reference. -/
def annotated : Value :=
  document [("types", .array [.object (declaration "count" [("schema", .object [
    ("type", .string "integer"),
    ("examples", .array [reference "missing.json#/types/count"])])])])]

/-- The source of this document alone. -/
def annotations : Source := ⟨.ofDocuments [("counts.json", annotated)], .none⟩

end Sample

/-- The check refuses a document for one of its examples, though resolution succeeds without it. -/
theorem Source.refuses_annotated :
    (∃ i s', Sample.annotations.uncheckedInterface "counts.json" .empty = .ok i s') ∧
      ∃ s', Sample.annotations.interface "counts.json" .empty =
        .error (.load "missing.json" "no such document") s' := by
  have hunchecked : (result? (Sample.annotations.uncheckedInterface "counts.json") .empty).isSome := by
    decide +kernel
  have hrefused : fault? (Sample.annotations.interface "counts.json") .empty =
      some (.load "missing.json" "no such document") := by decide +kernel
  obtain ⟨i, hi⟩ := Option.isSome_iff_exists.1 hunchecked
  exact ⟨⟨i, result?_eq_some.1 hi⟩, fault?_eq_some.1 hrefused⟩

/-- The lists are resolved with the check to what they are resolved to without it. -/
theorem Source.interface_of_unchecked_lists : ∃ i s',
    Sample.source.uncheckedInterface "lists.json" .empty = .ok i s' ∧
      outcome (Sample.source.interface "lists.json") .empty = .ok i := by
  have hunchecked : (result? (Sample.source.uncheckedInterface "lists.json") .empty).isSome := by
    decide +kernel
  have hpasses : fault? (Sample.source.interface "lists.json") .empty = none := by decide +kernel
  obtain ⟨i, hi⟩ := Option.isSome_iff_exists.1 hunchecked
  obtain ⟨s', h⟩ := result?_eq_some.1 hi
  have hends := (interface_of_unchecked Sample.source Sample.documents rfl .empty .empty "lists.json"
    _ rfl i s' h).1
  refine ⟨i, s', h, hends.resolve_right ?_⟩
  rintro ⟨e, herror, -⟩
  have hfault := fault?_eq_some.2 (outcome_eq_error.1 herror)
  cases hpasses.symm.trans hfault

end ServiceContract
