import ServiceContract.Proofs.Document.Keeping
import ServiceContract.Proofs.Document.Stack

/-!
# Circles of fragments that are reported

Resolution reports a circle of fragments when a fragment is asked for that is being resolved. The
fragments that are being resolved lead from one to the next: reading each follows a reference that
denotes the next one. So every arrow of a circle that is reported is there, and the last one leads
back to the first fragment.

Other circles that are reported are circles of types or of documents, and a document may fail because
another one does, on which it depends: then the circle is one of the fragments there.
-/

namespace ServiceContract

open Json (Value Members)
open RawSchema (Follows)
open Relation (TransGen)

variable {σ : Type}

/-! ## Faults of outlines -/

section Frame

variable {D : Discipline Error (Progress σ)} {p : Progress σ} {fragments : Members}
  (hflaw : ∀ e p, D.inv p → e.IsEndless → D.fault e p)

namespace Surroundings

variable {here : Surroundings σ}

include hflaw

theorem ofExcept_keeps {α : Type} {x : Except Error α} (hp : D.inv p)
    (hx : FailsOnly Error.IsEndless x) : D.Runs (Resolving.ofExcept x) p fun _ _ => True := by
  cases x with
  | ok a => exact .pure hp trivial
  | error e => exact .throw hp (hflaw e p hp (hx e rfl))

variable (hschema : ∀ raw path p, D.inv p →
  D.Runs (here.schemaAt fragments raw path) p fun _ _ => True)

include hschema

theorem declaredSchema_keeps {raw : Members} {path : String} (hp : D.inv p) :
    D.Runs (here.declaredSchema fragments raw path) p fun _ _ => True :=
  (ofExcept_keeps hflaw hp (Outline.requiredMember_flaws.imp fun _ => .inl)).bind
    fun rawSchema p₁ hp₁ _ _ => hschema rawSchema path p₁ hp₁

theorem namedType_keeps {header : Header} (hp : D.inv p) :
    D.Runs (here.namedType fragments header) p fun _ _ => True :=
  (declaredSchema_keeps hflaw hschema hp).map fun _ _ _ _ _ => trivial

theorem argument_keeps {function : String} {header : Header} (hp : D.inv p) :
    D.Runs (here.argument fragments function header) p fun _ _ => True :=
  (declaredSchema_keeps hflaw hschema hp).map fun _ _ _ _ _ => trivial

theorem message_keeps {header : Header} (hp : D.inv p) :
    D.Runs (here.message fragments header) p fun _ _ => True :=
  (declaredSchema_keeps hflaw hschema hp).map fun _ _ _ _ _ => trivial

theorem returns_keeps {header : Header} (hp : D.inv p) :
    D.Runs (here.returns fragments header) p fun _ _ => True := by
  unfold returns
  dsimp only
  split
  · exact .pure hp trivial
  · next members _ =>
    refine (ofExcept_keeps hflaw hp (Outline.descriptionMember_flaws.imp fun _ => .inl)).bind
      fun _ p₁ hp₁ _ _ => ?_
    exact (declaredSchema_keeps hflaw hschema hp₁).map fun _ _ _ _ _ => trivial
  · exact .throw hp (hflaw _ p hp (.inl trivial))

theorem function_keeps {f : FunctionHeader} (hp : D.inv p) :
    D.Runs (here.function fragments f) p fun _ _ => True := by
  unfold function
  refine (Discipline.Runs.mapM_keeps hp fun _ _ hp' => argument_keeps hflaw hschema hp').bind
    fun _ p₁ hp₁ _ _ => ?_
  exact (returns_keeps hflaw hschema hp₁).map fun _ _ _ _ _ => trivial

end Surroundings

open Surroundings in
include hflaw in
/-- Resolving an outline keeps what resolving raw schemas and fragments keeps, if flaws and circles of
types may be reported. -/
theorem Outline.resolve_keeps {outline : Outline} {document : Option String}
    {library : Option (Library σ)}
    (hschema : ∀ raw path p, D.inv p →
      D.Runs ((Surroundings.mk document (outline.types.map Header.name) library).schemaAt
        outline.fragments raw path) p fun _ _ => True)
    (hfragment : ∀ key location p, D.inv p →
      D.Runs ((Surroundings.mk document (outline.types.map Header.name) library).fragment
        outline.fragments [] key location) p fun _ _ => True) (hp : D.inv p) :
    D.Runs (outline.resolve document library) p fun _ _ => True := by
  unfold Outline.resolve
  refine (Discipline.Runs.mapM_keeps hp fun _ _ hp' => namedType_keeps hflaw hschema hp').bind
    fun types p₁ hp₁ _ _ => ?_
  refine (Discipline.Runs.mapM_keeps hp₁ fun _ _ hp' => function_keeps hflaw hschema hp').bind
    fun functions p₂ hp₂ _ _ => ?_
  refine (Discipline.Runs.mapM_keeps hp₂ fun _ _ hp' => message_keeps hflaw hschema hp').bind
    fun messages p₃ hp₃ _ _ => ?_
  have hfragments := Discipline.Runs.forM (l := outline.fragments)
    (f := fun (entry : String × Value) => discard ((Surroundings.mk document
        (outline.types.map Header.name) library).fragment outline.fragments [] entry.1
      (locate document ("/schemas/" ++ entry.1)))) (Q := fun _ _ => True) hp₃
    (fun _ h => h) fun entry _ p' hp' _ => (hfragment _ _ p' hp').map fun _ _ _ _ _ => trivial
  refine hfragments.bind fun _ p₄ hp₄ _ _ => ?_
  refine (ofExcept_keeps hflaw hp₄ checkInhabited_isEndless).bind fun _ p₅ hp₅ _ _ => ?_
  exact .afterGet (.pure hp₅ trivial)

end Frame

/-! ## Circles of fragments -/

/-- The text is a chain of fragments each of which leads to the next one, from one fragment back to
it. -/
def IsCircle (leads : (key key' : String) → Prop) (cycle : String) : Prop :=
  ∃ first others, (first :: others ++ [first]).IsChain leads ∧
    cycle = Text.join " -> " ((first :: others ++ [first]).map fun key => "#/schemas/" ++ key)

/-- If the fault is a circle over fragments, it is of this kind. -/
def Error.OverFragmentsOnly (e : Error) (circle : (cycle : String) → Prop) : Prop :=
  ∀ location cycle, e = .cyclicReference location cycle →
    "#/schemas/".toList <+: cycle.toList → circle cycle

theorem Text.prefix_join {separator first : String} {rest : List String} :
    first.toList <+: (Text.join separator (first :: rest)).toList := by
  cases rest with
  | nil => exact List.prefix_rfl
  | cons second rest =>
    unfold Text.join
    rw [String.toList_append, String.toList_append, List.append_assoc]
    exact List.prefix_append ..

/-- Flaws and circles of types are no circles over fragments. -/
theorem Error.IsEndless.overFragmentsOnly {e : Error} {circle : String → Prop} (h : e.IsEndless) :
    e.OverFragmentsOnly circle := by
  rintro location cycle rfl hbegins
  rcases h with hflaw | ⟨_, first, rest, heq⟩
  · exact hflaw.elim
  · cases heq
    rw [String.toList_append] at hbegins
    have htypes : "#/types/".toList <+: (Text.join " -> "
        ((first :: rest).map fun name => "#/types/" ++ name)).toList ++ " (no finite value)".toList := by
      have hfirst : "#/types/".toList <+: ("#/types/" ++ first).toList := by
        rw [String.toList_append]
        exact List.prefix_append ..
      exact (hfirst.trans Text.prefix_join).trans (List.prefix_append ..)
    have hcompare := List.prefix_of_prefix_length_le htypes hbegins (by decide)
    exact absurd hcompare (by decide)

/-- A fragment that is being resolved closes the chain of those that are. -/
theorem isCircle_of_isChain {leads : String → String → Prop} {stack : List String} {key : String}
    (hmem : key ∈ stack) (hchain : (stack ++ [key]).IsChain leads) :
    IsCircle leads (Text.join " -> "
      ((stack.dropWhile (· ≠ key) ++ [key]).map fun k => "#/schemas/" ++ k)) := by
  obtain ⟨before, others, rfl, hcircle⟩ := Source.exists_circle_of_mem hmem
  have hsuffix : key :: others ++ [key] <:+ before ++ key :: others ++ [key] :=
    ⟨before, by simp⟩
  rw [hcircle]
  exact ⟨key, others, hchain.suffix hsuffix, rfl⟩

/-- What a library needs so that circles which are reported over fragments are there. -/
structure Tells (L : Discipline Error σ) (here : Surroundings σ) (fragments : Members) : Prop where
  /-- Every fault may occur that is no circle over fragments, or one that is there. -/
  fault : ∀ e s, L.inv s → e.OverFragmentsOnly (IsCircle (here.Leads fragments)) → L.fault e s
  /-- So may the faults of names. -/
  key : ∀ library name e s, here.library = some library →
    library.resolveKey here.document name = .error e → L.inv s → L.fault e s
  /-- The library keeps the discipline. -/
  library : ∀ library key s, here.library = some library → L.inv s →
    L.Runs (library.interfaceAt key) s fun _ _ => True

/-- What the library keeps, while a document is resolved. -/
def Discipline.onLibrary (L : Discipline Error σ) : Discipline Error (Progress σ) where
  inv p := L.inv p.library
  le p p' := L.le p.library p'.library
  fault e p := L.fault e p.library
  refl _ := L.refl _
  trans := L.trans

namespace Tells

variable {L : Discipline Error σ} {here : Surroundings σ} {fragments : Members} {p : Progress σ}
  {location : String} (h : Tells L here fragments)

include h

/-- An unresolved reference, for one, is no circle. -/
theorem throw_runs {α : Type} {e : Error} {Q : α → Progress σ → Prop} (hp : L.inv p.library)
    (he : ∀ location cycle, e ≠ .cyclicReference location cycle) : L.onLibrary.Runs (throw e) p Q :=
  .throw hp (h.fault e p.library hp fun location cycle heq => absurd heq (he location cycle))

theorem external_runs {document : String} (hp : L.inv p.library) :
    L.onLibrary.Runs (here.external document location) p fun _ _ => True := by
  unfold Surroundings.external
  refine .afterGet ?_
  split
  · exact .pure hp trivial
  · split
    · exact h.throw_runs hp (by simp)
    next library hlibrary =>
    have hasked : L.onLibrary.Runs (Resolving.inLibrary (library.interfaceAt document)) p _ :=
      (h.library library document _ hlibrary hp).inLibrary (fun _ hs hle => ⟨hs, hle⟩) fun _ _ he => he
    refine hasked.bind fun i p₁ hp₁ _ _ => ?_
    exact .afterModify hp₁ (L.refl _) (.pure hp₁ trivial)

theorem documentKey_runs {r : Reference} (hp : L.inv p.library) :
    L.onLibrary.Runs (Resolving.ofExcept (here.documentKey r)) p fun document _ =>
      here.documentKey r = .ok document := by
  cases hkey : here.documentKey r with
  | ok document => exact .pure hp rfl
  | error e =>
    refine .throw hp ?_
    unfold Surroundings.documentKey at hkey
    split at hkey
    · next name library _ hlibrary =>
      cases hname : library.resolveKey here.document name with
      | ok key =>
        rw [hname] at hkey
        cases hkey
      | error e' =>
        rw [hname] at hkey
        cases hkey
        exact h.key library name e p.library hlibrary hname hp
    · cases hkey
    · cases hkey

/-- A reference asks for no fragment but the one that it denotes. -/
theorem resolveReference_runs {fragment : (key location : String) → Resolving σ Schema}
    {text : String} (hp : L.inv p.library)
    (hfragment : ∀ key location p, here.DenotesOwn text key → L.inv p.library →
      L.onLibrary.Runs (fragment key location) p fun _ _ => True) :
    L.onLibrary.Runs (here.resolveReference fragment text location) p fun _ _ => True := by
  unfold Surroundings.resolveReference
  split
  · exact h.throw_runs hp (by simp)
  · next r hread =>
    refine (h.documentKey_runs hp).bind fun document p₁ hp₁ _ hkey => ?_
    split
    · next hnone =>
      have hown : document = none ∨ document = here.document := by
        by_cases hsame : document = here.document
        · exact .inr hsame
        · exact .inl (by simpa [hsame] using hnone)
      split
      · next name htarget =>
        by_cases hname : name ∈ here.typeNames
        · rw [if_pos hname]
          exact .pure hp₁ trivial
        · rw [if_neg hname]
          exact h.throw_runs hp₁ (by simp)
      · next key htarget =>
        exact hfragment key location p₁ ⟨r, document, hread, hkey, hown, htarget⟩ hp₁
    · refine (h.external_runs hp₁).bind fun i p₂ hp₂ _ _ => ?_
      split
      · split
        · exact .pure hp₂ trivial
        · exact h.throw_runs hp₂ (by simp)
      · split
        · exact .pure hp₂ trivial
        · exact h.throw_runs hp₂ (by simp)

/-- Reading a raw schema asks for no fragments but those that it leads to. -/
theorem ofValue_runs {fragment : (key location : String) → Resolving σ Schema} {raw : Value}
    (hp : L.inv p.library)
    (hfragment : ∀ text key location p, Follows (fun _ => True) raw text → here.DenotesOwn text key →
      L.inv p.library → L.onLibrary.Runs (fragment key location) p fun _ _ => True) :
    L.onLibrary.Runs (Schema.ofValue (here.resolveReference fragment) raw location) p
      fun _ _ => True := by
  have hkeeps : Schema.Keeps L.onLibrary (Follows (fun _ => True) raw)
      (here.resolveReference fragment) (fun _ _ _ => True) (fun _ _ _ => True) :=
    { fault := fun _ _ p hp => h.fault _ _ hp (by simp [Error.OverFragmentsOnly])
      refs := fun text _ p hfollows hp => h.resolveReference_runs hp fun key location p hdenotes hp =>
        hfragment text key location p hfollows hdenotes hp
      stable := fun _ _ => trivial
      form := fun _ _ _ => trivial }
  exact Schema.ofValue_runs hkeeps raw (fun _ hfollows => hfollows) location p hp

/-- The fragments that are being resolved lead from one to the next, and the last one to the fragment
that is asked for. -/
theorem fragment_runs {free : Members} {stack : List String} {key : String} (hp : L.inv p.library)
    (hfree : ∀ key raw, free.lookup key = some raw → fragments.lookup key = some raw)
    (hchain : (stack ++ [key]).IsChain (here.Leads fragments)) :
    L.onLibrary.Runs (here.fragment free stack key location) p fun _ _ => True := by
  induction hlength : free.length using Nat.strong_induction_on
    generalizing free stack key location p with
  | _ n ih =>
    subst hlength
    rw [Surroundings.fragment]
    refine .afterGet ?_
    split
    · exact .pure hp trivial
    · split
      · next raw hraw =>
        refine (h.ofValue_runs hp fun text key' location p hfollows hdenotes hp => ?_).bind
          fun schema p₁ hp₁ _ _ => .afterModify hp₁ (L.refl _) (.pure hp₁ trivial)
        have hleads : here.Leads fragments key key' :=
          ⟨raw, text, hfree key raw hraw, hfollows, hdenotes⟩
        have hlonger : (stack ++ [key] ++ [key']).IsChain (here.Leads fragments) :=
          hchain.append_overlap (List.isChain_pair.2 hleads) (List.cons_ne_nil _ _)
        exact ih _ (length_withoutKey_lt hraw) hp
          (fun k r hk => hfree k r (lookup_of_lookup_withoutKey hk)) hlonger rfl
      · by_cases hstack : key ∈ stack
        · rw [if_pos hstack]
          refine .throw hp (h.fault _ _ hp ?_)
          rintro _ cycle heq -
          cases heq
          exact isCircle_of_isChain hstack hchain
        · rw [if_neg hstack]
          exact h.throw_runs hp (by simp)

end Tells

/-- If resolving a document reports a circle over its fragments, then it is there. -/
theorem resolveDocument_tells {L : Discipline Error σ} {rules : IdentifierRules}
    {document : Option String} {library : Option (Library σ)} {raw : Value} {s : σ} (hs : L.inv s)
    (hfault : ∀ e s, L.inv s →
      e.OverFragmentsOnly (IsCircle (RawDocument.Leads document library raw)) → L.fault e s)
    (hkey : ∀ l name e s, library = some l → l.resolveKey document name = .error e → L.inv s →
      L.fault e s)
    (hlibrary : ∀ l key s, library = some l → L.inv s →
      L.Runs (l.interfaceAt key) s fun _ _ => True) :
    L.Runs (resolveDocument rules document library raw) s fun _ _ => True := by
  unfold Discipline.Runs resolveDocument
  cases houtline : Outline.ofValue rules document raw with
  | error e =>
    have hflaw : e.IsEndless := .inl (Outline.ofValue_flaws e houtline)
    exact ⟨hs, L.refl s, hfault e s hs hflaw.overFragmentsOnly⟩
  | ok outline =>
    have hof := Outline.isOf_of_ofValue houtline
    have hleads : RawDocument.Leads document library raw =
        (Surroundings.mk document (outline.types.map Header.name) library).Leads outline.fragments :=
      RawDocument.leads_eq hof
    have htells : Tells L ⟨document, outline.types.map Header.name, library⟩ outline.fragments :=
      ⟨hleads ▸ hfault, hkey, hlibrary⟩
    have hflaw : ∀ e p, L.onLibrary.inv p → e.IsEndless → L.onLibrary.fault e p :=
      fun e p hp he => htells.fault e p.library hp he.overFragmentsOnly
    have hfragment : ∀ key location p, L.onLibrary.inv p → L.onLibrary.Runs
        ((Surroundings.mk document (outline.types.map Header.name) library).fragment
          outline.fragments [] key location) p fun _ _ => True :=
      fun key location p hp => htells.fragment_runs hp (fun _ _ hraw => hraw) (List.isChain_singleton _)
    have hruns : L.onLibrary.Runs (outline.resolve document library) ⟨[], [], s⟩ fun _ _ => True :=
      Outline.resolve_keeps hflaw
        (fun raw path p hp => htells.ofValue_runs hp fun _ key location p _ _ hp =>
          hfragment key location p hp) hfragment hs
    dsimp only
    cases hresolve : outline.resolve document library ⟨[], [], s⟩ with
    | error e p => exact hruns.error hresolve
    | ok i p => exact hruns.ok hresolve

/-! ## Documents of a store -/

/-- What a fragment leads to does not depend on the interfaces of a library. -/
theorem RawDocument.leads_congr {τ : Type} {document : Option String} {library : Library σ}
    {library' : Library τ} {raw : Value} (h : library.resolveKey = library'.resolveKey) :
    RawDocument.Leads document (some library) raw = RawDocument.Leads document (some library') raw := by
  have hkey : ∀ r, (Surroundings.mk document [] (some library)).documentKey r =
      (Surroundings.mk document [] (some library')).documentKey r := by
    intro r
    unfold Surroundings.documentKey
    cases r.document with
    | none => rfl
    | some name =>
      dsimp only
      rw [h]
  funext key key'
  unfold Leads Surroundings.Leads Surroundings.DenotesOwn
  simp only [hkey]

namespace Source

variable {source : Source} {s : Store} {known free : List String} {key root : String}

/-- Where a circle comes from that an operation on a store reports. -/
inductive Reports (source : Source) (s : Store) : Error → Prop where
  /-- From the fragments of a document in the store. -/
  | fragments {key location cycle : String} {raw : Value} (hraw : s.raws.lookup key = some raw)
      (h : IsCircle (RawDocument.Leads (some key) (some (source.library s)) raw) cycle) :
      Reports source s (.cyclicReference location cycle)
  /-- From the documents in the store. -/
  | documents {first location : String} {others : List String}
      (h : (first :: others ++ [first]).IsChain (source.documentsOf s).Sees) :
      Reports source s (.cyclicReference location (Text.join " -> " (first :: others ++ [first])))
  /-- From the loader, in place of a document. -/
  | loading {key : String} {e : Error} (h : source.loader.load key = .error e) : Reports source s e
  /-- From the loader, in place of a key. -/
  | naming {origin : Option String} {name : String} {e : Error}
      (h : source.loader.resolveKey origin name = .error e) : Reports source s e

/-- Operations on a store report circles over fragments that are there. -/
def telling (source : Source) (known : List String) : Discipline Error Store where
  inv s := ∀ key raw, s.raws.lookup key = some raw → key ∈ known
  le s s' := Extends s.raws s'.raws
  fault e s := e.OverFragmentsOnly fun _ => source.Reports s e
  refl := Store.extends_raws
  trans := @Store.extends_raws_trans

/-- The check reports circles of documents and what the loader reports. -/
theorem telling_of_checking {α : Type} {x : Storing α} {Q : α → Store → Prop}
    (h : (checking source known root).Runs x s Q) : (telling source known).Runs x s Q := by
  have hreports : ∀ e s', (source.documentsOf s').Blames source.loader.load root e →
      source.Reports s' e := by
    intro e s' hblames
    cases hblames with
    | circle hpath => exact .documents hpath.links
    | missing _ hload => exact .loading hload
    | unnamed _ _ _ hkey => exact .naming hkey
  have hweak : (telling source known).Runs x s fun a s' => Extends s.raws s'.raws ∧ Q a s' :=
    h.weaken (fun _ hs' _ => hs') (fun _ hle => hle) fun e s' _ he _ _ _ _ => hreports e s' he
  exact hweak.imp fun _ _ _ _ hQ => hQ.2

section InterfaceAt

variable (hloader : ∀ k ∈ source.loader.keys, k ∈ known)

include hloader

/-- A circle over fragments of the document itself is reported while the document is in the store. -/
theorem resolveAt_tells (hs : (telling source known).inv s)
    (hlibrary : ∀ k s, (telling source known).inv s →
      (telling source known).Runs (source.interfaceAt known (without key free) k) s fun _ _ => True) :
    (telling source known).Runs (source.resolveAt known free key) s fun _ _ => True := by
  have hrawAt : (checking source known key).Runs (source.rawAt key) s _ :=
    rawAt_checks hloader hs .refl
  refine (telling_of_checking hrawAt).bind fun raw s₁ hs₁ _ hraw => ?_
  let L := (telling source known).pin fun s => s.raws.lookup key = some raw
  have hresolve : L.Runs (resolveDocument source.rules (some key)
      (some (source.libraryAround known (without key free))) raw) s₁ fun _ _ => True := by
    refine resolveDocument_tells ⟨hs₁, Store.load_documents.1 hraw.1⟩ ?_ ?_ ?_
    · rintro e s' ⟨-, hthere⟩ hcircle location cycle rfl hbegins
      have hleads : RawDocument.Leads (some key)
          (some (source.libraryAround known (without key free))) raw =
          RawDocument.Leads (some key) (some (source.library s')) raw :=
        RawDocument.leads_congr rfl
      exact .fragments hthere (hleads ▸ hcircle location cycle rfl hbegins)
    · rintro l name e s' ⟨⟩ hname - _ _ - -
      exact .naming hname
    · rintro l k s' ⟨⟩ ⟨hs', hthere⟩
      exact (hlibrary k s' hs').pin fun s'' hle => hle key raw hthere
  exact (hresolve.weaken (fun _ hs' _ => hs'.1) (fun _ hle => hle) fun _ _ _ he => he).imp
    fun _ _ _ _ _ => trivial

theorem interfaceAt_tells (hs : (telling source known).inv s) :
    (telling source known).Runs (source.interfaceAt known free key) s fun _ _ => True := by
  induction hlength : free.length using Nat.strong_induction_on generalizing free key s with
  | _ n ih =>
    subst hlength
    rw [interfaceAt_eq]
    refine (telling_of_checking (checkGraph_checks hloader hs)).bind fun _ s₁ hs₁ _ _ => .afterGet ?_
    split
    · exact .pure hs₁ trivial
    · split
      · next hfree =>
        have hresolve : (telling source known).Runs (source.resolveAt known free key) s₁
            fun _ _ => True :=
          resolveAt_tells hloader hs₁ fun k s hs => ih _ (length_without_lt hfree) hs rfl
        refine hresolve.bind fun i s₂ hs₂ _ _ => ?_
        exact .afterModify hs₂ .refl (.pure hs₂ trivial)
      · exact .throw hs₁ fun _ _ heq => by cases heq

end InterfaceAt

theorem telling_inv : (telling source (source.knownKeys s)).inv s :=
  fun _ _ hraw => mem_knownKeys_of_lookup hraw

/-- Asking a source for the interface of a name reports circles over fragments that are there. -/
theorem interface_tells {name : String} :
    (telling source (source.knownKeys s)).Runs (source.interface name) s fun _ _ => True := by
  unfold interface
  cases hkey : source.loader.resolveKey none name with
  | error e => exact .throw telling_inv fun _ _ _ _ => .naming hkey
  | ok key => exact interfaceAt_tells mem_knownKeys_of_mem_keys telling_inv

end Source

/-! ## Operations -/

/-- The circle that is reported for a document is one of its own fragments, or its library reported it
before. -/
theorem circle_of_resolveDocument {rules : IdentifierRules} {document : Option String}
    {library : Option (Library σ)} {raw : Value} {s s' : σ} {location cycle : String}
    (h : resolveDocument rules document library raw s = .error (.cyclicReference location cycle) s')
    (hbegins : "#/schemas/".toList <+: cycle.toList) :
    IsCircle (RawDocument.Leads document library raw) cycle ∨ ∃ l, library = some l ∧
      ((∃ key t t', l.interfaceAt key t = .error (.cyclicReference location cycle) t') ∨
        ∃ name, l.resolveKey document name = .error (.cyclicReference location cycle)) := by
  let L := (anything Error σ).withFault fun e _ => e.OverFragmentsOnly fun cycle =>
    IsCircle (RawDocument.Leads document library raw) cycle ∨ ∃ l, library = some l ∧
      ((∃ key t t', l.interfaceAt key t = .error e t') ∨
        ∃ name, l.resolveKey document name = .error e)
  have hruns : L.Runs (resolveDocument rules document library raw) s fun _ _ => True := by
    refine resolveDocument_tells trivial ?_ ?_ ?_
    · exact fun e _ _ hcircle location cycle heq hbegins => .inl (hcircle location cycle heq hbegins)
    · exact fun l name e _ hl hname _ _ _ _ _ => .inr ⟨l, hl, .inr ⟨name, hname⟩⟩
    · intro l key t hl _
      unfold Discipline.Runs
      cases hx : l.interfaceAt key t with
      | ok i t' => exact ⟨trivial, trivial, trivial⟩
      | error e t' =>
        exact ⟨trivial, trivial, fun _ _ _ _ => .inr ⟨l, hl, .inl ⟨key, t, t', hx⟩⟩⟩
  exact (hruns.error h).2.2 location cycle rfl hbegins

namespace Resolver

variable {resolver : Resolver} {raw : Value} {s s' : Store} {name location cycle : String}

/-- A resolver that resolves a raw document reports a circle of its fragments, or what operations on
the store report. -/
theorem circle_of_resolve
    (h : resolver.resolve raw s = .error (.cyclicReference location cycle) s')
    (hbegins : "#/schemas/".toList <+: cycle.toList) :
    IsCircle (RawDocument.Leads none (resolver.source.map (·.library s)) raw) cycle ∨
      ∃ source, resolver.source = some source ∧
        source.Reports s' (.cyclicReference location cycle) := by
  cases hsource : resolver.source with
  | none =>
    have hresolve : resolveDocument resolver.rules none (none : Option (Library Store)) raw s =
        .error (.cyclicReference location cycle) s' := by
      rw [← h, resolve, hsource]
      rfl
    refine (circle_of_resolveDocument hresolve hbegins).imp_right ?_
    rintro ⟨l, hl, -⟩
    cases hl
  | some source =>
    let L := (Source.telling source (source.knownKeys s)).withFault fun e t =>
      e.OverFragmentsOnly fun cycle =>
        IsCircle (RawDocument.Leads none (some (source.library s)) raw) cycle ∨ source.Reports t e
    have hruns : L.Runs (resolveDocument resolver.rules none (some (source.library s)) raw) s
        fun _ _ => True := by
      refine resolveDocument_tells Source.telling_inv ?_ ?_ ?_
      · exact fun e _ _ hcircle location cycle heq hbegins =>
          .inl (hcircle location cycle heq hbegins)
      · rintro l name e t ⟨⟩ hname - _ _ - -
        exact .inr (.naming hname)
      · rintro l key t ⟨⟩ ht
        have hask : (Source.telling source (source.knownKeys s)).Runs
            ((source.library s).interfaceAt key) t fun _ _ => True :=
          Source.interfaceAt_tells Source.mem_knownKeys_of_mem_keys ht
        exact hask.withFault fun e _ he location cycle heq hbegins =>
          .inr (he location cycle heq hbegins)
    have hresolve : resolveDocument resolver.rules none (some (source.library s)) raw s =
        .error (.cyclicReference location cycle) s' := by
      rw [← h, resolve, hsource]
      rfl
    exact ((hruns.error hresolve).2.2 location cycle rfl hbegins).imp_right
      fun hreports => ⟨source, rfl, hreports⟩

/-- A resolver that loads a document reports what operations on the store report. -/
theorem circle_of_load (h : resolver.load name s = .error (.cyclicReference location cycle) s')
    (hbegins : "#/schemas/".toList <+: cycle.toList) :
    ∃ source, resolver.source = some source ∧
      source.Reports s' (.cyclicReference location cycle) := by
  cases hsource : resolver.source with
  | none =>
    rw [load, hsource] at h
    cases h
  | some source =>
    rw [load, hsource] at h
    exact ⟨source, rfl, (Source.interface_tells.error h).2.2 location cycle rfl hbegins⟩

end Resolver

/-- Fragments end, or a circle is found. Resolving a fragment ends for every document and every key:
with one stack in the state, calls need to be nested no deeper than there are fragments that are not on
it, and one more, and then they do what resolution does; so it is for raw schemas that refer to
fragments. Whether such a call succeeds or fails, the stack is afterwards what it was before, and only
fragments are remembered that were resolved completely; so it is after all calls that were made one
after another. A document with a fragment that reaches itself is not resolved. And if a circle over
fragments is reported for a document, each fragment of it leads to the next one, from the first one
back to it - in this document, unless its library reports the circle; a resolver reports it for a
document in its store then, or else it is a circle of documents or the loader's own. -/
theorem fragments_end_or_circle (rules : IdentifierRules) (document : Option String)
    (names : List String) (library : Option (Library σ)) (raw : Value) (resolver : Resolver) :
    let here : Surroundings σ := ⟨document, names, library⟩
    let fragments := RawDocument.fragments raw
    (∀ exhausted depth key location (p : Progress (σ × List String)),
      (fragmentsOff p.stack fragments).length < depth →
      outcome (here.fragmentWithin fragments exhausted depth key location) p =
          outcome (here.fragment (fragmentsOff p.stack fragments) p.stack key location) p.unstacked ∧
        ∀ schema p', here.fragmentWithin fragments exhausted depth key location p = .ok schema p' →
          here.fragment (fragmentsOff p.stack fragments) p.stack key location p.unstacked =
            .ok schema p'.unstacked) ∧
    (∀ exhausted depth raw path (p : Progress (σ × List String)), fragments.length < depth →
      p.stack = [] → outcome (here.schemaWithin fragments exhausted depth raw path) p =
        outcome (here.schemaAt fragments raw path) p.unstacked) ∧
    (∀ exhausted depth key location (p : Progress (σ × List String)),
      here.stacked.Settled fragments p →
      (stateAfter (here.fragmentWithin fragments exhausted depth key location) p).stack = p.stack ∧
        here.stacked.Settled fragments
          (stateAfter (here.fragmentWithin fragments exhausted depth key location) p)) ∧
    (∀ p, here.Called fragments p → p.stack = [] ∧ here.stacked.Settled fragments p) ∧
    (∀ key, TransGen (RawDocument.Leads document library raw) key key →
      ∀ s i s', resolveDocument rules document library raw s ≠ .ok i s') ∧
    (∀ location cycle, "#/schemas/".toList <+: cycle.toList →
      (∀ s s', resolveDocument rules document library raw s =
          .error (.cyclicReference location cycle) s' →
        IsCircle (RawDocument.Leads document library raw) cycle ∨ ∃ l, library = some l ∧
          ((∃ key t t', l.interfaceAt key t = .error (.cyclicReference location cycle) t') ∨
            ∃ name, l.resolveKey document name = .error (.cyclicReference location cycle))) ∧
      (∀ s s', resolver.resolve raw s = .error (.cyclicReference location cycle) s' →
        IsCircle (RawDocument.Leads none (resolver.source.map (·.library s)) raw) cycle ∨
          ∃ source, resolver.source = some source ∧
            source.Reports s' (.cyclicReference location cycle)) ∧
      ∀ name s s', resolver.load name s = .error (.cyclicReference location cycle) s' →
        ∃ source, resolver.source = some source ∧
          source.Reports s' (.cyclicReference location cycle)) := by
  intro here fragments
  refine ⟨fun exhausted depth key location p hdepth => Surroundings.fragmentWithin_ends hdepth,
    fun exhausted depth raw path p hdepth hp => Surroundings.schemaWithin_ends hdepth hp,
    fun exhausted depth key location p hp => Surroundings.settled_of_fragmentWithin hp,
    fun p hp => hp.settled, ?_, ?_⟩
  · intro key hcircle s i s' h
    exact not_transGen_of_resolveDocument h key hcircle
  · intro location cycle hbegins
    exact ⟨fun s s' h => circle_of_resolveDocument h hbegins,
      fun s s' h => Resolver.circle_of_resolve h hbegins,
      fun name s s' h => Resolver.circle_of_load h hbegins⟩

namespace Sample

/-- Two fragments that reach one another, and one that nothing refers to. -/
def loops : Value :=
  document [("schemas", .object
    [("loop-a", reference "#/schemas/loop-b"),
     ("loop-b", .object [("type", .string "array"), ("items", reference "#/schemas/loop-a")]),
     ("shared", .object [("type", .string "string")])])]

/-- How their circle is reported. -/
def loopsCircle : String := "#/schemas/loop-a -> #/schemas/loop-b -> #/schemas/loop-a"

/-- The state before anything was achieved, with no fragment on the stack. -/
def start : Progress (Unit × List String) := ⟨[], [], ((), [])⟩

/-- The documents stand alone. -/
def alone : Surroundings Unit := ⟨none, [], none⟩

/-- The document with the loops, served under a key. -/
def loopsServed : Resolver := .new .none (some (.ofDocuments [("loops.json", loops)]))

/-- A fragment of the loops is asked for. -/
def askLoops (key : String) : Resolving (Unit × List String) Schema :=
  alone.fragmentWithin (RawDocument.fragments loops) (.stalled "") 4 key "#/x"

end Sample

open Sample in
/-- The loops are found from one of them and by resolving the document, which fails; what does not
reach them is resolved and remembered. -/
theorem fragments_end_or_circle_loops :
    fault? (askLoops "loop-a") start =
        some (.cyclicReference "#/schemas/loop-b/items/$ref" loopsCircle) ∧
      outcome (askLoops "loop-a") start =
        outcome (alone.fragment (RawDocument.fragments loops) [] "loop-a" "#/x") start.unstacked ∧
      outcome (alone.schemaWithin (RawDocument.fragments loops) (.stalled "") 4
          (reference "#/schemas/loop-a") "/x") start =
        outcome (alone.schemaAt (RawDocument.fragments loops) (reference "#/schemas/loop-a") "/x")
          start.unstacked ∧
      (stateAfter (askLoops "loop-a") start).stack = [] ∧
      ((stateAfter (askLoops "shared") start).fragments.lookup "shared").isSome ∧
      alone.stacked.Settled (RawDocument.fragments loops) (stateAfter (askLoops "shared") start) ∧
      (stateAfter (askLoops "shared") (stateAfter (askLoops "loop-a") start)).stack = [] ∧
      TransGen (RawDocument.Leads none (none : Option (Library Unit)) loops) "loop-a" "loop-a" ∧
      (∀ i s', resolveDocument .none none (none : Option (Library Unit)) loops () ≠ .ok i s') ∧
      IsCircle (RawDocument.Leads none (none : Option (Library Unit)) loops) loopsCircle ∧
      ∃ source s', loopsServed.source = some source ∧
        source.Reports s'
          (.cyclicReference "loops.json#/schemas/loop-b/items/$ref" loopsCircle) := by
  have hlead : RawDocument.Leads none (none : Option (Library Unit)) loops "loop-a" "loop-b" := by
    refine ⟨reference "#/schemas/loop-b", "#/schemas/loop-b", rfl, .here rfl rfl, ?_⟩
    exact ⟨⟨none, .fragment "loop-b"⟩, none, by decide +kernel, rfl, .inl rfl, rfl⟩
  have hback : RawDocument.Leads none (none : Option (Library Unit)) loops "loop-b" "loop-a" := by
    refine ⟨_, "#/schemas/loop-a", rfl, .part (.items (.named rfl rfl) rfl fun _ h => by cases h)
      (fun _ h => by cases h) (.here rfl rfl), ?_⟩
    exact ⟨⟨none, .fragment "loop-a"⟩, none, by decide +kernel, rfl, .inl rfl, rfl⟩
  have hcircle := TransGen.tail (TransGen.single hlead) hback
  have hbegins : "#/schemas/".toList <+: loopsCircle.toList := by decide +kernel
  obtain ⟨hends, hschema, hsettles, hcalled, hnever, hreports⟩ :=
    fragments_end_or_circle .none none [] (none : Option (Library Unit)) loops loopsServed
  have hshallow : (fragmentsOff start.stack (RawDocument.fragments loops)).length < 4 := by decide
  have hstart : alone.stacked.Settled (RawDocument.fragments loops) start := .start
  have hoff : fragmentsOff start.stack (RawDocument.fragments loops) = RawDocument.fragments loops :=
    fragmentsOff_nil
  obtain ⟨s', hresolve⟩ := fault?_eq_some.1 (show
    fault? (resolveDocument .none none (none : Option (Library Unit)) loops) () =
      some (.cyclicReference "#/schemas/loop-b/items/$ref" loopsCircle) by decide +kernel)
  obtain ⟨t, hload⟩ := fault?_eq_some.1 (show fault? (loopsServed.load "loops.json") .empty =
    some (.cyclicReference "loops.json#/schemas/loop-b/items/$ref" loopsCircle) by decide +kernel)
  have hdocument := ((hreports _ _ hbegins).1 () s' hresolve).resolve_right
    fun ⟨l, hl, _⟩ => by cases hl
  obtain ⟨source, hsource, hreported⟩ := (hreports _ _ hbegins).2.2 _ _ t hload
  have hafter : alone.Called (RawDocument.fragments loops)
      (stateAfter (askLoops "shared") (stateAfter (askLoops "loop-a") start)) :=
    Surroundings.Called.start.fragment.fragment
  refine ⟨by decide +kernel, ?_, hschema (.stalled "") 4 _ "/x" start (by decide) rfl, ?_,
    by decide +kernel, ?_, (hcalled _ hafter).1, hcircle, hnever "loop-a" hcircle (), hdocument, source,
    t, hsource, hreported⟩
  · rw [← hoff]
    exact (hends (.stalled "") 4 "loop-a" "#/x" start hshallow).1
  · exact (hsettles (.stalled "") 4 "loop-a" "#/x" start hstart).1
  · exact (hsettles (.stalled "") 4 "shared" "#/x" start hstart).2

end ServiceContract
