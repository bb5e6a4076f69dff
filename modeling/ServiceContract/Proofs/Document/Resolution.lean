import ServiceContract.Document.Resolution
import ServiceContract.Proofs.Document.Declarations
import ServiceContract.Proofs.Document.Faults
import ServiceContract.Proofs.Document.Sites
import ServiceContract.Proofs.Interface.Inhabited
import ServiceContract.Proofs.Schema.Reading

/-!
# Resolving a document keeps what its library keeps

A document is resolved with other documents from a library. If every step of the library keeps a
discipline, then so does resolution, and the schema at each site of the interface stands for the raw
schema at the same site of the raw document - for every notion of standing for that follows the form
of raw schemas, given what references mean in the document at hand.

Such a notion may depend on the state of the library and on the interfaces of other documents that
were asked for so far. Both only grow while the document is resolved, and what a raw schema stands
for is not undone by that.
-/

namespace ServiceContract

open Json (Value Members)

variable {σ : Type}

/-! ## References -/

/-- What a reference stands for in a document with these fragments, given the interfaces of other
documents and what raw schemas of the document stand for. -/
inductive RefForm (here : Surroundings σ) (fragments : Members)
    (externals : List (String × Interface)) (part : Value → Schema → Prop) :
    (text : String) → Schema → Prop where
  /-- A type of the document itself. -/
  | ownType {text name : String} {r : Reference} {document : Option String}
      (hread : Reference.ofText text = .ok r) (hdocument : here.documentKey r = .ok document)
      (hown : document = none ∨ document = here.document) (htarget : r.target = .type name)
      (hname : name ∈ here.typeNames) :
      RefForm here fragments externals part text (.reference (.inside name))
  /-- A fragment of the document itself. -/
  | ownFragment {text key : String} {r : Reference} {document : Option String} {raw : Value}
      {schema : Schema} (hread : Reference.ofText text = .ok r)
      (hdocument : here.documentKey r = .ok document)
      (hown : document = none ∨ document = here.document) (htarget : r.target = .fragment key)
      (hraw : fragments.lookup key = some raw) (h : part raw schema) :
      RefForm here fragments externals part text schema
  /-- A type of another document. -/
  | type {text name document : String} {r : Reference} {interface : Interface}
      (hread : Reference.ofText text = .ok r) (hdocument : here.documentKey r = .ok (some document))
      (hother : some document ≠ here.document)
      (hinterface : externals.lookup document = some interface)
      (htarget : r.target = .type name) (hname : (interface.type? name).isSome) :
      RefForm here fragments externals part text (.reference ⟨some document, name⟩)
  /-- A fragment of another document. -/
  | fragment {text key document : String} {r : Reference} {interface : Interface} {schema : Schema}
      (hread : Reference.ofText text = .ok r) (hdocument : here.documentKey r = .ok (some document))
      (hother : some document ≠ here.document)
      (hinterface : externals.lookup document = some interface)
      (htarget : r.target = .fragment key) (hfragment : interface.fragment? key = some schema) :
      RefForm here fragments externals part text (schema.rebase document)

/-- What raw schemas of a document stand for, by the state of the library and the interfaces of other
documents. -/
abbrev Standing (σ : Type) :=
  σ → (externals : List (String × Interface)) → Value → Schema → Prop

/-- Every entry that is found in the first table is found in the second one. -/
def Extends {α : Type} (entries entries' : List (String × α)) : Prop :=
  ∀ key value, entries.lookup key = some value → entries'.lookup key = some value

theorem Extends.refl {α : Type} {entries : List (String × α)} : Extends entries entries :=
  fun _ _ h => h

theorem Extends.trans {α : Type} {entries entries' entries'' : List (String × α)}
    (h : Extends entries entries') (h' : Extends entries' entries'') : Extends entries entries'' :=
  fun key value hvalue => h' key value (h key value hvalue)

/-- What resolution needs of the library of a document and of a notion of standing for, given the
names of the documents that may be referred to. -/
structure Resolves (L : Discipline Error σ) (here : Surroundings σ) (fragments : Members)
    (named : String → Prop) (link : σ → String → Interface → Prop) (stands : Standing σ) : Prop where
  /-- Every fault may occur, apart from asking for a document that is being resolved. -/
  fault : ∀ e s, L.inv s → (∀ key, e ≠ .stalled key) → L.fault e s
  /-- So may the faults of names. -/
  key : ∀ library name e s, here.library = some library →
    library.resolveKey here.document name = .error e → L.inv s → L.fault e s
  /-- The library keeps the discipline for the documents that are named in this one. -/
  library : ∀ library name key s, here.library = some library → named name →
    library.resolveKey here.document name = .ok key → some key ≠ here.document → L.inv s →
    L.Runs (library.interfaceAt key) s fun i s' => link s' key i
  /-- The fragments refer only to documents with such names. -/
  namesOnly : ∀ {key raw}, fragments.lookup key = some raw → RawSchema.NamesOnly named raw
  /-- Later states do not undo what an interface is linked to. -/
  linkStable : ∀ {s s' key i}, L.le s s' → link s key i → link s' key i
  /-- Neither do they undo what a raw schema stands for. -/
  standsStable : ∀ {s s' externals externals' raw schema}, L.le s s' → Extends externals externals' →
    stands s externals raw schema → stands s' externals' raw schema
  /-- What a raw schema stands for follows its form. -/
  form : ∀ {s externals raw schema}, L.inv s →
    (∀ key i, (key, i) ∈ externals → some key ≠ here.document ∧ link s key i) →
    RawSchema.HasForm (RefForm here fragments externals (stands s externals))
      (stands s externals) raw schema → RawSchema.ListsSome raw → stands s externals raw schema

/-! ## Progress -/

/-- A step of the library keeps what is kept of the progress whatever the library goes on to. -/
theorem Discipline.Runs.inLibrary {L : Discipline Error σ} {D : Discipline Error (Progress σ)}
    {p : Progress σ} {α : Type} {step : EStateM Error σ α} {Q : α → σ → Prop}
    (h : L.Runs step p.library Q)
    (hkeeps : ∀ s, L.inv s → L.le p.library s →
      D.inv { p with library := s } ∧ D.le p { p with library := s })
    (hfault : ∀ e s, L.fault e s → D.fault e { p with library := s }) :
    D.Runs (Resolving.inLibrary step) p fun a p' =>
      Q a p'.library ∧ p'.externals = p.externals ∧ p'.fragments = p.fragments := by
  unfold Discipline.Runs Resolving.inLibrary
  cases hstep : step p.library with
  | ok a s =>
    obtain ⟨hs, hle, hQ⟩ := h.ok hstep
    obtain ⟨hinv, hle⟩ := hkeeps s hs hle
    exact ⟨hinv, hle, hQ, rfl, rfl⟩
  | error e s =>
    obtain ⟨hs, hle, he⟩ := h.error hstep
    obtain ⟨hinv, hle⟩ := hkeeps s hs hle
    exact ⟨hinv, hle, hfault e s he⟩

namespace Resolves

variable {L : Discipline Error σ} {here : Surroundings σ} {fragments : Members}
  {named : String → Prop} {link : σ → String → Interface → Prop} {stands : Standing σ}

/-- The discipline of the steps of resolution: the library keeps its own, interfaces of other
documents are linked, fragments stand for their raw schemas, and neither get lost. -/
def progress (_ : Resolves L here fragments named link stands) : Discipline Error (Progress σ) where
  inv p := L.inv p.library ∧
    (∀ key i, (key, i) ∈ p.externals → some key ≠ here.document ∧ link p.library key i) ∧
    ∀ key schema, (key, schema) ∈ p.fragments →
      ∃ raw, fragments.lookup key = some raw ∧ stands p.library p.externals raw schema
  le p p' := L.le p.library p'.library ∧ Extends p.externals p'.externals ∧
    ∀ key, (p.fragments.lookup key).isSome → (p'.fragments.lookup key).isSome
  fault e p := L.fault e p.library
  refl _ := ⟨L.refl _, fun _ _ h => h, fun _ h => h⟩
  trans h h' := ⟨L.trans h.1 h'.1, fun k i hi => h'.2.1 k i (h.2.1 k i hi),
    fun k hk => h'.2.2 k (h.2.2 k hk)⟩

/-- A reference to another document comes with the library that named it. -/
theorem documentKey_some {r : Reference} {document : String} {library : Library σ}
    (hlibrary : here.library = some library) (hkey : here.documentKey r = .ok (some document)) :
    ∃ name, r.document = some name ∧ library.resolveKey here.document name = .ok document := by
  unfold Surroundings.documentKey at hkey
  rw [hlibrary] at hkey
  cases hname : r.document with
  | none => simp [hname] at hkey
  | some name =>
    simp only [hname] at hkey
    cases hresolved : library.resolveKey here.document name with
    | ok key =>
      simp only [hresolved, Except.map, Except.ok.injEq, Option.some.injEq] at hkey
      exact ⟨name, rfl, hkey ▸ hresolved⟩
    | error e => simp [hresolved, Except.map] at hkey

variable (h : Resolves L here fragments named link stands) {p : Progress σ} {location : String}

include h

/-- Resolution starts with nothing achieved. -/
theorem progress_start (s : σ) (hs : L.inv s) : h.progress.inv ⟨[], [], s⟩ := by
  refine ⟨hs, ?_, ?_⟩
  · intro key i hmem
    cases hmem
  · intro key schema hmem
    cases hmem

theorem throw_runs {α : Type} {e : Error} {Q : α → Progress σ → Prop}
    (hp : h.progress.inv p) (he : ∀ key, e ≠ .stalled key) :
    h.progress.Runs (throw e) p Q :=
  .throw hp (h.fault e p.library hp.1 he)

/-- A step of the library leaves what was achieved so far. -/
theorem inLibrary_runs {α : Type} {step : EStateM Error σ α} {Q : α → σ → Prop}
    (hp : h.progress.inv p) (hstep : L.Runs step p.library Q) :
    h.progress.Runs (Resolving.inLibrary step) p fun a p' =>
      Q a p'.library ∧ p'.externals = p.externals ∧ p'.fragments = p.fragments := by
  obtain ⟨-, hlinked, hfragments⟩ := hp
  have hextends : Extends p.externals p.externals := .refl
  refine hstep.inLibrary (fun s' hs' hle => ⟨⟨hs', fun key i hi => ?_, fun key schema hschema => ?_⟩,
    hle, hextends, fun _ hk => hk⟩) fun _ _ he => he
  · exact ⟨(hlinked key i hi).1, h.linkStable hle (hlinked key i hi).2⟩
  · obtain ⟨raw, hraw, hstands⟩ := hfragments key schema hschema
    exact ⟨raw, hraw, h.standsStable hle hextends hstands⟩

/-- Asking for another document links its interface. -/
theorem external_runs {r : Reference} {document : String}
    (hnamed : ∀ name, r.document = some name → named name) (hp : h.progress.inv p)
    (hkey : here.documentKey r = .ok (some document)) (hother : some document ≠ here.document) :
    h.progress.Runs (here.external document location) p fun i p' =>
      p'.externals.lookup document = some i := by
  unfold Surroundings.external
  refine .afterGet ?_
  split
  · next found hfound => exact .pure hp hfound
  · next hnone =>
    split
    · exact h.throw_runs hp (by simp)
    next library hlibrary =>
    obtain ⟨name, hdocument, hname⟩ := documentKey_some hlibrary hkey
    have hstep := h.library library name document _ hlibrary (hnamed name hdocument) hname hother hp.1
    refine (h.inLibrary_runs hp hstep).bind fun i p₂ hp₂ _ hi => ?_
    obtain ⟨hlink, hexternals, hfragments⟩ := hi
    have hnew : p₂.externals.lookup document = none := by rw [hexternals, hnone]
    have hextends : Extends p₂.externals (putEntry document i p₂.externals) :=
      fun key found hfound => lookup_putEntry_of_some hnew hfound
    have hput : h.progress.inv { p₂ with externals := putEntry document i p₂.externals } := by
      refine ⟨hp₂.1, fun key found hfound => ?_, fun key schema hschema => ?_⟩
      · rcases mem_putEntry hfound with hentry | hentry
        · cases hentry
          exact ⟨hother, hlink⟩
        · exact hp₂.2.1 key found hentry
      · obtain ⟨raw, hraw, hstands⟩ := hp₂.2.2 key schema hschema
        exact ⟨raw, hraw, h.standsStable (L.refl _) hextends hstands⟩
    exact .afterModify hput ⟨L.refl _, hextends, fun _ hk => hk⟩ (.pure hput lookup_putEntry_self)

/-- What the resolver of fragments gives: the fragment is resolved now and stands for its raw
schema. -/
abbrev FragmentStands (stands : Standing σ) (fragments : Members) (key : String) (schema : Schema)
    (p : Progress σ) : Prop :=
  (p.fragments.lookup key).isSome ∧
    ∃ raw, fragments.lookup key = some raw ∧ stands p.library p.externals raw schema

theorem ofExcept_runs {α : Type} {x : Except Error α} {Q : α → Progress σ → Prop}
    (hp : h.progress.inv p) (hfault : ∀ e, x = .error e → L.fault e p.library)
    (hok : ∀ a, x = .ok a → Q a p) : h.progress.Runs (Resolving.ofExcept x) p Q := by
  cases x with
  | ok a => exact .pure hp (hok a rfl)
  | error e => exact .throw hp (hfault e rfl)

theorem documentKey_fault {r : Reference} {e : Error} (hp : h.progress.inv p)
    (he : here.documentKey r = .error e) : L.fault e p.library := by
  unfold Surroundings.documentKey at he
  split at he
  · next name library hname hlibrary =>
    cases hkey : library.resolveKey here.document name with
    | ok key => simp [hkey, Except.map] at he
    | error e' =>
      simp only [hkey, Except.map] at he
      cases he
      exact h.key library name _ _ hlibrary hkey hp.1
  · cases he
  · cases he

/-- References are resolved to what they stand for if fragments are. -/
theorem resolveReference_runs {fragment : (key location : String) → Resolving σ Schema}
    {text : String} (hnamed : ∀ name, Reference.documentOf? text = some name → named name)
    (hp : h.progress.inv p)
    (hfragment : ∀ key location p, h.progress.inv p →
      h.progress.Runs (fragment key location) p (FragmentStands stands fragments key)) :
    h.progress.Runs (here.resolveReference fragment text location) p fun schema p' =>
      RefForm here fragments p'.externals (stands p'.library p'.externals) text schema := by
  unfold Surroundings.resolveReference
  split
  · exact h.throw_runs hp (by simp)
  · next r hread =>
    refine (h.ofExcept_runs (Q := fun document p' => here.documentKey r = .ok document ∧ p' = p) hp
      (fun e => h.documentKey_fault hp) fun _ hkey => ⟨hkey, rfl⟩).bind fun document p₁ hp₁ _ hd => ?_
    obtain ⟨hkey, rfl⟩ := hd
    split
    · next hnone =>
      have hown : document = none ∨ document = here.document := by
        by_cases hsame : document = here.document
        · exact .inr hsame
        · exact .inl (by simpa [hsame] using hnone)
      split
      · next name htarget =>
        by_cases hname : name ∈ here.typeNames
        · rw [if_pos hname]
          exact .pure hp (.ownType hread hkey hown htarget hname)
        · rw [if_neg hname]
          exact h.throw_runs hp (by simp)
      · next key htarget =>
        refine (hfragment key location _ hp).imp fun schema p' _ _ hschema => ?_
        obtain ⟨-, raw, hraw, hstands⟩ := hschema
        exact .ownFragment hread hkey hown htarget hraw hstands
    · next other hsome =>
      have hother : some other ≠ here.document ∧ document = some other := by
        by_cases hsame : document = here.document
        · simp [hsame] at hsome
        · have hdocument : document = some other := by simpa [hsame] using hsome
          exact ⟨fun heq => hsame (hdocument.trans heq), hdocument⟩
      obtain ⟨hother, rfl⟩ := hother
      have hnames : ∀ name, r.document = some name → named name := by
        intro name hname
        refine hnamed name ?_
        unfold Reference.documentOf?
        rw [hread]
        exact hname
      refine (h.external_runs hnames hp hkey hother).bind fun i p₂ hp₂ _ hi => ?_
      split
      · next name htarget =>
        split
        · next named hnamed =>
          exact .pure hp₂ (.type hread hkey hother hi htarget (by simp [hnamed]))
        · exact h.throw_runs hp₂ (by simp)
      · next key htarget =>
        split
        · next schema hfragment =>
          exact .pure hp₂ (.fragment hread hkey hother hi htarget hfragment)
        · exact h.throw_runs hp₂ (by simp)

/-! ## Fragments -/

/-- Reading a raw schema gives what it stands for if fragments do. -/
theorem ofValue_runs {fragment : (key location : String) → Resolving σ Schema} {raw : Value}
    (hnamed : RawSchema.NamesOnly named raw) (hp : h.progress.inv p)
    (hfragment : ∀ key location p, h.progress.inv p →
      h.progress.Runs (fragment key location) p (FragmentStands stands fragments key)) :
    h.progress.Runs (Schema.ofValue (here.resolveReference fragment) raw location) p
      fun schema p' => stands p'.library p'.externals raw schema := by
  have hkeeps : Schema.Keeps h.progress
      (fun text => ∀ name, Reference.documentOf? text = some name → named name)
      (here.resolveReference fragment)
      (fun p text schema => RefForm here fragments p.externals (stands p.library p.externals) text
        schema)
      (fun p raw schema => stands p.library p.externals raw schema) :=
    { fault := fun location message p hp => h.fault _ _ hp.1 (by simp)
      refs := fun text location p hnamed hp => h.resolveReference_runs hnamed hp hfragment
      stable := fun hle => h.standsStable hle.1 hle.2.1
      form := fun hp => h.form hp.1 hp.2.1 }
  exact Schema.ofValue_runs hkeeps raw hnamed.followsOnly location p hp

/-- A fragment that stands for its raw schema may be remembered. -/
theorem remember_runs {key : String} {raw : Value} {schema : Schema} (hp : h.progress.inv p)
    (hraw : fragments.lookup key = some raw) (hschema : stands p.library p.externals raw schema) :
    h.progress.Runs
      (do
        modify fun progress => { progress with fragments := putEntry key schema progress.fragments }
        return schema) p (FragmentStands stands fragments key) := by
  have hstands : ∃ raw, fragments.lookup key = some raw ∧
      stands p.library p.externals raw schema := ⟨raw, hraw, hschema⟩
  have hput : h.progress.inv { p with fragments := putEntry key schema p.fragments } := by
    refine ⟨hp.1, hp.2.1, fun key' schema' hput => ?_⟩
    rcases mem_putEntry hput with hentry | hentry
    · cases hentry
      exact hstands
    · exact hp.2.2 key' schema' hentry
  have hle : h.progress.le p { p with fragments := putEntry key schema p.fragments } := by
    refine ⟨L.refl _, fun _ _ hi => hi, fun key' hkey' => ?_⟩
    rw [lookup_putEntry]
    by_cases hkey : key' = key
    · simp [hkey]
    · rwa [if_neg hkey]
  exact .afterModify hput hle (.pure hput ⟨by simp [lookup_putEntry_self], hstands⟩)

/-- A fragment stands for its raw schema, whichever fragments are being resolved around it. -/
theorem fragment_runs {free : Members} {stack : List String} {key : String}
    (hp : h.progress.inv p)
    (hfree : ∀ key raw, free.lookup key = some raw → fragments.lookup key = some raw) :
    h.progress.Runs (here.fragment free stack key location) p
      (FragmentStands stands fragments key) := by
  induction hlength : free.length using Nat.strong_induction_on
    generalizing free stack key location p with
  | _ n ih =>
    subst hlength
    rw [Surroundings.fragment]
    refine .afterGet ?_
    split
    · next schema hschema =>
      exact .pure hp ⟨by simp [hschema], hp.2.2 key schema (mem_of_lookup hschema)⟩
    · split
      · next raw hraw =>
        have hinner : ∀ key' location p, h.progress.inv p → h.progress.Runs
            (here.fragment (withoutKey key free) (stack ++ [key]) key' location) p
            (FragmentStands stands fragments key') := fun key' location p hp =>
          ih _ (length_withoutKey_lt hraw) hp
            (fun k r hk => hfree k r (lookup_of_lookup_withoutKey hk)) rfl
        have hnamed := h.namesOnly (hfree key raw hraw)
        refine (h.ofValue_runs hnamed hp hinner).bind fun schema p₁ hp₁ _ hschema => ?_
        exact h.remember_runs hp₁ (hfree key raw hraw) hschema
      · by_cases hstack : key ∈ stack
        · rw [if_pos hstack]
          exact h.throw_runs hp (by simp [Surroundings.fragmentCycle])
        · rw [if_neg hstack]
          exact h.throw_runs hp (by simp)

/-! ## Declarations -/

theorem schemaAt_runs {raw : Value} {path : String} (hnamed : RawSchema.NamesOnly named raw)
    (hp : h.progress.inv p) :
    h.progress.Runs (here.schemaAt fragments raw path) p fun schema p' =>
      stands p'.library p'.externals raw schema :=
  h.ofValue_runs hnamed hp fun _ _ _ hp => h.fragment_runs hp fun _ _ hraw => hraw

/-- The schema under the keyword of a declaration stands for what is found there. -/
abbrev DeclaredStands (stands : Standing σ) (raw : Members) (schema : Schema) (p : Progress σ) :
    Prop :=
  ∃ rawSchema, raw.lookup "schema" = some rawSchema ∧ stands p.library p.externals rawSchema schema

theorem declaredSchema_runs {raw : Members} {path : String} (hnamed : DeclaresOnly named raw)
    (hp : h.progress.inv p) :
    h.progress.Runs (here.declaredSchema fragments raw path) p (DeclaredStands stands raw) := by
  unfold Surroundings.declaredSchema
  have hmember : h.progress.Runs
      (Resolving.ofExcept (Outline.requiredMember raw "schema" (here.locate path))) p
      fun rawSchema p' => raw.lookup "schema" = some rawSchema ∧ p' = p := by
    refine h.ofExcept_runs hp (fun e he => h.fault e _ hp.1 fun key heq => ?_) fun rawSchema hok => ?_
    · exact Outline.requiredMember_flaws.neverStalls key (heq ▸ he)
    · exact ⟨Outline.requiredMember_ok hok, rfl⟩
  refine hmember.bind fun rawSchema p₁ hp₁ _ hraw => ?_
  refine (h.schemaAt_runs (hnamed rawSchema hraw.1) hp₁).imp fun schema p' _ _ hschema => ?_
  exact ⟨rawSchema, hraw.1, hschema⟩

/-- A name with a schema stands for a raw declaration. -/
abbrev NamedStands (stands : Standing σ) (header : Header) (name : String) (schema : Schema)
    (p : Progress σ) : Prop :=
  name = header.name ∧ DeclaredStands stands header.raw schema p

theorem namedType_runs {header : Header} (hnamed : DeclaresOnly named header.raw)
    (hp : h.progress.inv p) :
    h.progress.Runs (here.namedType fragments header) p fun t p' =>
      NamedStands stands header t.name t.schema p' :=
  (h.declaredSchema_runs hnamed hp).map fun _ _ _ _ hschema => ⟨rfl, hschema⟩

theorem argument_runs {function : String} {header : Header}
    (hnamed : DeclaresOnly named header.raw) (hp : h.progress.inv p) :
    h.progress.Runs (here.argument fragments function header) p fun a p' =>
      NamedStands stands header a.name a.schema p' :=
  (h.declaredSchema_runs hnamed hp).map fun _ _ _ _ hschema => ⟨rfl, hschema⟩

theorem message_runs {header : Header} (hnamed : DeclaresOnly named header.raw)
    (hp : h.progress.inv p) :
    h.progress.Runs (here.message fragments header) p fun m p' =>
      NamedStands stands header m.name m.schema p' :=
  (h.declaredSchema_runs hnamed hp).map fun _ _ _ _ hschema => ⟨rfl, hschema⟩

/-- A result is declared exactly if there is one, and its schema stands for the raw one. -/
def ReturnsStand (stands : Standing σ) (raw : Members) (returns : Option Returns)
    (p : Progress σ) : Prop :=
  match returns with
  | none => raw.lookup "returns" = none
  | some r => ∃ members, raw.lookup "returns" = some (.object members) ∧
      DeclaredStands stands members r.schema p

theorem returns_runs {header : Header}
    (hnamed : ∀ members, header.raw.lookup "returns" = some (.object members) →
      DeclaresOnly named members) (hp : h.progress.inv p) :
    h.progress.Runs (here.returns fragments header) p (ReturnsStand stands header.raw) := by
  unfold Surroundings.returns
  dsimp only
  split
  · next hnone => exact .pure hp hnone
  · next members hmembers =>
    have hdescription : h.progress.Runs (Resolving.ofExcept (Outline.descriptionMember members
        (here.locate ("/functions/" ++ header.name ++ "/returns")))) p fun _ _ => True := by
      refine h.ofExcept_runs hp (fun e he => h.fault e _ hp.1 fun key heq => ?_) fun _ _ => trivial
      exact Outline.descriptionMember_flaws.neverStalls key (heq ▸ he)
    refine hdescription.bind fun description p₁ hp₁ _ _ => ?_
    exact (h.declaredSchema_runs (hnamed members hmembers) hp₁).map fun schema p' _ _ hschema =>
      ⟨members, hmembers, hschema⟩
  · exact h.throw_runs hp (by simp)

/-- What is known of a schema stays known. -/
theorem declaredStands_stable {raw : Members} {schema : Schema} {p p' : Progress σ}
    (hle : h.progress.le p p') (hschema : DeclaredStands stands raw schema p) :
    DeclaredStands stands raw schema p' := by
  obtain ⟨rawSchema, hraw, hstands⟩ := hschema
  exact ⟨rawSchema, hraw, h.standsStable hle.1 hle.2.1 hstands⟩

/-- The arguments and the result of a function stand for what the raw function declares. -/
def FunctionStands (stands : Standing σ) (header : FunctionHeader) (f : Function)
    (p : Progress σ) : Prop :=
  f.name = header.header.name ∧
    List.Forall₂ (fun argument a => NamedStands stands argument a.name a.schema p)
      header.arguments f.arguments ∧
    ReturnsStand stands header.header.raw f.returns p

theorem functionStands_stable {header : FunctionHeader} {f : Function} {p p' : Progress σ}
    (hle : h.progress.le p p') (hf : FunctionStands stands header f p) :
    FunctionStands stands header f p' := by
  obtain ⟨hname, harguments, hreturns⟩ := hf
  refine ⟨hname, harguments.imp fun _ _ ha => ⟨ha.1, h.declaredStands_stable hle ha.2⟩, ?_⟩
  unfold ReturnsStand at hreturns ⊢
  split
  · next hnone => simpa [hnone] using hreturns
  · next r hsome =>
    simp only [hsome] at hreturns
    obtain ⟨members, hmembers, hschema⟩ := hreturns
    exact ⟨members, hmembers, h.declaredStands_stable hle hschema⟩

theorem function_runs {header : FunctionHeader} (hnamed : header.DeclaresOnly named)
    (hp : h.progress.inv p) :
    h.progress.Runs (here.function fragments header) p (FunctionStands stands header) := by
  unfold Surroundings.function
  have hargument : ∀ argument ∈ header.arguments, ∀ p', h.progress.inv p' → h.progress.le p p' →
      h.progress.Runs (here.argument fragments header.header.name argument) p' fun a =>
        NamedStands stands argument a.name a.schema :=
    fun argument hmem p' hp' _ => h.argument_runs (hnamed.arguments argument hmem) hp'
  have harguments := Discipline.Runs.mapM hp
    (fun hle ha => ⟨ha.1, h.declaredStands_stable hle ha.2⟩) hargument
  refine harguments.bind fun arguments p₁ hp₁ _ harguments => ?_
  refine (h.returns_runs hnamed.returns hp₁).map fun returns p₂ _ hle hreturns => ⟨rfl, ?_, hreturns⟩
  exact harguments.imp fun _ _ ha => ⟨ha.1, h.declaredStands_stable hle ha.2⟩

/-! ## Documents -/

/-- The schemas of an outline are resolved. -/
structure PartsStand (stands : Standing σ) (outline : Outline) (parts : Interface.Parts)
    (p : Progress σ) : Prop where
  types : List.Forall₂ (fun header (t : NamedType) => NamedStands stands header t.name t.schema p)
    outline.types parts.types
  functions : List.Forall₂ (fun header f => FunctionStands stands header f p)
    outline.functions parts.functions
  messages : List.Forall₂ (fun header (m : Message) => NamedStands stands header m.name m.schema p)
    outline.messages parts.messages
  allFragments : ∀ entry ∈ outline.fragments, (p.fragments.lookup entry.1).isSome

theorem partsStand_stable {outline : Outline} {parts : Interface.Parts} {p p' : Progress σ}
    (hle : h.progress.le p p') (hparts : PartsStand stands outline parts p) :
    PartsStand stands outline parts p' where
  types := hparts.types.imp fun _ _ ht => ⟨ht.1, h.declaredStands_stable hle ht.2⟩
  functions := hparts.functions.imp fun _ _ hf => h.functionStands_stable hle hf
  messages := hparts.messages.imp fun _ _ hm => ⟨hm.1, h.declaredStands_stable hle hm.2⟩
  allFragments entry hentry := hle.2.2 _ (hparts.allFragments entry hentry)

/-- The declarations of an outline are resolved. -/
structure OutlineStands (stands : Standing σ) (outline : Outline) (i : Interface) (p : Progress σ) :
    Prop where
  /-- The service is the declared one. -/
  service : i.service = outline.service
  /-- The types were found to have finite values. -/
  inhabited : ∀ t ∈ i.types, t.name ∈ finiteTypes i.types
  /-- The types stand for their raw declarations. -/
  types : List.Forall₂ (fun header (t : NamedType) => NamedStands stands header t.name t.schema p)
    outline.types i.registry.types
  /-- So do the functions. -/
  functions : List.Forall₂ (fun header f => FunctionStands stands header f p)
    outline.functions i.functions
  /-- So do the messages. -/
  messages : List.Forall₂ (fun header (m : Message) => NamedStands stands header m.name m.schema p)
    outline.messages i.messages
  /-- All fragments are resolved. -/
  allFragments : ∀ entry ∈ outline.fragments, (p.fragments.lookup entry.1).isSome
  /-- The interface has the fragments that were resolved. -/
  fragments : i.fragments = p.fragments
  /-- Its registry has the registries of the documents that were asked for. -/
  externals : i.registry.externals = mergeExternals p.externals

end Resolves

section Outline

variable {L : Discipline Error σ} {document : Option String} {library : Option (Library σ)}
  {raw : Value} {outline : Outline} {named : String → Prop} {link : σ → String → Interface → Prop}
  {stands : Standing σ}

/-- Resolving the schemas of an outline resolves all its declarations. -/
theorem Resolves.resolveSchemas_runs {here : Surroundings σ}
    (h : Resolves L here outline.fragments named link stands) (hof : outline.IsOf raw)
    (hnamed : RawDocument.NamesOnly named raw) {p : Progress σ} (hp : h.progress.inv p) :
    h.progress.Runs (outline.resolveSchemas here) p (PartsStand stands outline) := by
  unfold Outline.resolveSchemas
  have htypes := Discipline.Runs.mapM (l := outline.types)
    (Q := fun header (t : NamedType) => NamedStands stands header t.name t.schema) hp
    (fun hle ht => ⟨ht.1, h.declaredStands_stable hle ht.2⟩)
    fun header hmem p' hp' _ => h.namedType_runs (declaresOnly_of_mem_types hof hnamed hmem) hp'
  refine htypes.bind fun types p₁ hp₁ _ htypes => ?_
  have hfunctions := Discipline.Runs.mapM (l := outline.functions) (Q := FunctionStands stands) hp₁
    h.functionStands_stable fun header hmem p' hp' _ =>
      h.function_runs (declaresOnly_of_mem_functions hof hnamed hmem) hp'
  refine hfunctions.bind fun functions p₂ hp₂ hle₂ hfunctions => ?_
  have hmessages := Discipline.Runs.mapM (l := outline.messages)
    (Q := fun header (m : Message) => NamedStands stands header m.name m.schema) hp₂
    (fun hle hm => ⟨hm.1, h.declaredStands_stable hle hm.2⟩)
    fun header hmem p' hp' _ => h.message_runs (declaresOnly_of_mem_messages hof hnamed hmem) hp'
  refine hmessages.bind fun messages p₃ hp₃ hle₃ hmessages => ?_
  have hfragments := Discipline.Runs.forM (l := outline.fragments)
    (f := fun (entry : String × Value) => discard
      (here.fragment outline.fragments [] entry.1 (here.locate ("/schemas/" ++ entry.1))))
    (Q := fun entry p => (p.fragments.lookup entry.1).isSome) hp₃
    (fun hle hentry => hle.2.2 _ hentry)
    fun entry _ p' hp' _ =>
      (h.fragment_runs hp' fun _ _ hraw => hraw).map fun _ _ _ _ hschema => hschema.1
  refine hfragments.bind fun _ p₄ hp₄ hle₄ hfragments => .pure hp₄ ?_
  have hle₂₄ := h.progress.trans hle₃ hle₄
  have hle₁₄ := h.progress.trans hle₂ hle₂₄
  exact
    { types := htypes.imp fun _ _ ht => ⟨ht.1, h.declaredStands_stable hle₁₄ ht.2⟩
      functions := hfunctions.imp fun _ _ hf => h.functionStands_stable hle₂₄ hf
      messages := hmessages.imp fun _ _ hm => ⟨hm.1, h.declaredStands_stable hle₄ hm.2⟩
      allFragments := hfragments }

/-- Resolving an outline resolves all its declarations and finds values for its types. -/
theorem Resolves.resolve_runs
    (h : Resolves L ⟨document, outline.types.map Header.name, library⟩ outline.fragments named link
      stands)
    (hof : outline.IsOf raw) (hnamed : RawDocument.NamesOnly named raw) {p : Progress σ}
    (hp : h.progress.inv p) :
    h.progress.Runs (outline.resolve document library) p fun i p' =>
      i.document = document ∧ OutlineStands stands outline i p' := by
  rw [Outline.resolve_eq, Outline.resolveParts_eq, bind_assoc]
  refine (h.resolveSchemas_runs hof hnamed hp).bind fun parts p₁ hp₁ _ hparts => ?_
  have hcheck : h.progress.Runs (Resolving.ofExcept (checkInhabited (locate document) parts.types)) p₁
      fun _ _ => ∀ t ∈ parts.types, t.name ∈ finiteTypes parts.types := by
    refine h.ofExcept_runs hp₁ (fun e he => h.fault e _ hp₁.1 fun key heq => ?_)
      fun _ hok => checkInhabited_ok_iff.1 hok
    exact checkInhabited_neverStalls key (heq ▸ he)
  rw [bind_assoc]
  refine hcheck.bind fun _ p₂ hp₂ hle hinhabited => ?_
  rw [pure_bind]
  refine .afterGet (.pure hp₂ ⟨rfl, ?_⟩)
  obtain ⟨htypes, hfunctions, hmessages, hfragments⟩ := h.partsStand_stable hle hparts
  exact
    { service := rfl
      inhabited := hinhabited
      types := htypes
      functions := hfunctions
      messages := hmessages
      allFragments := hfragments
      fragments := rfl
      externals := rfl }

end Outline

/-! ## Sites -/

/-- A name with a schema stands for a raw declaration, given what raw schemas stand for. -/
def DeclarationStands (stands : Value → Schema → Prop) (raw : Value) (name : String)
    (schema : Schema) : Prop :=
  RawDocument.name? raw = some name ∧
    ∃ rawSchema, raw.member? "schema" = some rawSchema ∧ stands rawSchema schema

/-- Declarations that stand for raw ones one by one are found under the same names. -/
theorem rel_declaration? {α : Type} {stands : Value → Schema → Prop} {name : α → String}
    {schema : α → Schema} {raws : List Value} {as : List α}
    (h : List.Forall₂ (fun raw a => DeclarationStands stands raw (name a) (schema a)) raws as)
    (n : String) :
    Option.Rel stands ((RawDocument.declaration? raws n).bind (Value.member? "schema"))
      ((as.find? fun a => name a == n).map schema) := by
  have hfind := rel_find? (p := fun raw => RawDocument.name? raw == some n)
    (q := fun a => name a == n) h fun hdeclared => by rw [hdeclared.1]; rfl
  rw [Option.map_eq_bind]
  refine rel_bind hfind fun {raw a} hdeclared => ?_
  obtain ⟨-, rawSchema, hschema, hstands⟩ := hdeclared
  rw [hschema]
  exact .some hstands

/-- Among such declarations, some schema stands for every raw schema. -/
theorem exists_of_declarationStands {α : Type} {stands : Value → Schema → Prop} {name : α → String}
    {schema : α → Schema} {raws : List Value} {as : List α}
    (h : List.Forall₂ (fun raw a => DeclarationStands stands raw (name a) (schema a)) raws as)
    {raw rawSchema : Value} (hmem : raw ∈ raws) (hat : raw.member? "schema" = some rawSchema) :
    ∃ schema, stands rawSchema schema := by
  obtain ⟨a, -, -, rawSchema', hat', hstands⟩ := exists_of_forall₂_right h.flip hmem
  cases hat.symm.trans hat'
  exact ⟨_, hstands⟩

/-- Among such declarations, every schema stands for some raw schema. -/
theorem exists_raw_of_declarationStands {α : Type} {stands : Value → Schema → Prop} {name : α → String}
    {schema : α → Schema} {raws : List Value} {as : List α}
    (h : List.Forall₂ (fun raw a => DeclarationStands stands raw (name a) (schema a)) raws as)
    {a : α} (ha : a ∈ as) :
    ∃ raw ∈ raws, ∃ rawSchema, raw.member? "schema" = some rawSchema ∧ stands rawSchema (schema a) := by
  obtain ⟨raw, hraw, -, hdeclared⟩ := exists_of_forall₂_right h ha
  exact ⟨raw, hraw, hdeclared⟩

/-- What is checked of every interface, whatever it stands for. -/
structure Interface.Checked (i : Interface) : Prop where
  /-- The version was read from a text. -/
  version : ∃ written, Version.ofText? written = some i.service.version
  /-- No two types have the same name. -/
  typeNames : (i.types.map NamedType.name).Nodup
  /-- Every type was found to have a finite value. -/
  inhabited : ∀ t ∈ i.types, t.name ∈ finiteTypes i.types

/-- An interface stands for a raw document, given the interfaces of the documents that were asked
for, how these are linked to their documents, and what raw schemas stand for. -/
structure Interface.StandsFor (i : Interface) (document : Option String) (raw : Value)
    (externals : List (String × Interface)) (link : String → Interface → Prop)
    (stands : Value → Schema → Prop) : Prop where
  /-- It knows the key of its document. -/
  key : i.document = document
  /-- It was checked. -/
  checked : i.Checked
  /-- The interfaces are those of other documents. -/
  linked : ∀ key j, (key, j) ∈ externals → some key ≠ document ∧ link key j
  /-- Their registries are those that it reaches. -/
  registry : i.registry.externals = mergeExternals externals
  /-- It has the types that are declared. -/
  types : ∀ name, (RawDocument.declaration? (RawDocument.list "types" raw) name).isSome →
    (i.type? name).isSome
  /-- The schema at each site stands for the raw schema there. -/
  sites : ∀ site, Option.Rel stands (RawDocument.schemaAt? raw site) (i.schemaAt? site)
  /-- Every schema stands for some raw schema of the document. -/
  schemas : ∀ schema, i.HasSchema schema → ∃ fragment rawSchema,
    RawDocument.HasSchema raw fragment rawSchema ∧ stands rawSchema schema
  /-- Some schema stands for every raw schema. -/
  raws : ∀ {fragment rawSchema}, RawDocument.HasSchema raw fragment rawSchema →
    ∃ schema, stands rawSchema schema

section Sites

variable {stands : Standing σ} {p : Progress σ}

open Resolves (NamedStands FunctionStands ReturnsStand OutlineStands)

theorem declarationStands_of_namedStands {header : Header} {raw : Value} {name : String}
    {schema : Schema} (hof : header.IsOf raw) (h : NamedStands stands header name schema p) :
    DeclarationStands (stands p.library p.externals) raw name schema := by
  obtain ⟨hname, rawSchema, hschema, hstands⟩ := h
  refine ⟨by rw [hof.name?, hname], rawSchema, ?_, hstands⟩
  obtain ⟨rfl, -⟩ := hof
  exact hschema

theorem forall₂_declarationStands {α : Type} {name : α → String} {schema : α → Schema}
    {raws : List Value} {headers : List Header} {as : List α}
    (hof : List.Forall₂ (fun raw header => Header.IsOf header raw) raws headers)
    (h : List.Forall₂ (fun header a => NamedStands stands header (name a) (schema a) p) headers as) :
    List.Forall₂ (fun raw a =>
      DeclarationStands (stands p.library p.externals) raw (name a) (schema a)) raws as :=
  (forall₂_comp hof h).imp fun _ _ ⟨_, hof, h⟩ => declarationStands_of_namedStands hof h

theorem rel_returns {header : Header} {raw : Value} {returns : Option Returns}
    (hof : header.IsOf raw) (h : ReturnsStand stands header.raw returns p) :
    Option.Rel (stands p.library p.externals)
      ((raw.member? "returns").bind (Value.member? "schema")) (returns.map Returns.schema) := by
  obtain ⟨rfl, -⟩ := hof
  unfold ReturnsStand at h
  rw [RawDocument.member?_object]
  split at h
  · rw [h]
    exact .none
  · obtain ⟨members, hmembers, rawSchema, hschema, hstands⟩ := h
    rw [hmembers, Option.bind_some, RawDocument.member?_object, hschema]
    exact .some hstands

/-- Functions that stand for raw ones are found under the same names. -/
theorem rel_function? {raws : List Value} {headers : List FunctionHeader} {fs : List Function}
    (hof : List.Forall₂ (fun raw f => FunctionHeader.IsOf f raw) raws headers)
    (h : List.Forall₂ (fun header f => FunctionStands stands header f p) headers fs) (n : String) :
    Option.Rel (fun raw f => ∃ header, FunctionHeader.IsOf header raw ∧
        FunctionStands stands header f p)
      (RawDocument.declaration? raws n) (fs.find? fun f => f.name == n) := by
  refine rel_find? (forall₂_comp hof h) fun {raw f} ⟨header, hof, hf⟩ => ?_
  rw [hof.1.name?, hf.1]
  rfl

section Outline

variable {raw : Value} {outline : Outline} {i : Interface} (hof : outline.IsOf raw)
  (h : OutlineStands stands outline i p)
  (hfragments : ∀ key schema, (key, schema) ∈ p.fragments →
    ∃ raw, outline.fragments.lookup key = some raw ∧ stands p.library p.externals raw schema)

include hof h in
theorem exists_function {rawFunction : Value} (hf : rawFunction ∈ RawDocument.list "functions" raw) :
    ∃ header f, FunctionHeader.IsOf header rawFunction ∧ FunctionStands stands header f p := by
  obtain ⟨f, -, header, hheader, hf⟩ :=
    exists_of_forall₂_right (forall₂_comp hof.functions h.functions).flip hf
  exact ⟨header, f, hheader, hf⟩

include hof h hfragments

theorem rel_sites (site : Site) : Option.Rel (stands p.library p.externals)
    (RawDocument.schemaAt? raw site) (i.schemaAt? site) := by
  cases site with
  | type name => exact rel_declaration? (forall₂_declarationStands hof.types h.types) name
  | message name => exact rel_declaration? (forall₂_declarationStands hof.messages h.messages) name
  | argument function name =>
    refine rel_bind (rel_function? hof.functions h.functions function) fun {raw f} hf => ?_
    obtain ⟨header, hheader, hf⟩ := hf
    exact rel_declaration? (forall₂_declarationStands hheader.2 hf.2.1) name
  | returns function =>
    refine rel_bind (rel_function? hof.functions h.functions function) fun {raw f} hf => ?_
    obtain ⟨header, hheader, hf⟩ := hf
    exact rel_returns hheader.1 hf.2.2
  | fragment key =>
    show Option.Rel _ _ (i.fragments.lookup key)
    rw [hof.fragments key, h.fragments]
    cases hschema : p.fragments.lookup key with
    | some schema =>
      obtain ⟨raw, hraw, hstands⟩ := hfragments key schema (mem_of_lookup hschema)
      rw [hraw]
      exact .some hstands
    | none =>
      cases hraw : outline.fragments.lookup key with
      | none => exact .none
      | some raw =>
        have hthere := h.allFragments _ (mem_of_lookup hraw)
        simp [hschema] at hthere

theorem exists_schema {fragment : Option String} {rawSchema : Value}
    (hschema : RawDocument.HasSchema raw fragment rawSchema) :
    ∃ schema, stands p.library p.externals rawSchema schema := by
  cases hschema with
  | type ht hat =>
    exact exists_of_declarationStands (forall₂_declarationStands hof.types h.types) ht hat
  | message hm hat =>
    exact exists_of_declarationStands (forall₂_declarationStands hof.messages h.messages) hm hat
  | argument hf ha hat =>
    obtain ⟨header, f, hheader, hf⟩ := exists_function hof h hf
    exact exists_of_declarationStands (forall₂_declarationStands hheader.2 hf.2.1) ha hat
  | returns hf hr hat =>
    obtain ⟨header, f, hheader, hf⟩ := exists_function hof h hf
    have hreturns := rel_returns hheader.1 hf.2.2
    rw [hr, Option.bind_some, hat] at hreturns
    generalize f.returns.map Returns.schema = resolved at hreturns
    cases hreturns with
    | some hstands => exact ⟨_, hstands⟩
  | @fragment key _ hat =>
    rw [hof.fragments key] at hat
    obtain ⟨schema, hschema⟩ := Option.isSome_iff_exists.1 (h.allFragments _ (mem_of_lookup hat))
    obtain ⟨raw', hraw, hstands⟩ := hfragments key schema (mem_of_lookup hschema)
    cases hat.symm.trans hraw
    exact ⟨schema, hstands⟩

theorem exists_rawSchema {schema : Schema} (hschema : i.HasSchema schema) :
    ∃ fragment rawSchema, RawDocument.HasSchema raw fragment rawSchema ∧
      stands p.library p.externals rawSchema schema := by
  cases hschema with
  | type ht =>
    obtain ⟨_, hraw, rawSchema, hat, hstands⟩ :=
      exists_raw_of_declarationStands (forall₂_declarationStands hof.types h.types) ht
    exact ⟨none, rawSchema, .type hraw hat, hstands⟩
  | message hm =>
    obtain ⟨_, hraw, rawSchema, hat, hstands⟩ :=
      exists_raw_of_declarationStands (forall₂_declarationStands hof.messages h.messages) hm
    exact ⟨none, rawSchema, .message hraw hat, hstands⟩
  | argument hf ha =>
    obtain ⟨_, hrawFunction, header, hheader, hf⟩ :=
      exists_of_forall₂_right (forall₂_comp hof.functions h.functions) hf
    obtain ⟨_, hraw, rawSchema, hat, hstands⟩ :=
      exists_raw_of_declarationStands (forall₂_declarationStands hheader.2 hf.2.1) ha
    exact ⟨none, rawSchema, .argument hrawFunction hraw hat, hstands⟩
  | returns hf hr =>
    obtain ⟨rawFunction, hrawFunction, header, hheader, hf⟩ :=
      exists_of_forall₂_right (forall₂_comp hof.functions h.functions) hf
    have hreturns := rel_returns hheader.1 hf.2.2
    rw [hr, Option.map_some] at hreturns
    generalize hat : (rawFunction.member? "returns").bind (Value.member? "schema") = found at hreturns
    cases hreturns with
    | some hstands =>
      obtain ⟨rawReturns, hraw, hat⟩ := Option.bind_eq_some_iff.1 hat
      exact ⟨none, _, .returns hrawFunction hraw hat, hstands⟩
  | @fragment key _ hfragment =>
    rw [h.fragments] at hfragment
    obtain ⟨rawSchema, hraw, hstands⟩ := hfragments _ _ hfragment
    exact ⟨some key, rawSchema, .fragment ((hof.fragments key).trans hraw), hstands⟩

omit hfragments in
theorem checked_of_outlineStands : i.Checked where
  version := h.service ▸ hof.version
  typeNames := by
    have hnames : outline.types.map Header.name = i.types.map NamedType.name :=
      map_eq_map_of_forall₂ h.types fun _ _ ht => ht.1.symm
    exact hnames ▸ hof.typeNames
  inhabited := h.inhabited

/-- What was resolved from an outline stands for the document of the outline. -/
theorem standsFor_of_outlineStands {document : Option String}
    {link : σ → String → Interface → Prop} (hdocument : i.document = document)
    (hlinked : ∀ key j, (key, j) ∈ p.externals → some key ≠ document ∧ link p.library key j) :
    i.StandsFor document raw p.externals (link p.library) (stands p.library p.externals) where
  key := hdocument
  checked := checked_of_outlineStands hof h
  linked := hlinked
  registry := h.externals
  types := by
    intro name hname
    have hfind := rel_find? (p := fun raw => RawDocument.name? raw == some name)
      (q := fun (t : NamedType) => t.name == name) (forall₂_declarationStands hof.types h.types)
      fun ht => by rw [ht.1]; rfl
    exact (rel_isSome hfind).symm.trans hname
  sites := rel_sites hof h hfragments
  schemas _ := exists_rawSchema hof h hfragments
  raws := exists_schema hof h hfragments

end Outline

end Sites

/-- A document is resolved if its outline is. -/
theorem exists_of_resolveDocument_ok {rules : IdentifierRules} {document : Option String}
    {library : Option (Library σ)} {raw : Value} {s s' : σ} {i : Interface}
    (h : resolveDocument rules document library raw s = .ok i s') :
    ∃ outline p, Outline.ofValue rules document raw = .ok outline ∧
      outline.resolve document library ⟨[], [], s⟩ = .ok i p ∧ s' = p.library := by
  unfold resolveDocument at h
  cases houtline : Outline.ofValue rules document raw with
  | error e =>
    rw [houtline] at h
    cases h
  | ok outline =>
    rw [houtline] at h
    dsimp only at h
    cases hresolve : outline.resolve document library ⟨[], [], s⟩ with
    | error e p =>
      rw [hresolve] at h
      cases h
    | ok i p =>
      rw [hresolve] at h
      cases h
      exact ⟨outline, p, rfl, hresolve, rfl⟩

/-- Resolving a document keeps the discipline of its library and gives an interface that stands for
the document. -/
theorem resolveDocument_runs {L : Discipline Error σ} {rules : IdentifierRules}
    {document : Option String} {library : Option (Library σ)} {raw : Value}
    {link : σ → String → Interface → Prop} {stands : Standing σ} {s : σ} (hs : L.inv s)
    (hfault : ∀ e, (∀ key, e ≠ .stalled key) → L.fault e s)
    (h : ∀ outline : Outline, outline.IsOf raw →
      Resolves L ⟨document, outline.types.map Header.name, library⟩ outline.fragments
        (RawDocument.Names (fun _ => True) raw) link stands) :
    L.Runs (resolveDocument rules document library raw) s fun i s' =>
      ∃ externals, i.StandsFor document raw externals (link s') (stands s' externals) := by
  unfold Discipline.Runs resolveDocument
  cases houtline : Outline.ofValue rules document raw with
  | error e =>
    have hnever : ∀ key, e ≠ .stalled key := fun key heq =>
      Outline.ofValue_flaws.neverStalls key (heq ▸ houtline)
    exact ⟨hs, L.refl s, hfault e hnever⟩
  | ok outline =>
    have hof := Outline.isOf_of_ofValue houtline
    have hresolves := h outline hof
    have hruns := hresolves.resolve_runs hof (fun _ hname => hname) (hresolves.progress_start s hs)
    unfold Discipline.Runs at hruns
    dsimp only
    cases hresolve : outline.resolve document library ⟨[], [], s⟩ with
    | error e p =>
      rw [hresolve] at hruns
      exact ⟨hruns.1.1, hruns.2.1.1, hruns.2.2⟩
    | ok i p =>
      rw [hresolve] at hruns
      obtain ⟨hp, hle, hdocument, houtline⟩ := hruns
      exact ⟨hp.1, hle.1, p.externals,
        standsFor_of_outlineStands hof houtline hp.2.2 hdocument hp.2.1⟩

end ServiceContract
