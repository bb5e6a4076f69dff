import ServiceContract.Proofs.Document.Declarations
import ServiceContract.Proofs.Document.Resolution
import ServiceContract.Proofs.Schema.Mirroring

/-!
# Resolving a document with known answers

What a document is resolved to depends on its library through the answers alone that it gets for the
documents it asks for. If every step of a library that keeps a state comes out as one answer for
each key, or fails with an excuse, then resolution with the library comes out as resolution with the
answers, or fails with an excuse. Only the documents matter that references name which are followed.
-/

namespace ServiceContract

open Json (Value Members)

variable {σ : Type}

/-- The library that has an answer for each key and keeps no state. -/
def Library.answering (library : Library σ) (answers : (key : String) → Except Error Interface) :
    Library Unit where
  resolveKey := library.resolveKey
  interfaceAt := fun key => always (answers key)

namespace Surroundings

/-- The same document with answers in place of its library. -/
def answering (here : Surroundings σ) (answers : (key : String) → Except Error Interface) :
    Surroundings Unit where
  document := here.document
  typeNames := here.typeNames
  library := here.library.map fun library => library.answering answers

theorem documentKey_answering {here : Surroundings σ} {answers : String → Except Error Interface}
    {r : Reference} : (here.answering answers).documentKey r = here.documentKey r := by
  unfold documentKey answering
  cases r.document with
  | none => rfl
  | some name =>
    cases here.library with
    | none => rfl
    | some library => rfl

end Surroundings

/-! ## One document with two libraries -/

theorem ofExcept_mirrors {τ α : Type} {M : Likeness Error (Progress σ) (Progress τ)}
    {x : Except Error α} : M.Mirrors (Resolving.ofExcept x) (Resolving.ofExcept x) := by
  cases x with
  | ok a => exact .pure
  | error e => exact .throw

theorem eq_ok_of_ofExcept {τ α : Type} {x : Except Error α} {p p' : Progress τ} {a : α}
    (h : Resolving.ofExcept x p = .ok a p') : x = .ok a := by
  cases x with
  | ok b =>
    cases h
    rfl
  | error e => cases h

/-- The same document, with libraries that find the same keys for names. -/
structure Surroundings.Alike {τ : Type} (here : Surroundings σ) (here' : Surroundings τ) : Prop where
  /-- The keys are the same. -/
  document : here'.document = here.document
  /-- So are the names of the types. -/
  typeNames : here'.typeNames = here.typeNames
  /-- References name the same documents. -/
  documentKey : ∀ r, here'.documentKey r = here.documentKey r

/-- Other documents are asked for alike if the libraries have them alike. -/
theorem Surroundings.external_mirrors {τ : Type} {M : Likeness Error (Progress σ) (Progress τ)}
    {here : Surroundings σ} {here' : Surroundings τ} {document location : String}
    (hexternals : ∀ p q, M.rel p q → p.externals = q.externals)
    (hput : ∀ p q found, M.rel p q →
      M.rel { p with externals := putEntry document found p.externals }
        { q with externals := putEntry document found q.externals })
    (hnone : here.library = none → here'.library = none)
    (hsome : ∀ library, here.library = some library → ∃ library', here'.library = some library' ∧
      M.Mirrors (Resolving.inLibrary (library.interfaceAt document))
        (Resolving.inLibrary (library'.interfaceAt document))) :
    M.Mirrors (here.external document location) (here'.external document location) := by
  unfold Surroundings.external
  refine .afterGet fun p q hpq => ?_
  rw [hexternals p q hpq]
  cases q.externals.lookup document with
  | some found => exact .pure hpq
  | none =>
    cases hlibrary : here.library with
    | none =>
      rw [hnone hlibrary]
      exact .throw hpq
    | some library =>
      obtain ⟨library', hlibrary', hstep⟩ := hsome library hlibrary
      rw [hlibrary']
      exact (hstep p q hpq).bind fun found p' q' _ _ hpq' =>
        ((Likeness.Mirrors.modify fun p q => hput p q found).bind fun _ => .pure) p' q' hpq'

/-- References are resolved alike if other documents are asked for alike and fragments are. -/
theorem Surroundings.Alike.resolveReference_mirrors {τ : Type}
    {M : Likeness Error (Progress σ) (Progress τ)} {here : Surroundings σ} {here' : Surroundings τ}
    (h : here.Alike here') {fragment : (key location : String) → Resolving σ Schema}
    {fragment' : (key location : String) → Resolving τ Schema} {text location : String}
    (hexternal : ∀ r document, Reference.ofText text = .ok r →
      here.documentKey r = .ok (some document) → some document ≠ here.document →
      M.Mirrors (here.external document location) (here'.external document location))
    (hfragment : ∀ key location, M.Mirrors (fragment key location) (fragment' key location)) :
    M.Mirrors (here.resolveReference fragment text location)
      (here'.resolveReference fragment' text location) := by
  unfold Surroundings.resolveReference
  rw [h.document, h.typeNames]
  cases hread : Reference.ofText text with
  | error message => exact .throw
  | ok r =>
    dsimp only
    rw [h.documentKey]
    intro p q hpq
    refine (ofExcept_mirrors p q hpq).bind fun document p' q' hx _ hpq' => ?_
    have hkey : here.documentKey r = .ok document := eq_ok_of_ofExcept hx
    cases hother : if document = here.document then none else document with
    | none =>
      cases r.target with
      | type name =>
        dsimp only
        by_cases hname : name ∈ here.typeNames
        · rw [if_pos hname, if_pos hname]
          exact .pure hpq'
        · rw [if_neg hname, if_neg hname]
          exact .throw hpq'
      | fragment key => exact hfragment key location p' q' hpq'
    | some other =>
      have hdocument : document = some other ∧ some other ≠ here.document := by
        by_cases hsame : document = here.document
        · simp [hsame] at hother
        · rw [if_neg hsame] at hother
          exact ⟨hother, hother ▸ hsame⟩
      obtain ⟨rfl, hne⟩ := hdocument
      refine (hexternal r other hread hkey hne p' q' hpq').bind fun i p'' q'' _ _ hpq'' => ?_
      cases r.target with
      | type name =>
        dsimp only
        cases i.type? name with
        | some _ => exact .pure hpq''
        | none => exact .throw hpq''
      | fragment key =>
        dsimp only
        cases i.fragment? key with
        | some schema => exact .pure hpq''
        | none => exact .throw hpq''

/-! ## Answers -/

/-- States of resolution with a library beside those of resolution with answers: the same was
achieved. -/
def progressing (M : Likeness Error σ Unit) : Likeness Error (Progress σ) (Progress Unit) where
  rel p q := M.rel p.library q.library ∧ p.fragments = q.fragments ∧ p.externals = q.externals
  inv p := M.inv p.library
  excuse e p := M.excuse e p.library
  inv_of_rel h := M.inv_of_rel h.1

/-- The library of a document gives these answers, or fails with an excuse, for the keys of documents
that may be named. -/
def Answers (M : Likeness Error σ Unit) (document : Option String) (library : Option (Library σ))
    (named : String → Prop) (answers : (key : String) → Except Error Interface) : Prop :=
  ∀ l name key, library = some l → named name → l.resolveKey document name = .ok key →
    some key ≠ document → M.Mirrors (l.interfaceAt key) (always (answers key))

section Answers

variable {M : Likeness Error σ Unit} {here : Surroundings σ} {named : String → Prop}
  {answers : (key : String) → Except Error Interface}

open Likeness (Mirrors)

/-! ## References -/

/-- A step of the library changes nothing else. -/
theorem inLibrary_mirrors {α : Type} {step : EStateM Error σ α} {r : Except Error α}
    (h : M.Mirrors step (always r)) :
    (progressing M).Mirrors (Resolving.inLibrary step) (Resolving.inLibrary (always r)) := by
  rintro p q ⟨hrel, hfragments, hexternals⟩
  have hstep := h p.library () hrel
  cases hx : step p.library with
  | ok a s' =>
    obtain ⟨_, hanswer, hrel'⟩ := hstep.ok hx
    have hleft : Resolving.inLibrary step p = .ok a { p with library := s' } := by
      unfold Resolving.inLibrary
      rw [hx]
    have hright : Resolving.inLibrary (always r) q = .ok a q := by
      unfold Resolving.inLibrary
      rw [hanswer]
    exact .of_ok hleft hright ⟨hrel', hfragments, hexternals⟩
  | error e s' =>
    obtain ⟨hinv, hfault⟩ := hstep.error hx
    have hleft : Resolving.inLibrary step p = .error e { p with library := s' } := by
      unfold Resolving.inLibrary
      rw [hx]
    refine .of_error hleft hinv (hfault.imp_right ?_)
    rintro ⟨_, hanswer⟩
    refine ⟨q, ?_⟩
    unfold Resolving.inLibrary
    rw [hanswer]

variable (h : Answers M here.document here.library named answers)

include h

/-- The interface of another document is the answer for its key. -/
theorem external_mirrors {r : Reference} {document location : String}
    (hnamed : ∀ name, r.document = some name → named name)
    (hkey : here.documentKey r = .ok (some document)) (hother : some document ≠ here.document) :
    (progressing M).Mirrors (here.external document location)
      ((here.answering answers).external document location) := by
  refine Surroundings.external_mirrors (fun _ _ hpq => hpq.2.2)
    (fun _ _ found hpq => ⟨hpq.1, hpq.2.1, congrArg (putEntry document found) hpq.2.2⟩)
    (fun hlibrary => by rw [Surroundings.answering, hlibrary]; rfl) fun library hlibrary => ?_
  obtain ⟨name, hname, hresolved⟩ := Resolves.documentKey_some hlibrary hkey
  refine ⟨library.answering answers, by rw [Surroundings.answering, hlibrary]; rfl, ?_⟩
  exact inLibrary_mirrors (h library name document hlibrary (hnamed name hname) hresolved hother)

/-- References are resolved alike if fragments are. -/
theorem resolveReference_mirrors {fragment : (key location : String) → Resolving σ Schema}
    {fragment' : (key location : String) → Resolving Unit Schema} {text location : String}
    (hnamed : ∀ name, Reference.documentOf? text = some name → named name)
    (hfragment : ∀ key location,
      (progressing M).Mirrors (fragment key location) (fragment' key location)) :
    (progressing M).Mirrors (here.resolveReference fragment text location)
      ((here.answering answers).resolveReference fragment' text location) := by
  have halike : here.Alike (here.answering answers) :=
    ⟨rfl, rfl, fun _ => Surroundings.documentKey_answering⟩
  refine halike.resolveReference_mirrors (fun r document hread hkey hother => ?_) hfragment
  refine external_mirrors h (fun name hname => hnamed name ?_) hkey hother
  unfold Reference.documentOf?
  rw [hread]
  exact hname

/-- Raw schemas are read alike if fragments are resolved alike. -/
theorem ofValue_mirrors {fragment : (key location : String) → Resolving σ Schema}
    {fragment' : (key location : String) → Resolving Unit Schema} {raw : Value} {location : String}
    (hnamed : RawSchema.NamesOnly named raw)
    (hfragment : ∀ key location,
      (progressing M).Mirrors (fragment key location) (fragment' key location)) :
    (progressing M).Mirrors (Schema.ofValue (here.resolveReference fragment) raw location)
      (Schema.ofValue ((here.answering answers).resolveReference fragment') raw location) :=
  Schema.ofValue_mirrors (fun _ _ htext => resolveReference_mirrors h htext hfragment) raw hnamed
    location

/-! ## Fragments -/

section Fragments

variable {fragments : Members} (hfragments : ∀ {key raw}, fragments.lookup key = some raw →
  RawSchema.NamesOnly named raw)

include hfragments

/-- A fragment is resolved alike, whichever fragments are being resolved around it. -/
theorem fragment_mirrors {free : Members} {stack : List String} {key location : String}
    (hfree : ∀ key raw, free.lookup key = some raw → fragments.lookup key = some raw) :
    (progressing M).Mirrors (here.fragment free stack key location)
      ((here.answering answers).fragment free stack key location) := by
  induction hlength : free.length using Nat.strong_induction_on
    generalizing free stack key location with
  | _ n ih =>
    subst hlength
    rw [Surroundings.fragment, Surroundings.fragment]
    refine .afterGet fun p q hpq => ?_
    rw [hpq.2.1]
    cases q.fragments.lookup key with
    | some schema => exact .pure hpq
    | none =>
      dsimp only
      split
      · next raw hraw =>
        have hinner : ∀ key' location, (progressing M).Mirrors
            (here.fragment (withoutKey key free) (stack ++ [key]) key' location)
            ((here.answering answers).fragment (withoutKey key free) (stack ++ [key]) key' location) :=
          fun key' location => ih _ (length_withoutKey_lt hraw)
            (fun k r hk => hfree k r (lookup_of_lookup_withoutKey hk)) rfl
        have hnamed := hfragments (hfree key raw hraw)
        refine ((ofValue_mirrors h hnamed hinner).bind fun schema => ?_) p q hpq
        refine (Mirrors.modify ?_).bind fun _ => .pure
        rintro p q ⟨hrel, hsame, hexternals⟩
        exact ⟨hrel, congrArg (putEntry key schema) hsame, hexternals⟩
      · by_cases hstack : key ∈ stack
        · rw [if_pos hstack, if_pos hstack]
          exact .throw hpq
        · rw [if_neg hstack, if_neg hstack]
          exact .throw hpq

/-! ## Declarations -/

theorem schemaAt_mirrors {raw : Value} {path : String} (hnamed : RawSchema.NamesOnly named raw) :
    (progressing M).Mirrors (here.schemaAt fragments raw path)
      ((here.answering answers).schemaAt fragments raw path) :=
  ofValue_mirrors h hnamed fun _ _ => fragment_mirrors h hfragments fun _ _ hraw => hraw

/-- A document goes together with the same document that has answers. -/
theorem together_answering :
    here.Together (progressing M).readers.toPairing (here.answering answers) named fragments where
  fault := .throw
  schemaAt := schemaAt_mirrors h hfragments
  fragment := fragment_mirrors h hfragments fun _ _ hraw => hraw
  inhabited := ofExcept_mirrors

end Fragments

end Answers

/-! ## Documents -/

section Documents

variable {M : Likeness Error σ Unit} {document : Option String} {library : Option (Library σ)}
  {raw : Value} {answers : (key : String) → Except Error Interface}

open Likeness (Mirrors)

/-- An outline is resolved alike. -/
theorem resolve_mirrors {outline : Outline} (hof : outline.IsOf raw)
    (h : Answers M document library (RawDocument.Names (fun _ => True) raw) answers) :
    (progressing M).Mirrors (outline.resolve document library)
      (outline.resolve document (library.map fun l => l.answering answers)) := by
  let here : Surroundings σ := ⟨document, outline.types.map Header.name, library⟩
  have hhere : Answers M here.document here.library
      (RawDocument.Names (fun _ => True) raw) answers := h
  have hnamed : RawDocument.NamesOnly (RawDocument.Names (fun _ => True) raw) raw :=
    fun _ hname => hname
  have htogether := together_answering hhere fun hraw =>
    namesOnly_of_lookup_fragments hof hnamed hraw
  have hparts := hof.resolveParts_pairs hnamed htogether
  rw [Outline.resolve_eq, Outline.resolve_eq]
  refine Mirrors.bind hparts fun parts => .afterGet fun p q hpq => ?_
  unfold Outline.assemble
  rw [hpq.2.1, hpq.2.2]
  exact .pure hpq

/-- Resolving a document with a library comes out as resolving it with the answers of the library, or
it fails with an excuse. -/
theorem resolveDocument_mirrors {rules : IdentifierRules}
    (h : Answers M document library (RawDocument.Names (fun _ => True) raw) answers) :
    M.Mirrors (resolveDocument rules document library raw)
      (resolveDocument rules document (library.map fun l => l.answering answers) raw) := by
  intro s _ hs
  cases houtline : Outline.ofValue rules document raw with
  | error e =>
    unfold resolveDocument
    rw [houtline]
    exact .throw hs
  | ok outline =>
    have hruns := resolve_mirrors (Outline.isOf_of_ofValue houtline) h ⟨[], [], s⟩ ⟨[], [], ()⟩
      ⟨hs, rfl, rfl⟩
    cases hresolve : outline.resolve document library ⟨[], [], s⟩ with
    | ok i p =>
      obtain ⟨q, hanswer, hrel, -⟩ := hruns.ok hresolve
      have hleft : resolveDocument rules document library raw s = .ok i p.library := by
        simp only [resolveDocument, houtline, hresolve]
      have hright : resolveDocument rules document (library.map fun l => l.answering answers) raw () =
          .ok i () := by
        simp only [resolveDocument, houtline, hanswer]
      exact .of_ok hleft hright hrel
    | error e p =>
      obtain ⟨hinv, hfault⟩ := hruns.error hresolve
      have hleft : resolveDocument rules document library raw s = .error e p.library := by
        simp only [resolveDocument, houtline, hresolve]
      refine .of_error hleft hinv (hfault.imp_right ?_)
      rintro ⟨q, hanswer⟩
      refine ⟨(), ?_⟩
      simp only [resolveDocument, houtline, hanswer]

end Documents

end ServiceContract
