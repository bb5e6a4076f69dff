import Mathlib.Logic.Relation
import ServiceContract.Proofs.Document.Graph
import ServiceContract.Proofs.Document.Identifiers

/-!
# Fragments that reach themselves

A fragment leads to another one if reading it follows a reference that denotes the other one. A
fragment is resolved completely if its schema was put together, part by part, from what all the
references in it stand for; so whatever it leads to was resolved completely before. From such a
fragment every way ends, and none comes back. A document with a fragment that reaches itself is never
resolved, whether anything refers to that fragment or not.
-/

namespace ServiceContract

open Json (Value Members)
open RawSchema (HasForm TypedForm Follows)
open Relation (TransGen)

variable {σ : Type}

/-! ## More may be known -/

section Mono

variable {part part' : Value → Schema → Prop} {schema : Schema}

/-- What a reference stands for stays when parts stand for more, also when more documents were asked
for. -/
theorem RefForm.mono {here : Surroundings σ} {fragments : Members}
    {externals externals' : List (String × Interface)} {text : String}
    (h : RefForm here fragments externals part text schema) (hextends : Extends externals externals')
    (hpart : ∀ raw schema, part raw schema → part' raw schema) :
    RefForm here fragments externals' part' text schema := by
  cases h with
  | ownType hread hdocument hown htarget hname =>
    exact .ownType hread hdocument hown htarget hname
  | ownFragment hread hdocument hown htarget hraw h =>
    exact .ownFragment hread hdocument hown htarget hraw (hpart _ _ h)
  | type hread hdocument hother hi htarget hname =>
    exact .type hread hdocument hother (hextends _ _ hi) htarget hname
  | fragment hread hdocument hother hi htarget hfragment =>
    exact .fragment hread hdocument hother (hextends _ _ hi) htarget hfragment

end Mono

namespace Surroundings

/-! ## Ways from fragment to fragment -/

/-- The reference denotes a fragment of the document itself. It may name no document, or this one by
its own key. -/
def DenotesOwn (here : Surroundings σ) (text key : String) : Prop :=
  ∃ r document, Reference.ofText text = .ok r ∧ here.documentKey r = .ok document ∧
    (document = none ∨ document = here.document) ∧ r.target = .fragment key

/-- Reading the first fragment follows a reference that denotes the second one. -/
def Leads (here : Surroundings σ) (fragments : Members) (key key' : String) : Prop :=
  ∃ raw text, fragments.lookup key = some raw ∧ Follows (fun _ => True) raw text ∧
    here.DenotesOwn text key'

/-! ## Complete resolution -/

/-- The raw schema was resolved completely to the schema: this stands for it in the least way that
follows the form of raw schemas and leaves no reference open. -/
def Resolved (here : Surroundings σ) (fragments : Members) (externals : List (String × Interface))
    (raw : Value) (schema : Schema) : Prop :=
  ∀ stands : Value → Schema → Prop,
    (∀ raw schema, HasForm (RefForm here fragments externals stands) stands raw schema →
      stands raw schema) →
    stands raw schema

variable {here : Surroundings σ} {fragments : Members}
  {externals externals' : List (String × Interface)} {raw : Value} {schema : Schema}
  {key : String}

theorem Resolved.of_hasForm
    (h : HasForm (RefForm here fragments externals (here.Resolved fragments externals))
      (here.Resolved fragments externals) raw schema) : here.Resolved fragments externals raw schema := by
  intro stands hclosed
  have hpart : ∀ raw schema, here.Resolved fragments externals raw schema → stands raw schema :=
    fun _ _ hresolved => hresolved stands hclosed
  exact hclosed _ _ (h.mono (fun _ _ href => href.mono .refl hpart) hpart)

/-- What is resolved completely stays so when more documents are asked for. -/
theorem Resolved.extends (h : here.Resolved fragments externals raw schema)
    (hextends : Extends externals externals') : here.Resolved fragments externals' raw schema :=
  h _ fun _ _ hform =>
    .of_hasForm (hform.mono (fun _ _ href => href.mono hextends fun _ _ hpart => hpart)
      fun _ _ hpart => hpart)

/-- All ways end from what is denoted by the references that were resolved. -/
theorem Resolved.acc_of_follows (h : here.Resolved fragments externals raw schema) {text : String}
    (hfollows : Follows (fun _ => True) raw text) (hdenotes : here.DenotesOwn text key) :
    Acc (fun key' key => here.Leads fragments key key') key := by
  let Ends (text : String) : Prop :=
    ∀ key, here.DenotesOwn text key → Acc (fun key' key => here.Leads fragments key key') key
  have hall : ∀ text, Follows (fun _ => True) raw text → Ends text := by
    refine h (fun raw _ => ∀ text, Follows (fun _ => True) raw text → Ends text) ?_
    intro raw schema hform text
    refine hform.of_follows ?_ fun hpart => hpart
    rintro text schema href key ⟨r, document, hread, hdocument, hown, htarget⟩
    cases href with
    | ownType hread' _ _ htarget' =>
      cases hread.symm.trans hread'
      cases htarget.symm.trans htarget'
    | ownFragment hread' _ _ htarget' hraw hends =>
      cases hread.symm.trans hread'
      cases htarget.symm.trans htarget'
      -- What this fragment leads to is denoted by a reference that was followed to resolve it.
      refine ⟨_, fun key' hleads => ?_⟩
      obtain ⟨raw', text', hraw', hfollows', hdenotes'⟩ := hleads
      cases hraw.symm.trans hraw'
      exact hends text' hfollows' key' hdenotes'
    | type hread' hdocument' hother | fragment hread' hdocument' hother =>
      cases hread.symm.trans hread'
      cases hdocument.symm.trans hdocument'
      exact absurd (hown.resolve_left (by simp)) hother
  exact hall text hfollows key hdenotes

/-- All ways end from a fragment that was resolved completely. -/
theorem Resolved.acc (h : here.Resolved fragments externals raw schema)
    (hraw : fragments.lookup key = some raw) :
    Acc (fun key' key => here.Leads fragments key key') key := by
  refine ⟨_, fun key' hleads => ?_⟩
  obtain ⟨raw', text, hraw', hfollows, hdenotes⟩ := hleads
  cases hraw.symm.trans hraw'
  exact h.acc_of_follows hfollows hdenotes

/-- What was achieved so far is settled: other documents are other ones, and every fragment that is
remembered was resolved completely. -/
structure Settled (here : Surroundings σ) (fragments : Members) (p : Progress σ) : Prop where
  /-- No other document has the key of this one. -/
  externals : ∀ key i, (key, i) ∈ p.externals → some key ≠ here.document
  /-- The fragments are complete. -/
  fragments : ∀ key schema, (key, schema) ∈ p.fragments →
    ∃ raw, fragments.lookup key = some raw ∧ here.Resolved fragments p.externals raw schema

/-- Resolution starts with nothing achieved. -/
theorem Settled.start {s : σ} : here.Settled fragments ⟨[], [], s⟩ where
  externals _ _ h := by cases h
  fragments _ _ h := by cases h

/-- A remembered fragment does not reach itself. -/
theorem Settled.not_transGen {p : Progress σ} (h : here.Settled fragments p)
    (hkey : (p.fragments.lookup key).isSome) : ¬ TransGen (here.Leads fragments) key key := by
  obtain ⟨schema, hschema⟩ := Option.isSome_iff_exists.1 hkey
  obtain ⟨raw, hraw, hresolved⟩ := h.fragments key schema (mem_of_lookup hschema)
  exact not_transGen_of_acc (hresolved.acc hraw)

/-- Whatever a library keeps, complete resolution can be told from the outside. -/
theorem resolves_resolved (here : Surroundings σ) (fragments : Members) {L : Discipline Error σ}
    (hfault : ∀ e s, L.fault e s)
    (hlibrary : ∀ library key s, here.library = some library → L.inv s →
      L.Runs (library.interfaceAt key) s fun _ _ => True) :
    Resolves L here fragments (fun _ => True) (fun _ _ _ => True)
      (fun _ externals => here.Resolved fragments externals) where
  fault e s _ _ := hfault e s
  key _ _ e s _ _ _ := hfault e s
  library library _ key s hl _ _ _ hs := hlibrary library key s hl hs
  namesOnly _ _ _ := trivial
  linkStable _ _ := trivial
  standsStable _ hextends h := h.extends hextends
  form _ _ h _ := .of_hasForm h

end Surroundings

/-! ## Documents -/

/-- The raw fragments of a raw document. -/
def RawDocument.fragments (raw : Value) : Members :=
  match raw.member? "schemas" with
  | some (.object members) => members
  | _ => []

/-- Reading the first fragment of a document follows a reference that denotes the second one. -/
def RawDocument.Leads (document : Option String) (library : Option (Library σ)) (raw : Value) :
    (key key' : String) → Prop :=
  (Surroundings.mk document [] library).Leads (fragments raw)

section Documents

variable {rules : IdentifierRules} {document : Option String} {library : Option (Library σ)}
  {raw : Value} {outline : Outline} {s s' : σ} {i : Interface}

theorem RawDocument.lookup_fragments {key : String} (hof : outline.IsOf raw) :
    outline.fragments.lookup key = (RawDocument.fragments raw).lookup key := by
  rw [← hof.fragments]
  unfold schemaAt? fragments
  cases raw.member? "schemas" with
  | none => rfl
  | some value => cases value <;> rfl

/-- The outline has the fragments of the document. -/
theorem RawDocument.leads_eq (hof : outline.IsOf raw) :
    RawDocument.Leads document library raw =
      (Surroundings.mk document (outline.types.map Header.name) library).Leads outline.fragments := by
  funext key key'
  unfold Leads Surroundings.Leads
  rw [lookup_fragments hof]
  rfl

/-- Resolving an outline settles every fragment of it. -/
theorem Outline.settled_of_resolve (hof : outline.IsOf raw) {p : Progress σ}
    (h : outline.resolve document library ⟨[], [], s⟩ = .ok i p) :
    (Surroundings.mk document (outline.types.map Header.name) library).Settled outline.fragments p ∧
      ∀ entry ∈ outline.fragments, (p.fragments.lookup entry.1).isSome := by
  have hresolves := Surroundings.resolves_resolved (L := anything Error σ)
    ⟨document, outline.types.map Header.name, library⟩ outline.fragments (fun _ _ => trivial)
    fun _ _ _ _ _ => anything_runs
  have hruns := hresolves.resolve_runs hof (fun _ _ => trivial) (hresolves.progress_start s trivial)
  obtain ⟨⟨-, hexternals, hfragments⟩, -, -, houtline⟩ := hruns.ok h
  exact ⟨⟨fun key i hi => (hexternals key i hi).1, hfragments⟩, houtline.allFragments⟩

/-- In a document that is resolved no fragment reaches itself. -/
theorem not_transGen_of_resolveDocument
    (h : resolveDocument rules document library raw s = .ok i s') (key : String) :
    ¬ TransGen (RawDocument.Leads document library raw) key key := by
  obtain ⟨outline, p, houtline, hresolve, -⟩ := exists_of_resolveDocument_ok h
  have hof := Outline.isOf_of_ofValue houtline
  obtain ⟨hsettled, hall⟩ := Outline.settled_of_resolve hof hresolve
  rw [RawDocument.leads_eq hof]
  intro hcircle
  obtain ⟨_, ⟨raw', _, hraw, -⟩, -⟩ := TransGen.head'_iff.1 hcircle
  exact hsettled.not_transGen (hall _ (mem_of_lookup hraw)) hcircle

end Documents

end ServiceContract
