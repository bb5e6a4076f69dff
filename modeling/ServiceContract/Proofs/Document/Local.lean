import ServiceContract.Proofs.Document.Links
import ServiceContract.Proofs.Schema.Mirroring

/-!
# References that stay in their document

A document may refer to its own types and fragments only. Then no other document is named in it,
neither for the check nor for resolution, and what its references stand for is told from the names of
its types and from its fragments.
-/

namespace ServiceContract

open Json (Value Members)

variable {σ : Type} {raw : Value}

/-! ## Documents -/

/-- No text under a member called `$ref`, anywhere in the value, names another document. -/
def Json.Value.RefersInside (raw : Value) : Prop :=
  ∀ members text, (Value.object members).Within raw → ("$ref", .string text) ∈ members →
    Reference.documentOf? text = none

namespace Json.Value.RefersInside

theorem of_within {inner : Value} (h : raw.RefersInside) (hinner : inner.Within raw) :
    inner.RefersInside :=
  fun members text hmembers => h members text (hmembers.trans hinner)

@[simp]
theorem object_iff {members : Members} : (Value.object members).RefersInside ↔
    (∀ text, ("$ref", .string text) ∈ members → Reference.documentOf? text = none) ∧
      ∀ entry ∈ members, entry.2.RefersInside := by
  constructor
  · intro h
    exact ⟨fun text => h members text .refl, fun entry hentry => h.of_within (.member hentry .refl)⟩
  · rintro ⟨hrefs, hmembers⟩ inner text hinner htext
    cases hinner with
    | refl => exact hrefs text htext
    | member hmem h => exact hmembers _ hmem inner text h htext

@[simp]
theorem array_iff {items : List Value} :
    (Value.array items).RefersInside ↔ ∀ item ∈ items, item.RefersInside := by
  constructor
  · intro h item hitem
    exact h.of_within (.item hitem .refl)
  · intro hitems inner text hinner htext
    cases hinner with
    | item hmem h => exact hitems _ hmem inner text h htext

@[simp]
theorem string {text : String} : (Value.string text).RefersInside :=
  fun _ _ hinner => by cases hinner

theorem not_shows {name : String} (h : raw.RefersInside) : ¬ raw.Shows name := by
  intro hshows
  induction hshows with
  | @reference members value hmem hname =>
    cases value with
    | string text =>
      have hlocal : Reference.documentOf? text = none := h members text .refl hmem
      cases hlocal.symm.trans hname
    | null | bool | number | array | object => cases hname
  | member hmem _ _ ih => exact ih (h.of_within (Within.member hmem .refl))
  | item hmem _ ih => exact ih (h.of_within (Within.item hmem .refl))

/-- The check has nowhere to go. -/
theorem documentsNamedIn_eq_nil (h : raw.RefersInside) : documentsNamedIn raw = [] :=
  List.eq_nil_iff_forall_not_mem.2 fun _ hname => h.not_shows (mem_documentsNamedIn_iff.1 hname)

theorem documentOf?_of_follows {text : String} (h : raw.RefersInside)
    (hfollows : RawSchema.Follows (fun _ => True) raw text) : Reference.documentOf? text = none := by
  induction hfollows with
  | here _ htext => exact h _ _ .refl (mem_of_lookup htext)
  | part hpart _ _ ih => exact ih (h.of_within hpart.within)

/-- Resolution asks for no document. -/
theorem namesOnly (h : raw.RefersInside) : RawDocument.NamesOnly (fun _ => False) raw := by
  rintro name ⟨fragment, schema, hschema, -, text, hfollows, hname⟩
  have hlocal := (h.of_within hschema.within).documentOf?_of_follows hfollows
  cases hlocal.symm.trans hname

end Json.Value.RefersInside

/-! ## References -/

/-- What a reference stands for in a document with these names of types, given what its fragments
stand for. -/
def localReference (typeNames : List String)
    (fragment : (key location : String) → EStateM Error σ Schema) : RefResolver σ :=
  fun text location =>
    match Reference.ofText text with
    | .error message => throw (.unresolvedReference location message)
    | .ok reference =>
      match reference.target with
      | .type name =>
        if name ∈ typeNames then return .reference (.inside name)
        else throw (.unresolvedReference location text)
      | .fragment key => fragment key location

/-- References go together if fragments and faults do. -/
theorem localReference_pairs {τ : Type} {P : ReaderPairing σ τ} {typeNames : List String}
    {fragment : (key location : String) → EStateM Error σ Schema}
    {fragment' : (key location : String) → EStateM Error τ Schema} {text location location' : String}
    (hfault : ∀ message, P.pairs (throw (.unresolvedReference location message) : EStateM Error σ Schema)
      (throw (.unresolvedReference location' message)))
    (hfragment : ∀ key, P.pairs (fragment key location) (fragment' key location')) :
    P.pairs (localReference typeNames fragment text location)
      (localReference typeNames fragment' text location') := by
  unfold localReference
  cases Reference.ofText text with
  | error message => exact hfault message
  | ok r =>
    dsimp only
    cases r.target with
    | type name =>
      dsimp only
      by_cases hname : name ∈ typeNames
      · rw [if_pos hname, if_pos hname]
        exact P.pure _
      · rw [if_neg hname, if_neg hname]
        exact hfault text
    | fragment key => exact hfragment key

namespace Surroundings

variable {here : Surroundings σ} {fragment : (key location : String) → Resolving σ Schema}
  {text key location : String}

/-- A reference that names no document is resolved in the document itself. -/
theorem resolveReference_of_local (hlocal : Reference.documentOf? text = none) :
    here.resolveReference fragment text location =
      localReference here.typeNames fragment text location := by
  unfold resolveReference localReference
  unfold Reference.documentOf? at hlocal
  cases hread : Reference.ofText text with
  | error message => rfl
  | ok r =>
    rw [hread] at hlocal
    obtain ⟨named, target⟩ := r
    obtain rfl : named = none := hlocal
    have hkey : here.documentKey ⟨none, target⟩ = .ok none := rfl
    have hown : (if (none : Option String) = here.document then none else none) =
        (none : Option String) := ite_self _
    cases target <;> simp only [hkey, Resolving.ofExcept, pure_bind, hown]

/-! ## Fragments -/

section Fragment

variable {free : Members} {stack : List String} {p : Progress σ}

/-- A fragment that was resolved before. -/
theorem fragment_of_known {schema : Schema} (h : p.fragments.lookup key = some schema) :
    here.fragment free stack key location p = .ok schema p := by
  rw [fragment, get_bind, h]
  rfl

/-- A fragment that is entered. -/
theorem fragment_of_free {rawFragment : Value} (hnew : p.fragments.lookup key = none)
    (h : free.lookup key = some rawFragment) :
    here.fragment free stack key location p =
      (do
        let schema ← Schema.ofValue
          (here.resolveReference (here.fragment (withoutKey key free) (stack ++ [key])))
          rawFragment (here.locate ("/schemas/" ++ key))
        modify fun progress => { progress with fragments := putEntry key schema progress.fragments }
        return schema : Resolving σ Schema) p := by
  rw [fragment, get_bind, hnew]
  refine congrFun ?_ p
  dsimp only
  split
  · next found hfound =>
    cases hfound.symm.trans h
    rfl
  · next hnone => cases hnone.symm.trans h

/-- A fragment that is being resolved, or that is not there. -/
theorem fragment_of_not_free (hnew : p.fragments.lookup key = none) (h : free.lookup key = none) :
    here.fragment free stack key location p =
      (if key ∈ stack then throw (fragmentCycle stack key location)
        else throw (.unresolvedReference location ("#/schemas/" ++ key)) : Resolving σ Schema) p := by
  rw [fragment, get_bind, hnew]
  refine congrFun ?_ p
  dsimp only
  split
  · next found hfound => cases hfound.symm.trans h
  · rfl

end Fragment

end Surroundings

end ServiceContract
