import ServiceContract.Proofs.Document.Links
import ServiceContract.Proofs.Document.Wiring
import ServiceContract.Proofs.Schema.Nodes

/-!
# What holds at every node of an interface

Whatever reading ensures at the nodes of a schema holds at the nodes of all schemas of the interfaces
in a store, fragments of other documents included, as long as the raw documents are in order.
-/

namespace ServiceContract

open Json (Value Members)

/-- Raw schemas that are in order are read as schemas whose nodes meet a condition. -/
def reading (inOrder : Value → Prop) (P : Schema → Prop) : Store.Meaning where
  serves _ raw := inOrder raw
  stands _ rawDocument _ _ raw schema := inOrder rawDocument → inOrder raw → schema.Everywhere P

section Reading

variable {inOrder : Value → Prop} {P : Schema → Prop} (hreads : ReadsTo inOrder P)

include hreads

/-- What stands in a value that is in order is in order. -/
theorem ReadsTo.of_within {inner raw : Value} (h : inner.Within raw) (horder : inOrder raw) :
    inOrder inner := by
  induction h with
  | refl => exact horder
  | member hmem _ ih => exact ih (hreads.member horder _ hmem)
  | item hmem _ ih => exact ih (hreads.item horder _ hmem)

section StandsFor

variable {i : Interface} {document : Option String} {raw : Value} {s : Store}
  {externals : List (String × Interface)} {link : String → Interface → Prop}
  (h : i.StandsFor document raw externals link
    ((reading inOrder P).stands document raw s externals)) (horder : inOrder raw)

include h horder

/-- The condition holds everywhere in the schemas of an interface. -/
theorem everywhere_of_hasSchema {schema : Schema} (hschema : i.HasSchema schema) :
    schema.Everywhere P := by
  obtain ⟨fragment, rawSchema, hat, hstands⟩ := h.schemas schema hschema
  exact hstands horder (hreads.of_within hat.within horder)

end StandsFor

/-- Reading a document ensures the condition if all documents are in order. -/
theorem reading_respects {loader : Loader}
    (hloads : ∀ key raw, loader.load key = .ok raw → inOrder raw) :
    (reading inOrder P).Respects loader where
  loads h := hloads _ _ h
  stable _ _ _ h := h
  form := by
    intro document rawDocument outline library s externals raw schema hof _ _ _ hs hlinked hform
      hlists hdocument horder
    refine hreads.everywhere_of_hasForm hform hlists horder (fun text schema href => ?_)
      fun raw schema hpart => hpart hdocument
    cases href with
    | ownType | type => exact .leaf (hreads.reference _) fun part hpart => by cases hpart
    | @ownFragment key _ _ rawFragment _ _ _ _ _ hraw h =>
      have hat := (hof.fragments key).trans hraw
      exact h hdocument (hreads.of_within (RawDocument.HasSchema.fragment hat).within hdocument)
    | @fragment _ other _ j _ _ _ _ hj _ hfragment =>
      obtain ⟨rawOther, _, hraw, hstands⟩ := hs.resolved other j (hlinked other j (mem_of_lookup hj)).2
      have heverywhere := everywhere_of_hasSchema hreads hstands (hs.raws other rawOther hraw)
        (.fragment (mem_of_lookup hfragment))
      exact heverywhere.rebase fun s => hreads.rebase s

/-- The schemas of the interfaces in a store meet the condition. -/
theorem everywhere_of_lookup {s : Store} (hs : s.Sound (reading inOrder P)) {key : String}
    {i : Interface} (hi : s.resolved.lookup key = some i) {schema : Schema}
    (hschema : i.HasSchema schema) : schema.Everywhere P := by
  obtain ⟨raw, externals, hraw, hstands⟩ := hs.resolved key i hi
  exact everywhere_of_hasSchema hreads hstands (hs.raws key raw hraw) hschema

end Reading

end ServiceContract
