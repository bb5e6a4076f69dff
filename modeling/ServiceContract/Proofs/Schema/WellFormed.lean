import ServiceContract.Proofs.Schema.Nodes
import ServiceContract.Proofs.Schema.Reading

/-!
# Well-formed schemas

In a well-formed schema nothing is chosen from an empty list, and the fields of an object can be told by
their names: what the check of closed objects and the search for finite values rely on. Reading makes no
other schemas as long as references stand for no others. An object is read with a field for each of its
properties, in order, and then one for each required name that is no property, in the order in which
these are mentioned first; the names that are required twice, or required and a property, make no
second field.
-/

namespace ServiceContract

open Json (Value Members)
open RawSchema (HasForm TypedForm ListsSome)

namespace Schema

/-- Something is listed at the node if it has a list, and its fields have different names. -/
def IsWellFormed : Schema → Prop
  | .enum values => values ≠ []
  | .union alternatives => alternatives ≠ []
  | .object fields _ => (fields.map Field.name).Nodup
  | _ => True

/-- The schema and everything in it is well formed. -/
abbrev WellFormed (schema : Schema) : Prop := schema.Everywhere IsWellFormed

theorem isWellFormed_rebase {document : String} {schema : Schema} (h : schema.IsWellFormed) :
    (schema.rebase document).IsWellFormed := by
  cases schema with
  | object fields closed =>
    rw [rebase_object]
    show ((fields.map (rebaseField document)).map Field.name).Nodup
    rw [List.map_map]
    exact h
  | union alternatives =>
    rw [rebase_union]
    intro hnil
    exact h (List.map_eq_nil_iff.1 hnil)
  | tuple => rw [rebase_tuple]; trivial
  | array => rw [rebase_array]; trivial
  | reference => rw [rebase_reference]; trivial
  | const | enum | primitive | anything => exact h

end Schema

theorem readsTo_isWellFormed : ReadsTo Value.DistinctKeys Schema.IsWellFormed where
  item := readsTo_hasDistinctNames.item
  member := readsTo_hasDistinctNames.member
  anything := trivial
  reference _ := trivial
  const _ := trivial
  enum _ hne := hne
  primitive _ _ := trivial
  object := readsTo_hasDistinctNames.object
  tuple _ := trivial
  array _ _ := trivial
  union hne := hne
  rebase _ := Schema.isWellFormed_rebase

/-! ## Fields -/

namespace RawSchema

/-- The fields are those of an object with these members: the properties in order, then the required
names without a property in the order of first mention. -/
structure HasFields (members : Members) (fields : List Field) : Prop where
  /-- The names of the fields. -/
  names : fields.map Field.name = (properties members).map Prod.fst ++
    ((required members).filter fun name =>
      decide (name ∉ (properties members).map Prod.fst)).eraseDups
  /-- A field is required if its name is among the required ones, and only then. -/
  required : ∀ field ∈ fields, field.required = true ↔ field.name ∈ required members

theorem names_foldl_required {names : List String} {fields : List Field} :
    (names.foldl (fun fields name =>
        if fields.any fun field => field.name == name then fields
        else fields ++ [⟨name, .anything, true⟩]) fields).map Field.name =
      fields.map Field.name ++
        (names.filter fun name => decide (name ∉ fields.map Field.name)).eraseDups := by
  induction names generalizing fields with
  | nil => simp
  | cons name rest ih =>
    rw [List.foldl_cons, ih]
    by_cases hthere : name ∈ fields.map Field.name
    · have hany : (fields.any fun field => field.name == name) = true := by simpa using hthere
      rw [if_pos hany, List.filter_cons_of_neg (by simpa using hthere)]
    · have hany : ¬ (fields.any fun field => field.name == name) = true := by simpa using hthere
      rw [if_neg hany, List.filter_cons_of_pos (by simpa using hthere), List.eraseDups_cons,
        List.filter_filter, List.map_append, List.append_assoc, List.map_singleton,
        List.singleton_append]
      -- What comes later is new if it is neither there before nor the name that was just added.
      have hlater : ∀ other : String,
          decide (other ∉ fields.map Field.name ++ [name]) =
            (!other == name && decide (other ∉ fields.map Field.name)) := by
        intro other
        by_cases hname : other = name <;> simp [hname]
      simp only [hlater]

/-- What is read as an object has the fields of one. -/
theorem TypedForm.hasFields {part : Value → Schema → Prop} {members : Members} {name : String}
    {fields : List Field} {closed : Bool} (h : TypedForm part members name (.object fields closed)) :
    HasFields members fields := by
  cases h with
  | @object properties' hproperties =>
    have hnames : properties'.map Prod.fst = (properties members).map Prod.fst :=
      (map_eq_map_of_forall₂ hproperties fun _ _ h => h.1.symm).symm
    constructor
    · rw [← hnames, Schema.fieldsOf, names_foldl_required, List.map_map]
      rfl
    · intro field hfield
      rcases mem_fieldsOf.1 hfield with ⟨property, -, rfl⟩ | ⟨required, hrequired, -, rfl⟩
      · exact decide_eq_true_iff
      · exact iff_of_true rfl hrequired

end RawSchema

/-! ## Reading -/

namespace Schema

variable {σ : Type} {ref : String → Schema → Prop} {raw : Value} {schema : Schema}

/-- Reading the raw schema gives the schema, given what references give: this is the least relation that
follows the form of raw schemas. -/
def ReadFrom (ref : String → Schema → Prop) (raw : Value) (schema : Schema) : Prop :=
  ∀ part : Value → Schema → Prop,
    (∀ raw schema, HasForm ref part raw schema → ListsSome raw → part raw schema) → part raw schema

theorem ReadFrom.of_hasForm (h : HasForm ref (ReadFrom ref) raw schema) (hlists : ListsSome raw) :
    ReadFrom ref raw schema := by
  intro part hclosed
  have hpart : ∀ raw schema, ReadFrom ref raw schema → part raw schema :=
    fun _ _ hread => hread part hclosed
  exact hclosed raw schema (h.mono (fun _ _ href => href) hpart) hlists

/-- What a raw schema is read as has one of its forms, with parts that are read in turn. -/
theorem readFrom_iff : ReadFrom ref raw schema ↔ HasForm ref (ReadFrom ref) raw schema ∧ ListsSome raw := by
  constructor
  · intro h
    apply h fun raw schema => HasForm ref (ReadFrom ref) raw schema ∧ ListsSome raw
    intro raw schema hform hlists
    refine ⟨hform.mono (fun _ _ href => href) ?_, hlists⟩
    rintro raw schema ⟨hpart, hlists⟩
    exact .of_hasForm hpart hlists
  · rintro ⟨hform, hlists⟩
    exact .of_hasForm hform hlists

/-- The resolver gives the schema for the reference, from some location and some state that it may be
in. -/
def Gives (inv : σ → Prop) (refs : RefResolver σ) (text : String) (schema : Schema) : Prop :=
  ∃ location s s', inv s ∧ refs text location s = .ok schema s'

/-- The resolver stays in the states with the invariant, and gives well-formed schemas only. -/
def GivesWellFormed (inv : σ → Prop) (refs : RefResolver σ) : Prop :=
  ∀ text location s, inv s → inv (stateAfter (refs text location) s) ∧
    ∀ schema s', refs text location s = .ok schema s' → schema.WellFormed

/-- Reading a raw schema gives a well-formed schema if references do. -/
theorem wellFormed_of_ofValue {inv : σ → Prop} {refs : RefResolver σ} {location : String} {s s' : σ}
    (hkeys : raw.DistinctKeys) (hrefs : GivesWellFormed inv refs) (hs : inv s)
    (h : ofValue refs raw location s = .ok schema s') :
    schema.WellFormed ∧ ReadFrom (Gives inv refs) raw schema := by
  have hgives : ∀ text schema, Gives inv refs text schema → schema.WellFormed := by
    rintro text schema ⟨location, s, s', hs, hgives⟩
    exact (hrefs text location s hs).2 schema s' hgives
  have hkeeps : Keeps (.ofInv inv) (fun _ => True) refs (fun _ => Gives inv refs)
      fun _ raw schema => (raw.DistinctKeys → schema.WellFormed) ∧ ReadFrom (Gives inv refs) raw schema :=
    { fault := fun _ _ _ _ => trivial
      refs := fun text location s _ hs =>
        (Discipline.Runs.of_stateAfter (hrefs text location s hs).1).result.imp
          fun schema s' _ _ hgives => ⟨location, s, s', hs, hgives.1⟩
      stable := fun _ hpart => hpart
      form := fun _ hform hlists =>
        ⟨fun horder => readsTo_isWellFormed.everywhere_of_hasForm hform hlists horder hgives
            fun _ _ hpart => hpart.1,
          .of_hasForm (hform.mono (fun _ _ href => href) fun _ _ hpart => hpart.2) hlists⟩ }
  obtain ⟨-, -, hwellFormed, hread⟩ :=
    (ofValue_runs hkeeps raw (fun _ _ => trivial) location s hs).ok h
  exact ⟨hwellFormed hkeys, hread⟩

end Schema

end ServiceContract
