import ServiceContract.Proofs.Schema.Satisfaction
import ServiceContract.Proofs.Validation.Admission

/-!
# Denotation

A raw schema denotes a resolved one if both accept the same values, whatever types accept. This
follows the form of raw schemas: constants, alternatives, objects and arrays denote what they are
read as as soon as their parts do, and what a reference denotes is left to whoever resolves it.
-/

namespace ServiceContract

open Json (Value Members)
open RawSchema

/-- What the types accept that are referred to in a document. -/
def acceptedFrom (types : (document name : String) → Value → Prop) (document : String)
    (target : TypeRef) : Value → Prop :=
  types (target.document.getD document) target.name

/-- The raw schema, read in a document, accepts the values that the resolved one accepts there,
whatever types accept. -/
def Denotes (documents : (key : String) → Option Value) (document : String) (raw : Value)
    (schema : Schema) : Prop :=
  ∀ types value,
    Admits (acceptedFrom types document) schema value ↔
      SatisfiesWith documents types document raw value

/-! ## By the form of the raw schema -/

section Forms

variable {documents : (key : String) → Option Value} {document : String} {members : Members}

/-- The fields that stand for the properties of an object accept what the properties accept. -/
theorem admits_fieldsOf_iff {types : (document name : String) → Value → Prop} {value : Value}
    {fields : List (String × Schema)}
    (hfields : List.Forall₂ (fun raw field => field.1 = raw.1 ∧
      Denotes documents document raw.2 field.2) (properties members) fields) :
    Admits (acceptedFrom types document)
        (.object (Schema.fieldsOf fields (required members)) (isClosed members)) value ↔
      OfType (SatisfiesWith documents types) "object" document members value := by
  have hname : ∀ name, (∃ p ∈ properties members, p.1 = name) ↔ ∃ p ∈ fields, p.1 = name := by
    intro name
    refine exists_mem_iff_of_forall₂ hfields fun {raw field} h => ?_
    rw [h.1]
  have hchild : ∀ values : Members,
      (∀ p ∈ properties members, ∀ child, values.lookup p.1 = some child →
        SatisfiesWith documents types document p.2 child) ↔
      ∀ p ∈ fields, ∀ child, values.lookup p.1 = some child →
        Admits (acceptedFrom types document) p.2 child := by
    intro values
    refine forall_mem_iff_of_forall₂ hfields fun {raw field} h => ?_
    rw [h.1]
    exact forall₂_congr fun child _ => (h.2 types child).symm
  rw [admits_object_iff, ofType_object_iff]
  refine exists_congr fun values => and_congr_right fun _ => ?_
  constructor
  · rintro ⟨hrequired, hadmits, hclosed⟩
    refine ⟨fun name hname' => ?_, (hchild values).2 fun p hp child hc => ?_, ?_⟩
    · by_cases hthere : ∃ p ∈ fields, p.1 = name
      · obtain ⟨p, hp, rfl⟩ := hthere
        exact hrequired _ (mem_fieldsOf.2 (.inl ⟨p, hp, rfl⟩)) (decide_eq_true hname')
      · have hnew : ∀ p ∈ fields, p.1 ≠ name := fun p hp heq => hthere ⟨p, hp, heq⟩
        exact hrequired _ (mem_fieldsOf.2 (.inr ⟨name, hname', hnew, rfl⟩)) rfl
    · exact hadmits _ (mem_fieldsOf.2 (.inl ⟨p, hp, rfl⟩)) child hc
    · intro hc entry hentry
      obtain ⟨field, hfield, heq⟩ := hclosed hc entry hentry
      rcases mem_fieldsOf.1 hfield with ⟨p, hp, rfl⟩ | ⟨name, hmem, -, rfl⟩
      · exact .inr ((hname _).2 ⟨p, hp, heq⟩)
      · exact .inl (heq ▸ hmem)
  · rintro ⟨hrequired, hproperties, hclosed⟩
    refine ⟨fun field hfield hr => ?_, fun field hfield child hc => ?_, ?_⟩
    · rcases mem_fieldsOf.1 hfield with ⟨p, -, rfl⟩ | ⟨name, hmem, -, rfl⟩
      · exact hrequired _ (of_decide_eq_true hr)
      · exact hrequired _ hmem
    · rcases mem_fieldsOf.1 hfield with ⟨p, hp, rfl⟩ | ⟨name, -, -, rfl⟩
      · exact (hchild values).1 hproperties p hp child hc
      · exact .anything
    · intro hc entry hentry
      by_cases hthere : ∃ p ∈ fields, p.1 = entry.1
      · obtain ⟨p, hp, heq⟩ := hthere
        exact ⟨_, mem_fieldsOf.2 (.inl ⟨p, hp, rfl⟩), heq⟩
      · have hnew : ∀ p ∈ fields, p.1 ≠ entry.1 := fun p hp heq => hthere ⟨p, hp, heq⟩
        have hmem := (hclosed hc entry hentry).resolve_right fun h => hthere ((hname _).1 h)
        exact ⟨_, mem_fieldsOf.2 (.inr ⟨entry.1, hmem, hnew, rfl⟩), rfl⟩

/-- A typed schema whose parts are denoted accepts the values of the type. -/
theorem admits_typed_iff {types : (document name : String) → Value → Prop} {name : String}
    {schema : Schema} {value : Value}
    (h : TypedForm (Denotes documents document) members name schema) :
    Admits (acceptedFrom types document) schema value ↔
      OfType (SatisfiesWith documents types) name document members value := by
  cases h with
  | object hfields => exact admits_fieldsOf_iff hfields
  | tuple hitems hparts =>
    rw [admits_tuple_iff, ofType_tuple_iff hitems]
    refine exists_congr fun values => and_congr_right fun _ => ?_
    rw [hparts.length_eq]
    exact and_congr_right fun _ =>
      (forall_mem_zip_iff_of_forall₂ hparts fun h value => (h types value).symm).symm
  | @array raw schema hitems hone hpart =>
    have hnone : ∀ raws, members.lookup "items" ≠ some (.array raws) := by
      intro raws h
      exact hone raws (Option.some.inj (hitems.symm.trans h))
    rw [admits_array_iff, ofType_array_iff hnone]
    simp only [hitems, Option.some.injEq, forall_eq', hpart types]
  | anyArray hitems =>
    have hnone : ∀ raws, members.lookup "items" ≠ some (.array raws) := by
      simp [hitems]
    rw [admits_array_iff, ofType_array_iff hnone]
    simp [hitems, admits_anything_iff]
  | primitive hkind => rw [admits_primitive_iff, ofType_primitive_iff hkind]

/-- A raw schema denotes what it has the form of, if its parts do and references do. -/
theorem denotes_of_hasForm {ref : String → Schema → Prop} {raw : Value} {schema : Schema}
    (h : HasForm ref (Denotes documents document) raw schema)
    (href : ∀ {members text schema}, leading members = some "$ref" →
      members.lookup "$ref" = some (.string text) → ref text schema →
      Denotes documents document (.object members) schema) :
    Denotes documents document raw schema := by
  intro types value
  cases h with
  | everything => rw [admits_anything_iff, satisfiesWith_everything_iff]
  | reference hlead htext h => exact href hlead htext h types value
  | const hlead hvalue => rw [admits_const_iff, satisfiesWith_const_iff hlead hvalue]
  | enum hlead hvalues => rw [admits_enum_iff, satisfiesWith_enum_iff hlead hvalues]
  | union hkeyword hlead hitems hparts =>
    rw [admits_union_iff, satisfiesWith_alternative_iff hkeyword hlead hitems]
    exact (exists_mem_iff_of_forall₂ hparts fun h => (h types value).symm).symm
  | typed hlead hname h =>
    rw [admits_typed_iff h, satisfiesWith_typed_iff (.inl hlead)]
    simp only [hasType_iff_named hlead hname, exists_eq_left]
  | oneType hlead hnames h =>
    rw [admits_typed_iff h, satisfiesWith_typed_iff (.inl hlead)]
    simp only [hasType_iff_listed hlead hnames, List.mem_singleton, Value.string.injEq,
      exists_eq_left]
  | @types members names schemas hlead hnames hparts =>
    rw [admits_union_iff, satisfiesWith_typed_iff (.inl hlead)]
    simp only [hasType_iff_listed hlead hnames]
    have hnamed : (∃ raw ∈ names, ∃ name, raw = .string name ∧
          OfType (SatisfiesWith documents types) name document members value) ↔
        ∃ schema ∈ schemas, Admits (acceptedFrom types document) schema value := by
      refine exists_mem_iff_of_forall₂ hparts fun {raw schema} ⟨name, hraw, h⟩ => ?_
      rw [admits_typed_iff h, hraw]
      simp
    rw [← hnamed]
    constructor
    · rintro ⟨_, hmem, name, rfl, h⟩
      exact ⟨name, hmem, h⟩
    · rintro ⟨name, hmem, h⟩
      exact ⟨_, hmem, name, rfl, h⟩
  | properties hlead h =>
    rw [admits_typed_iff h, satisfiesWith_typed_iff (.inr hlead)]
    simp only [hasType_iff_implied hlead, exists_eq_left]
  | unconstrained hlead => rw [admits_anything_iff, satisfiesWith_unconstrained_iff hlead]

end Forms

end ServiceContract
