import ServiceContract.Proofs.Schema.RawSchema
import ServiceContract.Proofs.Table
import ServiceContract.Proofs.Validation.Equality
import ServiceContract.Reference

/-!
# References that reading follows

Reading a raw schema goes from an object to the parts that its leading keyword lets it have, and it
follows the references that it comes to in this way. What stands under other keywords is not looked
at. On the way properties are entered, and it matters later which names these have: the references
that are followed are given for every condition on the names that may be entered.
-/

namespace ServiceContract.RawSchema

open Json (Value Members)

/-- A raw schema that is read as a part of an object with these members, with the name of the
property if it is one. -/
inductive HasPart (members : Members) : (property : Option String) → Value → Prop where
  /-- An alternative. -/
  | alternative {keyword : String} {items : List Value} {raw : Value}
      (hkeyword : keyword ∈ ["anyOf", "oneOf"]) (hlead : leading members = some keyword)
      (hitems : members.lookup keyword = some (.array items)) (hmem : raw ∈ items) :
      HasPart members none raw
  /-- A property. -/
  | property {name : String} {raw : Value} (htype : HasType members "object")
      (hmem : (name, raw) ∈ properties members) : HasPart members (some name) raw
  /-- The raw schema of a position. -/
  | position {raws : List Value} {raw : Value} (htype : HasType members "array")
      (hitems : members.lookup "items" = some (.array raws)) (hmem : raw ∈ raws) :
      HasPart members none raw
  /-- The raw schema of all items. -/
  | items {raw : Value} (htype : HasType members "array")
      (hitems : members.lookup "items" = some raw) (hone : ∀ raws, raw ≠ .array raws) :
      HasPart members none raw

/-- Reading the raw schema may follow the reference while only properties with some names are
entered. -/
inductive Follows (enters : (property : String) → Prop) : Value → (text : String) → Prop where
  /-- The raw schema is the reference. -/
  | here {members : Members} {text : String} (hlead : leading members = some "$ref")
      (htext : members.lookup "$ref" = some (.string text)) : Follows enters (.object members) text
  /-- A part is read. -/
  | part {members : Members} {property : Option String} {raw : Value} {text : String}
      (hpart : HasPart members property raw) (henters : ∀ name, property = some name → enters name)
      (h : Follows enters raw text) : Follows enters (.object members) text

/-- A reference to the named document may be followed. -/
def Names (enters : (property : String) → Prop) (raw : Value) (name : String) : Prop :=
  ∃ text, Follows enters raw text ∧ Reference.documentOf? text = some name

/-- Only documents with such names are referred to. -/
def NamesOnly (named : String → Prop) (raw : Value) : Prop :=
  ∀ name, Names (fun _ => True) raw name → named name

/-- Only such references are followed. -/
def FollowsOnly (followed : (text : String) → Prop) (raw : Value) : Prop :=
  ∀ text, Follows (fun _ => True) raw text → followed text

/-- The references that are followed name only documents with such names. -/
theorem NamesOnly.followsOnly {named : String → Prop} {raw : Value} (h : NamesOnly named raw) :
    FollowsOnly (fun text => ∀ name, Reference.documentOf? text = some name → named name) raw :=
  fun text hfollows name hname => h name ⟨text, hfollows, hname⟩

variable {members : Members} {property : Option String} {raw : Value}

/-- What stands under a key is smaller than the object. -/
theorem sizeOf_lookup_lt {key : String} {value : Value} (h : members.lookup key = some value) :
    sizeOf value < sizeOf (Value.object members) :=
  Value.sizeOf_member_lt (mem_of_lookup h)

theorem sizeOf_properties_lt {entry : String × Value} (h : entry ∈ properties members) :
    sizeOf entry.2 < sizeOf (Value.object members) := by
  obtain ⟨ps, hps, hmem⟩ := exists_of_mem_properties h
  exact Nat.lt_trans (Value.sizeOf_member_lt hmem) (sizeOf_lookup_lt hps)

theorem HasPart.sizeOf_lt (h : HasPart members property raw) :
    sizeOf raw < sizeOf (Value.object members) := by
  cases h with
  | alternative _ _ hitems hmem | position _ hitems hmem =>
    exact Nat.lt_trans (Value.sizeOf_item_lt hmem) (sizeOf_lookup_lt hitems)
  | property _ hmem => exact sizeOf_properties_lt hmem
  | items _ hitems => exact sizeOf_lookup_lt hitems

/-- A part follows references that the whole follows. -/
theorem FollowsOnly.of_hasPart {followed : String → Prop} (h : FollowsOnly followed (.object members))
    (hpart : HasPart members property raw) : FollowsOnly followed raw :=
  fun text hfollows => h text (.part hpart (fun _ _ => trivial) hfollows)

/-! ## Forms

What a raw schema is read as comes from all the references and parts that are followed. -/

section Forms

variable {ref : String → Schema → Prop} {part : Value → Schema → Prop} {schema : Schema}

theorem HasForm.exists_ref {text : String} (h : HasForm ref part (.object members) schema)
    (hlead : leading members = some "$ref") (htext : members.lookup "$ref" = some (.string text)) :
    ∃ schema, ref text schema := by
  cases h with
  | reference _ htext' h =>
    cases htext.symm.trans htext'
    exact ⟨_, h⟩
  | @union _ keyword _ _ hkeyword hlead' =>
    cases hlead.symm.trans hlead'
    simp at hkeyword
  | const hlead' | enum hlead' | typed hlead' | oneType hlead' | types hlead' | properties hlead'
    | unconstrained hlead' => simp [hlead'] at hlead

theorem HasForm.exists_typedForm {name : String} (h : HasForm ref part (.object members) schema)
    (htype : HasType members name) : ∃ schema, TypedForm part members name schema := by
  have hlead := htype.leading
  cases h with
  | typed hlead hname h =>
    rw [(hasType_iff_named hlead hname).1 htype]
    exact ⟨_, h⟩
  | oneType hlead hnames h =>
    cases List.mem_singleton.1 ((hasType_iff_listed hlead hnames).1 htype)
    exact ⟨_, h⟩
  | types hlead hnames hparts =>
    have hmem := (hasType_iff_listed hlead hnames).1 htype
    obtain ⟨schema, -, name', hname, h⟩ := exists_of_forall₂_right hparts.flip hmem
    cases hname
    exact ⟨schema, h⟩
  | properties hlead h =>
    rw [(hasType_iff_implied hlead).1 htype]
    exact ⟨_, h⟩
  | @union _ keyword _ _ hkeyword hlead' =>
    rw [hlead'] at hlead
    simp at hkeyword hlead
    rcases hkeyword with rfl | rfl <;> simp at hlead
  | reference hlead' | const hlead' | enum hlead' | unconstrained hlead' => simp [hlead'] at hlead

theorem TypedForm.exists_property {name : String} (h : TypedForm part members "object" schema)
    (hmem : (name, raw) ∈ properties members) : ∃ schema, part raw schema := by
  generalize hname : "object" = typeName at h
  cases h with
  | object hfields =>
    obtain ⟨field, -, -, hfield⟩ := exists_of_forall₂_right hfields.flip hmem
    exact ⟨_, hfield⟩
  | primitive hkind =>
    subst hname
    cases hkind
  | tuple | array | anyArray => simp at hname

/-- What stands under `items` is read, one by one if it is a list. -/
theorem TypedForm.exists_items (h : TypedForm part members "array" schema)
    (hitems : members.lookup "items" = some raw) :
    (∃ raws schemas, raw = .array raws ∧ List.Forall₂ part raws schemas) ∨
      (∀ raws, raw ≠ .array raws) ∧ ∃ schema, part raw schema := by
  generalize hname : "array" = typeName at h
  cases h with
  | tuple hitems' hparts =>
    cases hitems.symm.trans hitems'
    exact .inl ⟨_, _, rfl, hparts⟩
  | array hitems' hone hpart =>
    cases hitems.symm.trans hitems'
    exact .inr ⟨hone, _, hpart⟩
  | anyArray hitems' => cases hitems.symm.trans hitems'
  | primitive hkind =>
    subst hname
    cases hkind
  | object => simp at hname

theorem HasForm.exists_part (h : HasForm ref part (.object members) schema)
    (hpart : HasPart members property raw) : ∃ schema, part raw schema := by
  cases hpart with
  | alternative hkeyword hlead hitems hmem =>
    cases h with
    | union _ hlead' hitems' hparts =>
      cases hlead.symm.trans hlead'
      cases hitems.symm.trans hitems'
      obtain ⟨schema, -, hschema⟩ := exists_of_forall₂_right hparts.flip hmem
      exact ⟨schema, hschema⟩
    | reference hlead' | const hlead' | enum hlead' | typed hlead' | oneType hlead' | types hlead'
      | properties hlead' | unconstrained hlead' =>
      cases hlead.symm.trans hlead'
      all_goals simp at hkeyword
  | property htype hmem =>
    obtain ⟨schema, htyped⟩ := h.exists_typedForm htype
    exact htyped.exists_property hmem
  | position htype hitems hmem =>
    obtain ⟨schema, htyped⟩ := h.exists_typedForm htype
    rcases htyped.exists_items hitems with ⟨raws, schemas, heq, hparts⟩ | ⟨hone, -⟩
    · cases heq
      obtain ⟨schema, -, hschema⟩ := exists_of_forall₂_right hparts.flip hmem
      exact ⟨schema, hschema⟩
    · exact absurd rfl (hone _)
  | items htype hitems hone =>
    obtain ⟨schema, htyped⟩ := h.exists_typedForm htype
    rcases htyped.exists_items hitems with ⟨raws, schemas, heq, -⟩ | ⟨-, hpart⟩
    · exact absurd heq (hone raws)
    · exact hpart

/-- What is known of all references that are read and of those that the parts follow is known of all
that the raw schema follows. -/
theorem HasForm.of_follows {enters : (property : String) → Prop} {known : String → Prop}
    {text : String}
    (h : HasForm ref part raw schema) (href : ∀ {text schema}, ref text schema → known text)
    (hpart : ∀ {raw schema}, part raw schema → ∀ text, Follows enters raw text → known text)
    (hfollows : Follows enters raw text) : known text := by
  cases hfollows with
  | here hlead htext =>
    obtain ⟨schema, hschema⟩ := h.exists_ref hlead htext
    exact href hschema
  | part hhas _ hfollows =>
    obtain ⟨schema, hschema⟩ := h.exists_part hhas
    exact hpart hschema _ hfollows

end Forms

end ServiceContract.RawSchema
