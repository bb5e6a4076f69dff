import ServiceContract.Document.Key
import ServiceContract.Proofs.Document.Sites
import ServiceContract.Proofs.Schema.RawSchema
import ServiceContract.Proofs.Validation.Conformance

/-!
# Satisfaction of raw schemas

What it means that a value satisfies a raw schema, read off the raw documents: nothing is resolved,
put in place or looked up in a registry. A reference to a fragment means the raw fragment, read in
the document that it stands in, and a reference to a type means the raw schema of the type, read in
the document of the type. For the rest the keyword that counts first decides.

The relation is defined in two steps. `SatisfiesWith` takes what types accept as given, and
`TypeAccepts` is the least choice of what types accept such that each accepts what satisfies its raw
schema.
-/

namespace ServiceContract

open Json (Value Members)
open RawSchema

/-- The key of the document that a reference in a document leads to. -/
def Reference.documentFrom (r : Reference) (document : String) : String :=
  match r.document with
  | some name => DocumentKey.normalize (some document) name
  | none => document

/-- The value is of the named type as a raw schema with these members describes it, given what it is
to satisfy a part of the raw schema. -/
inductive OfType (satisfies : (document : String) → (schema value : Value) → Prop) :
    (typeName document : String) → Members → Value → Prop where
  /-- Required members are there, members of properties satisfy these, and a closed object has no
  other members than these two. -/
  | object {document : String} {members values : Members}
      (hrequired : ∀ name ∈ required members, (values.lookup name).isSome)
      (hproperties : ∀ p ∈ properties members, ∀ value, values.lookup p.1 = some value →
        satisfies document p.2 value)
      (hclosed : isClosed members = true → ∀ entry ∈ values,
        entry.1 ∈ required members ∨ ∃ p ∈ properties members, p.1 = entry.1) :
      OfType satisfies "object" document members (.object values)
  /-- There are as many items as positions, and each satisfies the raw schema at its position. -/
  | tuple {document : String} {members : Members} {raws values : List Value}
      (hitems : members.lookup "items" = some (.array raws)) (hlen : values.length = raws.length)
      (hvalues : ∀ raw value, (raw, value) ∈ raws.zip values → satisfies document raw value) :
      OfType satisfies "array" document members (.array values)
  /-- There are neither too few nor too many items, and each satisfies the raw schema of the items,
  if there is one. -/
  | array {document : String} {members : Members} {values : List Value}
      (hitems : ∀ raws, members.lookup "items" ≠ some (.array raws))
      (hmin : ∀ least, count? members "minItems" = some least → least ≤ values.length)
      (hmax : ∀ most, count? members "maxItems" = some most → values.length ≤ most)
      (hvalues : ∀ raw, members.lookup "items" = some raw → ∀ value ∈ values,
        satisfies document raw value) :
      OfType satisfies "array" document members (.array values)
  /-- The value has no parts and meets the conditions. -/
  | primitive {name document : String} {kind : PrimitiveKind} {members : Members} {value : Value}
      (hkind : PrimitiveKind.ofName? name = some kind)
      (h : (RawSchema.primitive kind members).Allows value) :
      OfType satisfies name document members value

/-- The value satisfies the raw schema in a document, given what types of documents accept. -/
inductive SatisfiesWith (documents : (key : String) → Option Value)
    (types : (document name : String) → Value → Prop) :
    (document : String) → (schema value : Value) → Prop where
  /-- Every value does. -/
  | everything {document : String} {value : Value} :
      SatisfiesWith documents types document (.bool true) value
  /-- The type that is referred to accepts the value. -/
  | type {document text name : String} {r : Reference} {members : Members} {value : Value}
      (hlead : leading members = some "$ref") (htext : members.lookup "$ref" = some (.string text))
      (hread : Reference.ofText text = .ok r) (htarget : r.target = .type name)
      (h : types (r.documentFrom document) name value) :
      SatisfiesWith documents types document (.object members) value
  /-- The value satisfies the raw fragment that is referred to, in the document of the fragment. -/
  | fragment {document text key : String} {r : Reference} {members : Members}
      {rawDocument raw value : Value} (hlead : leading members = some "$ref")
      (htext : members.lookup "$ref" = some (.string text)) (hread : Reference.ofText text = .ok r)
      (htarget : r.target = .fragment key)
      (hdocument : documents (r.documentFrom document) = some rawDocument)
      (hraw : RawDocument.schemaAt? rawDocument (.fragment key) = some raw)
      (h : SatisfiesWith documents types (r.documentFrom document) raw value) :
      SatisfiesWith documents types document (.object members) value
  /-- The value is the constant. -/
  | const {document : String} {members : Members} {expected value : Value}
      (hlead : leading members = some "const") (hexpected : members.lookup "const" = some expected)
      (heq : Value.EqualTo expected value) :
      SatisfiesWith documents types document (.object members) value
  /-- The value is one of those listed. -/
  | enum {document : String} {members : Members} {values : List Value} {candidate value : Value}
      (hlead : leading members = some "enum")
      (hvalues : members.lookup "enum" = some (.array values)) (hmem : candidate ∈ values)
      (heq : Value.EqualTo candidate value) :
      SatisfiesWith documents types document (.object members) value
  /-- The value satisfies some alternative. -/
  | alternative {document keyword : String} {members : Members} {items : List Value}
      {item value : Value} (hkeyword : keyword ∈ ["anyOf", "oneOf"])
      (hlead : leading members = some keyword)
      (hitems : members.lookup keyword = some (.array items)) (hmem : item ∈ items)
      (h : SatisfiesWith documents types document item value) :
      SatisfiesWith documents types document (.object members) value
  /-- The value is of a type that the raw schema is of. -/
  | typed {document name : String} {members : Members} {value : Value} (htype : HasType members name)
      (h : OfType (SatisfiesWith documents types) name document members value) :
      SatisfiesWith documents types document (.object members) value
  /-- None of the keywords is there. -/
  | unconstrained {document : String} {members : Members} {value : Value}
      (hlead : leading members = none) :
      SatisfiesWith documents types document (.object members) value

/-- The type of a document accepts the value: the value satisfies its raw schema. -/
inductive TypeAccepts (documents : (key : String) → Option Value) :
    (document name : String) → Value → Prop where
  /-- The value satisfies the raw schema of the type in its document. -/
  | declared {document name : String} {rawDocument raw value : Value}
      (hdocument : documents document = some rawDocument)
      (hraw : RawDocument.schemaAt? rawDocument (.type name) = some raw)
      (h : SatisfiesWith documents (TypeAccepts documents) document raw value) :
      TypeAccepts documents document name value

/-- The value satisfies the raw schema, read in a document. -/
def Satisfies (documents : (key : String) → Option Value) :
    (document : String) → (schema value : Value) → Prop :=
  SatisfiesWith documents (TypeAccepts documents)

/-! ## Values of a type -/

section Types

variable {satisfies : (document : String) → (schema value : Value) → Prop} {document : String}
  {members : Members} {value : Value}

theorem ofType_object_iff :
    OfType satisfies "object" document members value ↔
      ∃ values, value = .object values ∧
        (∀ name ∈ required members, (values.lookup name).isSome) ∧
        (∀ p ∈ properties members, ∀ child, values.lookup p.1 = some child →
          satisfies document p.2 child) ∧
        (isClosed members = true → ∀ entry ∈ values,
          entry.1 ∈ required members ∨ ∃ p ∈ properties members, p.1 = entry.1) := by
  constructor
  · intro h
    generalize hname : "object" = name at h
    cases h with
    | object hrequired hproperties hclosed => exact ⟨_, rfl, hrequired, hproperties, hclosed⟩
    | tuple | array => simp at hname
    | primitive hkind =>
      rw [← hname] at hkind
      cases hkind
  · rintro ⟨values, rfl, hrequired, hproperties, hclosed⟩
    exact .object hrequired hproperties hclosed

theorem ofType_tuple_iff {raws : List Value} (hitems : members.lookup "items" = some (.array raws)) :
    OfType satisfies "array" document members value ↔
      ∃ values, value = .array values ∧ values.length = raws.length ∧
        ∀ raw child, (raw, child) ∈ raws.zip values → satisfies document raw child := by
  constructor
  · intro h
    generalize hname : "array" = name at h
    cases h with
    | object => simp at hname
    | tuple hitems' hlen hvalues =>
      cases hitems.symm.trans hitems'
      exact ⟨_, rfl, hlen, hvalues⟩
    | array hitems' => exact absurd hitems (hitems' raws)
    | primitive hkind =>
      rw [← hname] at hkind
      cases hkind
  · rintro ⟨values, rfl, hlen, hvalues⟩
    exact .tuple hitems hlen hvalues

theorem ofType_array_iff (hitems : ∀ raws, members.lookup "items" ≠ some (.array raws)) :
    OfType satisfies "array" document members value ↔
      ∃ values, value = .array values ∧
        (∀ least, count? members "minItems" = some least → least ≤ values.length) ∧
        (∀ most, count? members "maxItems" = some most → values.length ≤ most) ∧
        ∀ raw, members.lookup "items" = some raw → ∀ child ∈ values,
          satisfies document raw child := by
  constructor
  · intro h
    generalize hname : "array" = name at h
    cases h with
    | object => simp at hname
    | tuple hitems' => exact absurd hitems' (hitems _)
    | array _ hmin hmax hvalues => exact ⟨_, rfl, hmin, hmax, hvalues⟩
    | primitive hkind =>
      rw [← hname] at hkind
      cases hkind
  · rintro ⟨values, rfl, hmin, hmax, hvalues⟩
    exact .array hitems hmin hmax hvalues

theorem ofType_primitive_iff {name : String} {kind : PrimitiveKind}
    (hkind : PrimitiveKind.ofName? name = some kind) :
    OfType satisfies name document members value ↔
      (RawSchema.primitive kind members).Allows value := by
  constructor
  · intro h
    cases h with
    | object | tuple | array => cases hkind
    | primitive hkind' h =>
      cases hkind.symm.trans hkind'
      exact h
  · exact .primitive hkind

end Types

/-! ## Raw schemas by their leading keyword -/

section Leading

variable {documents : (key : String) → Option Value}
  {types : (document name : String) → Value → Prop} {document : String} {members : Members}
  {value : Value}

theorem satisfiesWith_everything_iff :
    SatisfiesWith documents types document (.bool true) value ↔ True :=
  iff_true_intro .everything

theorem satisfiesWith_unconstrained_iff (hlead : leading members = none) :
    SatisfiesWith documents types document (.object members) value ↔ True :=
  iff_true_intro (.unconstrained hlead)

theorem satisfiesWith_type_iff {text name : String} {r : Reference}
    (hlead : leading members = some "$ref") (htext : members.lookup "$ref" = some (.string text))
    (hread : Reference.ofText text = .ok r) (htarget : r.target = .type name) :
    SatisfiesWith documents types document (.object members) value ↔
      types (r.documentFrom document) name value := by
  constructor
  · intro h
    cases h with
    | type _ htext' hread' htarget' h =>
      cases htext.symm.trans htext'
      cases hread.symm.trans hread'
      cases htarget.symm.trans htarget'
      exact h
    | fragment _ htext' hread' htarget' =>
      cases htext.symm.trans htext'
      cases hread.symm.trans hread'
      cases htarget.symm.trans htarget'
    | typed htype => rcases htype.leading with hlead' | hlead' <;> simp [hlead] at hlead'
    | _ => simp_all
  · exact .type hlead htext hread htarget

theorem satisfiesWith_fragment_iff {text key : String} {r : Reference} {rawDocument raw : Value}
    (hlead : leading members = some "$ref") (htext : members.lookup "$ref" = some (.string text))
    (hread : Reference.ofText text = .ok r) (htarget : r.target = .fragment key)
    (hdocument : documents (r.documentFrom document) = some rawDocument)
    (hraw : RawDocument.schemaAt? rawDocument (.fragment key) = some raw) :
    SatisfiesWith documents types document (.object members) value ↔
      SatisfiesWith documents types (r.documentFrom document) raw value := by
  constructor
  · intro h
    cases h with
    | type _ htext' hread' htarget' =>
      cases htext.symm.trans htext'
      cases hread.symm.trans hread'
      cases htarget.symm.trans htarget'
    | fragment _ htext' hread' htarget' hdocument' hraw' h =>
      cases htext.symm.trans htext'
      cases hread.symm.trans hread'
      cases htarget.symm.trans htarget'
      cases hdocument.symm.trans hdocument'
      cases hraw.symm.trans hraw'
      exact h
    | typed htype => rcases htype.leading with hlead' | hlead' <;> simp [hlead] at hlead'
    | _ => simp_all
  · exact .fragment hlead htext hread htarget hdocument hraw

theorem satisfiesWith_const_iff {expected : Value} (hlead : leading members = some "const")
    (hexpected : members.lookup "const" = some expected) :
    SatisfiesWith documents types document (.object members) value ↔
      Value.EqualTo expected value := by
  constructor
  · intro h
    cases h with
    | const _ hexpected' heq =>
      cases hexpected.symm.trans hexpected'
      exact heq
    | typed htype => rcases htype.leading with hlead' | hlead' <;> simp [hlead] at hlead'
    | _ => simp_all
  · exact .const hlead hexpected

theorem satisfiesWith_enum_iff {values : List Value} (hlead : leading members = some "enum")
    (hvalues : members.lookup "enum" = some (.array values)) :
    SatisfiesWith documents types document (.object members) value ↔
      ∃ candidate ∈ values, Value.EqualTo candidate value := by
  constructor
  · intro h
    cases h with
    | enum _ hvalues' hmem heq =>
      cases hvalues.symm.trans hvalues'
      exact ⟨_, hmem, heq⟩
    | typed htype => rcases htype.leading with hlead' | hlead' <;> simp [hlead] at hlead'
    | _ => simp_all
  · rintro ⟨candidate, hmem, heq⟩
    exact .enum hlead hvalues hmem heq

theorem satisfiesWith_alternative_iff {keyword : String} {items : List Value}
    (hkeyword : keyword ∈ ["anyOf", "oneOf"]) (hlead : leading members = some keyword)
    (hitems : members.lookup keyword = some (.array items)) :
    SatisfiesWith documents types document (.object members) value ↔
      ∃ item ∈ items, SatisfiesWith documents types document item value := by
  constructor
  · intro h
    cases h with
    | alternative _ hlead' hitems' hmem h =>
      cases hlead.symm.trans hlead'
      cases hitems.symm.trans hitems'
      exact ⟨_, hmem, h⟩
    | typed htype =>
      rcases htype.leading with hlead' | hlead' <;> cases hlead.symm.trans hlead' <;>
        simp at hkeyword
    | type hlead' | fragment hlead' | const hlead' | enum hlead' | unconstrained hlead' =>
      cases hlead.symm.trans hlead' <;> simp at hkeyword
  · rintro ⟨item, hmem, h⟩
    exact .alternative hkeyword hlead hitems hmem h

theorem satisfiesWith_typed_iff
    (hlead : leading members = some "type" ∨ leading members = some "properties") :
    SatisfiesWith documents types document (.object members) value ↔
      ∃ name, HasType members name ∧
        OfType (SatisfiesWith documents types) name document members value := by
  constructor
  · intro h
    cases h with
    | typed htype h => exact ⟨_, htype, h⟩
    | alternative hkeyword hlead' =>
      rcases hlead with hlead | hlead <;> cases hlead.symm.trans hlead' <;> simp at hkeyword
    | _ => rcases hlead with hlead | hlead <;> simp_all
  · rintro ⟨name, htype, h⟩
    exact .typed htype h

end Leading

/-! ## Least satisfaction -/

/-- What types accept is contained in every choice of what they accept such that each accepts what
satisfies its raw schema. -/
theorem TypeAccepts.least {documents : (key : String) → Option Value}
    {types : (document name : String) → Value → Prop}
    (htypes : ∀ {document name rawDocument raw value}, documents document = some rawDocument →
      RawDocument.schemaAt? rawDocument (.type name) = some raw →
      SatisfiesWith documents types document raw value → types document name value)
    {document name : String} {value : Value} (h : TypeAccepts documents document name value) :
    types document name value := by
  -- The same holds of raw schemas and of types of values, along the same derivation.
  refine @TypeAccepts.rec documents (fun document name value _ => types document name value)
    (fun document raw value _ => SatisfiesWith documents types document raw value)
    (fun name document members value _ =>
      OfType (SatisfiesWith documents types) name document members value)
    ?_ ?_ ?_ ?_ ?_ ?_ ?_ ?_ ?_ ?_ ?_ ?_ ?_ document name value h
  · exact fun hdocument hraw _ ih => htypes hdocument hraw ih
  · exact .everything
  · exact fun hlead htext hread htarget _ ih => .type hlead htext hread htarget ih
  · exact fun hlead htext hread htarget hdocument hraw _ ih =>
      .fragment hlead htext hread htarget hdocument hraw ih
  · exact .const
  · exact .enum
  · exact fun hkeyword hlead hitems hmem _ ih => .alternative hkeyword hlead hitems hmem ih
  · exact fun htype _ ih => .typed htype ih
  · exact .unconstrained
  · exact fun hrequired _ hclosed ih => .object hrequired ih hclosed
  · exact fun hitems hlen _ ih => .tuple hitems hlen ih
  · exact fun hitems hmin hmax _ ih => .array hitems hmin hmax ih
  · exact .primitive

end ServiceContract
