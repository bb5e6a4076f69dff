import Mathlib.Data.List.Forall2
import ServiceContract.Schema.Reading

/-!
# The form of a raw schema

Which keyword of a raw schema decides its form, what the other keywords say, and what a raw schema
stands for one level down. `HasForm` relates a raw schema to the schemas that it may be read as,
given what a reference stands for and what the parts stand for. It is not recursive: what parts
stand for is a parameter, so that the same rules serve every meaning that is built up part by part.
-/

namespace ServiceContract

open Json (Number Value Members)

namespace RawSchema

/-! ## Keywords -/

/-- The keywords that decide the form of a raw schema, in the order in which they count. -/
def keywords : List String := ["$ref", "const", "enum", "anyOf", "oneOf", "type", "properties"]

/-- The keyword that decides the form of a raw schema with these members, if one of them is there. -/
def leading (members : Members) : Option String :=
  keywords.find? fun keyword => (members.lookup keyword).isSome

/-- The properties by name. -/
def properties (members : Members) : Members :=
  ((members.lookup "properties").bind Value.object?).getD []

/-- The names of the properties that must be there. -/
def required (members : Members) : List String :=
  (((members.lookup "required").bind Value.array?).getD []).filterMap Value.string?

/-- Members that are not declared are refused. -/
def isClosed (members : Members) : Bool :=
  match members.lookup "additionalProperties" with
  | some (.bool false) => true
  | _ => false

/-- The number under a keyword. -/
def number? (members : Members) (keyword : String) : Option Number :=
  match members.lookup keyword with
  | some (.number n) => some n
  | _ => none

/-- The natural number under a keyword. -/
def count? (members : Members) (keyword : String) : Option Nat :=
  (number? members keyword).bind Number.toNat?

/-- The pattern of a text. -/
def pattern? (members : Members) : Option Pattern :=
  match members.lookup "pattern" with
  | some (.string source) => (Pattern.ofText source).toOption
  | _ => none

/-- A kind with the conditions that go with it. -/
def primitive (kind : PrimitiveKind) (members : Members) : Primitive :=
  match kind with
  | .integer | .number =>
    { kind
      minimum := number? members "minimum"
      maximum := number? members "maximum"
      exclusiveMinimum := number? members "exclusiveMinimum"
      exclusiveMaximum := number? members "exclusiveMaximum" }
  | .string =>
    { kind
      minLength := count? members "minLength"
      maxLength := count? members "maxLength"
      pattern := pattern? members }
  | .boolean | .null => { kind }

/-- The raw schema is one of a type: the one that is named, one of several that are named, or an
object because there are properties and nothing else decides. -/
inductive HasType (members : Members) (name : String) : Prop where
  /-- The type is named. -/
  | named (hlead : leading members = some "type")
      (hname : members.lookup "type" = some (.string name))
  /-- The type is in a list of types. -/
  | listed {names : List Value} (hlead : leading members = some "type")
      (hnames : members.lookup "type" = some (.array names)) (hmem : .string name ∈ names)
  /-- There are properties. -/
  | implied (hlead : leading members = some "properties") (hname : name = "object")

section HasType

variable {members : Members} {name : String}

theorem HasType.leading (h : HasType members name) :
    leading members = some "type" ∨ leading members = some "properties" := by
  cases h with
  | named hlead | listed hlead => exact .inl hlead
  | implied hlead => exact .inr hlead

theorem hasType_iff_named {typeName : String} (hlead : leading members = some "type")
    (hname : members.lookup "type" = some (.string typeName)) :
    HasType members name ↔ name = typeName := by
  constructor
  · intro h
    cases h with
    | named _ h => simpa using h.symm.trans hname
    | listed _ h => simp [hname] at h
    | implied h => simp [hlead] at h
  · rintro rfl
    exact .named hlead hname

theorem hasType_iff_listed {names : List Value} (hlead : leading members = some "type")
    (hnames : members.lookup "type" = some (.array names)) :
    HasType members name ↔ .string name ∈ names := by
  constructor
  · intro h
    cases h with
    | named _ h => simp [hnames] at h
    | listed _ h hmem =>
      cases hnames.symm.trans h
      exact hmem
    | implied h => simp [hlead] at h
  · exact .listed hlead hnames

theorem hasType_iff_implied (hlead : leading members = some "properties") :
    HasType members name ↔ name = "object" := by
  constructor
  · intro h
    cases h with
    | named h | listed h => simp [hlead] at h
    | implied _ hname => exact hname
  · exact .implied hlead

end HasType

/-! ## Forms -/

/-- What a raw schema with these members stands for under a type, given what its parts stand for. -/
inductive TypedForm (part : Value → Schema → Prop) (members : Members) :
    (typeName : String) → Schema → Prop where
  /-- An object. -/
  | object {fields : List (String × Schema)}
      (hfields : List.Forall₂ (fun raw field => field.1 = raw.1 ∧ part raw.2 field.2)
        (properties members) fields) :
      TypedForm part members "object"
        (.object (Schema.fieldsOf fields (required members)) (isClosed members))
  /-- An array with a raw schema for each position. -/
  | tuple {items : List Value} {schemas : List Schema}
      (hitems : members.lookup "items" = some (.array items))
      (hparts : List.Forall₂ part items schemas) : TypedForm part members "array" (.tuple schemas)
  /-- An array with one raw schema for all items. -/
  | array {raw : Value} {schema : Schema} (hitems : members.lookup "items" = some raw)
      (hone : ∀ items, raw ≠ .array items) (hpart : part raw schema) :
      TypedForm part members "array"
        (.array schema (count? members "minItems") (count? members "maxItems"))
  /-- An array of anything. -/
  | anyArray (hitems : members.lookup "items" = none) :
      TypedForm part members "array"
        (.array .anything (count? members "minItems") (count? members "maxItems"))
  /-- A value without parts. -/
  | primitive {name : String} {kind : PrimitiveKind}
      (hkind : PrimitiveKind.ofName? name = some kind) :
      TypedForm part members name (.primitive (primitive kind members))

/-- What a raw schema stands for, given what a reference and what the parts stand for. -/
inductive HasForm (ref : String → Schema → Prop) (part : Value → Schema → Prop) :
    Value → Schema → Prop where
  /-- Every value is accepted. -/
  | everything : HasForm ref part (.bool true) .anything
  /-- What the reference stands for. -/
  | reference {members : Members} {target : String} {schema : Schema}
      (hlead : leading members = some "$ref")
      (htarget : members.lookup "$ref" = some (.string target)) (h : ref target schema) :
      HasForm ref part (.object members) schema
  /-- One value. -/
  | const {members : Members} {value : Value} (hlead : leading members = some "const")
      (hvalue : members.lookup "const" = some value) :
      HasForm ref part (.object members) (.const value)
  /-- One of some values. -/
  | enum {members : Members} {values : List Value} (hlead : leading members = some "enum")
      (hvalues : members.lookup "enum" = some (.array values)) :
      HasForm ref part (.object members) (.enum values)
  /-- One of some alternatives. -/
  | union {members : Members} {keyword : String} {items : List Value} {schemas : List Schema}
      (hkeyword : keyword ∈ ["anyOf", "oneOf"]) (hlead : leading members = some keyword)
      (hitems : members.lookup keyword = some (.array items))
      (hparts : List.Forall₂ part items schemas) :
      HasForm ref part (.object members) (.union schemas)
  /-- A type. -/
  | typed {members : Members} {name : String} {schema : Schema} (hlead : leading members = some "type")
      (hname : members.lookup "type" = some (.string name))
      (h : TypedForm part members name schema) : HasForm ref part (.object members) schema
  /-- A list of one type. -/
  | oneType {members : Members} {name : String} {schema : Schema}
      (hlead : leading members = some "type")
      (hnames : members.lookup "type" = some (.array [.string name]))
      (h : TypedForm part members name schema) : HasForm ref part (.object members) schema
  /-- A list of types. -/
  | types {members : Members} {names : List Value} {schemas : List Schema}
      (hlead : leading members = some "type")
      (hnames : members.lookup "type" = some (.array names))
      (hparts : List.Forall₂
        (fun raw schema => ∃ name, raw = .string name ∧ TypedForm part members name schema)
        names schemas) :
      HasForm ref part (.object members) (.union schemas)
  /-- Properties without a type. -/
  | properties {members : Members} {schema : Schema} (hlead : leading members = some "properties")
      (h : TypedForm part members "object" schema) : HasForm ref part (.object members) schema
  /-- None of the keywords is there. -/
  | unconstrained {members : Members} (hlead : leading members = none) :
      HasForm ref part (.object members) .anything

/-- Where a list decides the form of the raw schema, there is something in it. -/
def ListsSome (raw : Value) : Prop :=
  ∀ members keyword, raw = .object members → leading members = some keyword →
    keyword ∈ ["enum", "anyOf", "oneOf", "type"] → members.lookup keyword ≠ some (.array [])

section ListsSome

variable {members : Members} {keyword : String}

theorem listsSome_bool {b : Bool} : ListsSome (.bool b) := by
  rintro members keyword h
  cases h

theorem listsSome_of_lookup (hlead : leading members = some keyword)
    (h : members.lookup keyword ≠ some (.array [])) : ListsSome (.object members) := by
  rintro _ keyword' h' hlead' -
  cases h'
  cases hlead.symm.trans hlead'
  exact h

theorem listsSome_of_leading (h : ∀ keyword ∈ ["enum", "anyOf", "oneOf", "type"],
    leading members ≠ some keyword) : ListsSome (.object members) := by
  rintro _ keyword h' hlead hkeyword
  cases h'
  exact absurd hlead (h keyword hkeyword)

end ListsSome

/-! ## Fields -/

/-- The properties are the members of an object. -/
theorem exists_of_mem_properties {members : Members} {entry : String × Value}
    (h : entry ∈ properties members) :
    ∃ ps, members.lookup "properties" = some (.object ps) ∧ entry ∈ ps := by
  unfold properties at h
  cases hraw : members.lookup "properties" with
  | none => simp [hraw] at h
  | some value =>
    rw [hraw, Option.bind_some] at h
    cases value with
    | object ps => exact ⟨ps, rfl, h⟩
    | null | bool | number | string | array => cases h

/-- Required names are added once each, unless there is a field of that name. -/
theorem mem_foldl_required {names : List String} {fields : List Field} {field : Field} :
    field ∈ names.foldl (fun fields name =>
        if fields.any fun field => field.name == name then fields
        else fields ++ [⟨name, .anything, true⟩]) fields ↔
      field ∈ fields ∨
        ∃ name ∈ names, (∀ f ∈ fields, f.name ≠ name) ∧ field = ⟨name, .anything, true⟩ := by
  induction names generalizing fields with
  | nil => simp
  | cons name rest ih =>
    rw [List.foldl_cons, ih]
    by_cases hthere : ∃ f ∈ fields, f.name = name
    · obtain ⟨f, hf, rfl⟩ := hthere
      have hany : (fields.any fun field => field.name == f.name) = true :=
        List.any_eq_true.2 ⟨f, hf, by simp⟩
      rw [if_pos hany]
      refine or_congr_right ⟨fun ⟨n, hn, h⟩ => ⟨n, List.mem_cons_of_mem _ hn, h⟩, ?_⟩
      rintro ⟨n, hn, hnew, heq⟩
      rcases List.mem_cons.1 hn with rfl | hn
      · exact absurd rfl (hnew f hf)
      · exact ⟨n, hn, hnew, heq⟩
    · have hany : ¬ (fields.any fun field => field.name == name) = true := by
        simpa using hthere
      have hnew : ∀ f ∈ fields, f.name ≠ name := fun f hf heq => hthere ⟨f, hf, heq⟩
      rw [if_neg hany, List.mem_append, List.mem_singleton]
      constructor
      · rintro ((h | h) | ⟨n, hn, hother, heq⟩)
        · exact .inl h
        · exact .inr ⟨name, List.mem_cons_self .., hnew, h⟩
        · exact .inr ⟨n, List.mem_cons_of_mem _ hn,
            fun f hf => hother f (List.mem_append_left _ hf), heq⟩
      · rintro (h | ⟨n, hn, hother, heq⟩)
        · exact .inl (.inl h)
        · by_cases hname : n = name
          · exact .inl (.inr (hname ▸ heq))
          · have hn : n ∈ rest := (List.mem_cons.1 hn).resolve_left hname
            refine .inr ⟨n, hn, fun f hf => ?_, heq⟩
            rcases List.mem_append.1 hf with hf | hf
            · exact hother f hf
            · rw [List.mem_singleton.1 hf]
              exact Ne.symm hname

/-- The fields of an object are its properties, and the required names that are none. -/
theorem mem_fieldsOf {properties : List (String × Schema)} {required : List String}
    {field : Field} :
    field ∈ Schema.fieldsOf properties required ↔
      (∃ p ∈ properties, field = ⟨p.1, p.2, decide (p.1 ∈ required)⟩) ∨
        ∃ name ∈ required, (∀ p ∈ properties, p.1 ≠ name) ∧ field = ⟨name, .anything, true⟩ := by
  unfold Schema.fieldsOf
  rw [mem_foldl_required, List.mem_map]
  refine or_congr (exists_congr fun p => and_congr_right fun _ => eq_comm) ?_
  refine exists_congr fun name => and_congr_right fun _ => and_congr_left fun _ => ?_
  exact List.forall_mem_map

/-- A form stays when the parts stand for more. -/
theorem TypedForm.mono {part part' : Value → Schema → Prop} {members : Members} {name : String}
    {schema : Schema} (h : TypedForm part members name schema)
    (hpart : ∀ raw schema, part raw schema → part' raw schema) :
    TypedForm part' members name schema := by
  cases h with
  | object hfields => exact .object (hfields.imp fun _ _ hfield => ⟨hfield.1, hpart _ _ hfield.2⟩)
  | tuple hitems hparts => exact .tuple hitems (hparts.imp fun _ _ => hpart _ _)
  | array hitems hone h => exact .array hitems hone (hpart _ _ h)
  | anyArray hitems => exact .anyArray hitems
  | primitive hkind => exact .primitive hkind

/-- So it does when references stand for more. -/
theorem HasForm.mono {ref ref' : String → Schema → Prop} {part part' : Value → Schema → Prop}
    {raw : Value} {schema : Schema} (h : HasForm ref part raw schema)
    (href : ∀ text schema, ref text schema → ref' text schema)
    (hpart : ∀ raw schema, part raw schema → part' raw schema) : HasForm ref' part' raw schema := by
  cases h with
  | everything => exact .everything
  | reference hlead htarget h => exact .reference hlead htarget (href _ _ h)
  | const hlead hvalue => exact .const hlead hvalue
  | enum hlead hvalues => exact .enum hlead hvalues
  | union hkeyword hlead hitems hparts =>
    exact .union hkeyword hlead hitems (hparts.imp fun _ _ => hpart _ _)
  | typed hlead hname h => exact .typed hlead hname (h.mono hpart)
  | oneType hlead hnames h => exact .oneType hlead hnames (h.mono hpart)
  | types hlead hnames hparts =>
    exact .types hlead hnames (hparts.imp fun _ _ ⟨name, hname, h⟩ => ⟨name, hname, h.mono hpart⟩)
  | properties hlead h => exact .properties hlead (h.mono hpart)
  | unconstrained hlead => exact .unconstrained hlead

theorem lookup_isSome_of_leading {members : Members} {keyword : String}
    (h : leading members = some keyword) : (members.lookup keyword).isSome := by
  unfold leading at h
  exact List.find?_some (p := fun keyword => (members.lookup keyword).isSome) h

section Leading

variable {members : Members} (href : members.lookup "$ref" = none)
  (hconst : members.lookup "const" = none) (henum : members.lookup "enum" = none)

include href hconst henum

theorem leading_of_alternatives {keyword : String}
    (h : (["anyOf", "oneOf"].find? fun keyword => (members.lookup keyword).isSome) = some keyword) :
    leading members = some keyword := by
  have happend : keywords =
      ["$ref", "const", "enum"] ++ (["anyOf", "oneOf"] ++ ["type", "properties"]) := rfl
  rw [leading, happend, List.find?_append, List.find?_append, h]
  simp [href, hconst, henum]

/-- Without alternatives the type or the properties decide. -/
theorem leading_of_no_alternatives
    (h : (["anyOf", "oneOf"].find? fun keyword => (members.lookup keyword).isSome) = none) :
    leading members =
      ["type", "properties"].find? fun keyword => (members.lookup keyword).isSome := by
  have hanyOf : members.lookup "anyOf" = none :=
    Option.not_isSome_iff_eq_none.1 (List.find?_eq_none.1 h "anyOf" (by simp))
  have honeOf : members.lookup "oneOf" = none :=
    Option.not_isSome_iff_eq_none.1 (List.find?_eq_none.1 h "oneOf" (by simp))
  simp [leading, keywords, href, hconst, henum, hanyOf, honeOf]

end Leading

end RawSchema

end ServiceContract
