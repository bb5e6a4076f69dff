import ServiceContract.Proofs.Interface.Inhabited
import ServiceContract.Proofs.Schema.Nodes
import ServiceContract.Proofs.Validation.EqualityLaws

/-!
# Values for plain schemas

A schema is plain if nothing narrows its primitives and its arrays may have as many items as they must.
Then a finite value in the sense of the inhabitation check is not only necessary for a value that
conforms but sufficient: the value is built part by part, from values for the references that count as
finite. Fields need different names and literals different keys, or else no value might do.
-/

namespace ServiceContract

open Json (Number Value Members)

/-! ## Plain schemas -/

/-- Neither a bound nor a length nor a pattern narrows the kind. -/
structure Primitive.IsBare (p : Primitive) : Prop where
  minimum : p.minimum = none
  maximum : p.maximum = none
  exclusiveMinimum : p.exclusiveMinimum = none
  exclusiveMaximum : p.exclusiveMaximum = none
  minLength : p.minLength = none
  maxLength : p.maxLength = none
  pattern : p.pattern = none

instance {p : Primitive} : Decidable p.IsBare :=
  decidable_of_iff (p.minimum = none ∧ p.maximum = none ∧ p.exclusiveMinimum = none ∧
    p.exclusiveMaximum = none ∧ p.minLength = none ∧ p.maxLength = none ∧ p.pattern = none)
    ⟨fun ⟨h₁, h₂, h₃, h₄, h₅, h₆, h₇⟩ => ⟨h₁, h₂, h₃, h₄, h₅, h₆, h₇⟩,
      fun ⟨h₁, h₂, h₃, h₄, h₅, h₆, h₇⟩ => ⟨h₁, h₂, h₃, h₄, h₅, h₆, h₇⟩⟩

/-- A primitive at the node is bare, and an array there may have as many items as it must. -/
def Schema.IsPlain : Schema → Prop
  | .primitive p => p.IsBare
  | .array _ minItems maxItems => ∀ least ∈ minItems, ∀ most ∈ maxItems, least ≤ most
  | _ => True

instance : DecidablePred Schema.IsPlain
  | .primitive p => inferInstanceAs (Decidable p.IsBare)
  | .array _ minItems maxItems =>
    inferInstanceAs (Decidable (∀ least ∈ minItems, ∀ most ∈ maxItems, least ≤ most))
  | .const _ | .enum _ | .object _ _ | .tuple _ | .union _ | .reference _ | .anything =>
    inferInstanceAs (Decidable True)

/-- A bare primitive has a value. -/
theorem Primitive.exists_allows {p : Primitive} (h : p.IsBare) : ∃ value, p.Allows value := by
  have hwhole : Number.IsWhole (.ofNat 0) := trivial
  have hnumber : p.AllowsNumber (.ofNat 0) := by
    constructor
    · simp [h.minimum]
    · simp [h.maximum]
    · simp [h.exclusiveMinimum]
    · simp [h.exclusiveMaximum]
  have htext : p.AllowsText "" := by
    constructor
    · simp [h.minLength]
    · simp [h.maxLength]
    · simp [h.pattern]
  cases hkind : p.kind with
  | integer => exact ⟨_, .integer hkind hwhole hnumber⟩
  | number => exact ⟨_, .number hkind hnumber⟩
  | string => exact ⟨_, .string hkind htext⟩
  | boolean => exact ⟨_, .boolean hkind true⟩
  | null => exact ⟨_, .null hkind⟩

/-- Members can be chosen for the required fields alone. -/
theorem exists_members {fields : List Field} {P : Schema → Value → Prop}
    (hnames : (fields.map Field.name).Nodup)
    (h : ∀ field ∈ fields, field.required = true → ∃ value, P field.schema value) :
    ∃ members : Members,
      (∀ field ∈ fields, field.required = true → (members.lookup field.name).isSome) ∧
      (∀ field ∈ fields, ∀ value, members.lookup field.name = some value →
        P field.schema value) ∧
      ∀ entry ∈ members, ∃ field ∈ fields, field.name = entry.1 := by
  induction fields with
  | nil =>
    refine ⟨[], ?_, ?_, ?_⟩
    · exact fun field hfield => absurd hfield List.not_mem_nil
    · exact fun field hfield => absurd hfield List.not_mem_nil
    · exact fun entry hentry => absurd hentry List.not_mem_nil
  | cons first rest ih =>
    rw [List.map_cons, List.nodup_cons] at hnames
    obtain ⟨members, hrequired, hgood, hnamed⟩ :=
      ih hnames.2 fun field hfield => h field (List.mem_cons_of_mem _ hfield)
    have hother : ∀ field ∈ rest, field.name ≠ first.name :=
      fun field hfield heq => hnames.1 (heq ▸ List.mem_map_of_mem hfield)
    by_cases hfirst : first.required = true
    · obtain ⟨value, hvalue⟩ := h first List.mem_cons_self hfirst
      refine ⟨(first.name, value) :: members, ?_, ?_, ?_⟩
      · intro field hfield hfieldRequired
        rw [lookup_cons]
        rcases List.mem_cons.1 hfield with rfl | hfield
        · rw [if_pos rfl]
          rfl
        · rw [if_neg (hother field hfield)]
          exact hrequired field hfield hfieldRequired
      · intro field hfield found hfound
        rw [lookup_cons] at hfound
        rcases List.mem_cons.1 hfield with rfl | hfield
        · rw [if_pos rfl] at hfound
          cases hfound
          exact hvalue
        · rw [if_neg (hother field hfield)] at hfound
          exact hgood field hfield found hfound
      · intro entry hentry
        rcases List.mem_cons.1 hentry with rfl | hentry
        · exact ⟨first, List.mem_cons_self, rfl⟩
        · obtain ⟨field, hfield, hname⟩ := hnamed entry hentry
          exact ⟨field, List.mem_cons_of_mem _ hfield, hname⟩
    · refine ⟨members, ?_, ?_, ?_⟩
      · intro field hfield hfieldRequired
        rcases List.mem_cons.1 hfield with rfl | hfield
        · exact absurd hfieldRequired hfirst
        · exact hrequired field hfield hfieldRequired
      · intro field hfield found hfound
        rcases List.mem_cons.1 hfield with rfl | hfield
        · -- The members are named after other fields.
          obtain ⟨other, hmem, hname⟩ := hnamed _ (mem_of_lookup hfound)
          exact absurd hname (hother other hmem)
        · exact hgood field hfield found hfound
      · intro entry hentry
        obtain ⟨field, hfield, hname⟩ := hnamed entry hentry
        exact ⟨field, List.mem_cons_of_mem _ hfield, hname⟩

/-- Items can be chosen for all positions. -/
theorem exists_items {schemas : List Schema} {P : Schema → Value → Prop}
    (h : ∀ schema ∈ schemas, ∃ value, P schema value) :
    ∃ items : List Value, items.length = schemas.length ∧
      ∀ schema item, (schema, item) ∈ schemas.zip items → P schema item := by
  induction schemas with
  | nil => exact ⟨[], rfl, fun schema item hpair => absurd hpair List.not_mem_nil⟩
  | cons first rest ih =>
    obtain ⟨value, hvalue⟩ := h first List.mem_cons_self
    obtain ⟨items, hlength, hitems⟩ := ih fun schema hschema =>
      h schema (List.mem_cons_of_mem _ hschema)
    refine ⟨value :: items, by rw [List.length_cons, List.length_cons, hlength], ?_⟩
    intro schema item hpair
    rw [List.zip_cons_cons] at hpair
    rcases List.mem_cons.1 hpair with heq | hpair
    · obtain ⟨rfl, rfl⟩ := Prod.mk.inj heq
      exact hvalue
    · exact hitems schema item hpair

/-! ## Values that conform -/

/-- Some value conforms to the schema by a derivation of any depth. -/
def HasValue (registry : Registry) (schema : Schema) : Prop :=
  ∃ value, Conforms (fun _ => True) 0 schema registry value

section HasValue

variable {registry : Registry} {schema : Schema} {finite : List String}

/-- A value for the schema is accepted from some depth on. -/
theorem HasValue.exists_check_ok (h : HasValue registry schema) : ∃ value least,
    ∀ maxDepth ≥ least, Validator.check ⟨schema, registry, maxDepth⟩ value = .ok () := by
  obtain ⟨value, hconforms⟩ := h
  obtain ⟨least, hbound⟩ := hconforms.exists_bound
  refine ⟨value, least, fun maxDepth hle => (check_ok_iff_conforms _ _).2 ?_⟩
  exact hbound.shift fun depth hdepth => Nat.le_trans hdepth hle

/-- A derivation may start at any depth. -/
theorem Conforms.deeper {depth : Nat} {value : Value}
    (h : Conforms (fun _ => True) 0 schema registry value) :
    Conforms (fun _ => True) depth schema registry value := h.shift fun _ _ => trivial

/-- A plain schema that has a finite value has a value, if the references in it have one that count as
finite. -/
theorem exists_conforms_of_hasFiniteValue (hfinite : schema.hasFiniteValue finite = true)
    (hplain : schema.Everywhere Schema.IsPlain)
    (hnames : schema.Everywhere Schema.HasDistinctNames)
    (hrefs : ∀ target, schema.Mentions target → target.document.isSome = true ∨ target.name ∈ finite →
      HasValue registry (.reference target)) : HasValue registry schema := by
  induction schema using Schema.inductionOnParts with
  | step schema ih =>
    have hpart : ∀ part, Schema.IsPart part schema → part.hasFiniteValue finite = true →
        HasValue registry part := fun part hpart hfinite =>
      ih part hpart hfinite (hplain.of_isPart hpart) (hnames.of_isPart hpart)
        fun target hmentions => hrefs target (.part hpart hmentions)
    cases schema with
    | const value => exact ⟨value, .const trivial (.refl hnames.here)⟩
    | enum values =>
      obtain ⟨value, hvalue⟩ := List.exists_mem_of_ne_nil _ (Schema.hasFiniteValue_enum_iff.1 hfinite)
      exact ⟨value, .enum trivial hvalue (.refl (hnames.here value hvalue))⟩
    | primitive p =>
      obtain ⟨value, hvalue⟩ := Primitive.exists_allows hplain.here
      exact ⟨value, .primitive trivial hvalue⟩
    | object fields closed =>
      rw [Schema.hasFiniteValue_object_iff] at hfinite
      obtain ⟨members, hrequired, hgood, hnamed⟩ := exists_members
        (P := fun schema value => Conforms (fun _ => True) 1 schema registry value) hnames.here
        fun field hfield hrequired => by
          obtain ⟨value, hvalue⟩ := hpart field.schema (.field hfield) (hfinite field hfield hrequired)
          exact ⟨value, hvalue.deeper⟩
      exact ⟨.object members, .object trivial hrequired hgood fun _ => hnamed⟩
    | tuple schemas =>
      rw [Schema.hasFiniteValue_tuple_iff] at hfinite
      obtain ⟨items, hlength, hitems⟩ := exists_items
        (P := fun schema value => Conforms (fun _ => True) 1 schema registry value)
        fun schema hschema => by
          obtain ⟨value, hvalue⟩ := hpart schema (.position hschema) (hfinite schema hschema)
          exact ⟨value, hvalue.deeper⟩
      exact ⟨.array items, .tuple trivial hlength hitems⟩
    | array item minItems maxItems =>
      -- As few items as there may be, and all of them the same.
      have hmost : ∀ most, maxItems = some most → minItems.getD 0 ≤ most := by
        intro most hmost
        cases minItems with
        | none => exact Nat.zero_le most
        | some least => exact hplain.here least rfl most hmost
      have hvalue : ∃ value : Value, minItems.getD 0 ≠ 0 →
          Conforms (fun _ => True) 1 item registry value := by
        rcases Schema.hasFiniteValue_array_iff.1 hfinite with hzero | hitem
        · exact ⟨.null, fun hne => absurd hzero hne⟩
        · obtain ⟨value, hvalue⟩ := hpart item .item hitem
          exact ⟨value, fun _ => hvalue.deeper⟩
      obtain ⟨value, hvalue⟩ := hvalue
      refine ⟨.array (List.replicate (minItems.getD 0) value), .array trivial ?_ ?_ ?_⟩
      · rintro least rfl
        rw [List.length_replicate]
        exact Nat.le_refl _
      · intro most hmax
        rw [List.length_replicate]
        exact hmost most hmax
      · intro other hother
        obtain ⟨hne, rfl⟩ := List.mem_replicate.1 hother
        exact hvalue hne
    | union alternatives =>
      obtain ⟨alternative, hmem, hfinite⟩ := Schema.hasFiniteValue_union_iff.1 hfinite
      obtain ⟨value, hvalue⟩ := hpart alternative (.alternative hmem) hfinite
      exact ⟨value, .union trivial hmem hvalue.deeper⟩
    | reference target =>
      exact hrefs target .reference (Schema.hasFiniteValue_reference_iff.1 hfinite)
    | anything => exact ⟨.null, .anything trivial⟩

/-- Every type that the check found has a value, if types of other documents that are referred to have
one. -/
theorem hasValue_of_mem_types (hnames : (registry.types.map NamedType.name).Nodup)
    (hinhabited : ∀ t ∈ registry.types, t.name ∈ finiteTypes registry.types)
    (hplain : ∀ t ∈ registry.types, t.schema.Everywhere Schema.IsPlain)
    (hdistinct : ∀ t ∈ registry.types, t.schema.Everywhere Schema.HasDistinctNames)
    (hothers : ∀ t ∈ registry.types, ∀ target, t.schema.Mentions target →
      target.document.isSome = true → HasValue registry (.reference target)) :
    ∀ t ∈ registry.types, HasValue registry t.schema := by
  have hfound : ∀ name ∈ finiteTypes registry.types, ∃ t ∈ registry.types, t.name = name ∧
      HasValue registry t.schema := by
    refine finiteTypes_induction fun finite hfinite t ht hschema => ⟨t, ht, rfl, ?_⟩
    refine exists_conforms_of_hasFiniteValue hschema (hplain t ht) (hdistinct t ht) ?_
    intro target hmentions hknown
    cases hdocument : target.document with
    | some _ => exact hothers t ht target hmentions (by rw [hdocument]; rfl)
    | none =>
      rw [hdocument] at hknown
      obtain ⟨named, hnamed, hname, value, hvalue⟩ := hfinite target.name (hknown.resolve_left nofun)
      refine ⟨value, .reference trivial ?_ hvalue.deeper⟩
      have hlocal : registry.local? target.name = some named :=
        hname ▸ find?_of_nodup hnames hnamed
      rw [Registry.lookup_own hdocument, hlocal]
      rfl
  intro t ht
  obtain ⟨found, hmem, hname, hvalue⟩ := hfound t.name (hinhabited t ht)
  have hsame : found = t :=
    List.inj_on_of_nodup_map hnames hmem ht hname
  exact hsame ▸ hvalue

end HasValue

end ServiceContract
