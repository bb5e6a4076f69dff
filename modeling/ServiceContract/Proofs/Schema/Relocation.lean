import ServiceContract.Schema.Relocation

/-!
# Parts of schemas and borrowed schemas

The parts of a schema, the references in it, and what becomes of both when the schema is borrowed by
another document: every part is borrowed as well, and every reference to a type of its own document
comes to name that document.
-/

namespace ServiceContract

/-- The reference as it reads outside a document. -/
def TypeRef.outside (document : String) (target : TypeRef) : TypeRef :=
  ⟨some (target.document.getD document), target.name⟩

namespace Schema

variable {document : String} {target : TypeRef} {s : Schema}

/-- The first schema is a direct part of the second one. -/
inductive IsPart : (part whole : Schema) → Prop where
  /-- The schema of a field. -/
  | field {fields : List Field} {closed : Bool} {field : Field} (h : field ∈ fields) :
      IsPart field.schema (.object fields closed)
  /-- The schema of a position. -/
  | position {items : List Schema} {item : Schema} (h : item ∈ items) : IsPart item (.tuple items)
  /-- The schema of all items. -/
  | item {items : Schema} {minItems maxItems : Option Nat} :
      IsPart items (.array items minItems maxItems)
  /-- An alternative. -/
  | alternative {alternatives : List Schema} {alternative : Schema}
      (h : alternative ∈ alternatives) : IsPart alternative (.union alternatives)

/-- The reference stands somewhere in the schema. -/
inductive Mentions (target : TypeRef) : Schema → Prop where
  /-- The schema is the reference. -/
  | reference : Mentions target (.reference target)
  /-- A part holds it. -/
  | part {part whole : Schema} (hpart : IsPart part whole) (h : Mentions target part) :
      Mentions target whole

theorem IsPart.sizeOf_lt {part whole : Schema} (h : IsPart part whole) :
    sizeOf part < sizeOf whole := by
  cases h with
  | @field fields closed field h =>
    have hfield := List.sizeOf_lt_of_mem h
    obtain ⟨name, schema, required⟩ := field
    simp only [Field.mk.sizeOf_spec, object.sizeOf_spec] at hfield ⊢
    omega
  | position h | alternative h =>
    have hitem := List.sizeOf_lt_of_mem h
    simp only [tuple.sizeOf_spec, union.sizeOf_spec]
    omega
  | item =>
    simp only [array.sizeOf_spec]
    omega

/-- What holds of a schema if it holds of its parts holds of all schemas. -/
theorem inductionOnParts {P : Schema → Prop}
    (step : ∀ s, (∀ part, IsPart part s → P part) → P s) (s : Schema) : P s := by
  induction h : sizeOf s using Nat.strongRecOn generalizing s with
  | ind n ih =>
    subst h
    exact step s fun part hpart => ih _ hpart.sizeOf_lt part rfl

/-! ## Borrowing without shortcuts -/

theorem anyNamesOwnTypes_eq {items : List Schema} :
    anyNamesOwnTypes items = items.any namesOwnTypes := by
  induction items with
  | nil => rfl
  | cons item rest ih => rw [anyNamesOwnTypes, List.any_cons, ih]

theorem fieldsNameOwnTypes_eq {fields : List Field} :
    fieldsNameOwnTypes fields = fields.any fun field => field.schema.namesOwnTypes := by
  induction fields with
  | nil => rfl
  | cons field rest ih =>
    obtain ⟨name, schema, required⟩ := field
    rw [fieldsNameOwnTypes, List.any_cons, ih]

theorem rebaseAll_eq {items : List Schema} :
    rebaseAll document items = items.map (rebase document) := by
  induction items with
  | nil => rfl
  | cons item rest ih => rw [rebaseAll, List.map_cons, ih]

/-- The field with its schema borrowed. -/
def rebaseField (document : String) (field : Field) : Field :=
  { field with schema := field.schema.rebase document }

theorem rebaseFields_eq {fields : List Field} :
    rebaseFields document fields = fields.map (rebaseField document) := by
  induction fields with
  | nil => rfl
  | cons field rest ih =>
    obtain ⟨name, schema, required⟩ := field
    rw [rebaseFields, List.map_cons, ih, rebaseField]

/-- A schema that names no type of its own document stays as it is. -/
theorem rebase_of_not_namesOwnTypes (h : s.namesOwnTypes = false) : s.rebase document = s := by
  cases s with
  | reference target =>
    unfold namesOwnTypes at h
    rw [rebase, if_neg (by simp [h])]
  | object fields closed =>
    unfold namesOwnTypes at h
    rw [rebase, if_neg (by simp [h])]
  | tuple items =>
    unfold namesOwnTypes at h
    rw [rebase, if_neg (by simp [h])]
  | array items minItems maxItems =>
    unfold namesOwnTypes at h
    rw [rebase, if_neg (by simp [h])]
  | union alternatives =>
    unfold namesOwnTypes at h
    rw [rebase, if_neg (by simp [h])]
  | const | enum | primitive | anything => rfl

theorem rebase_reference {target : TypeRef} :
    (Schema.reference target).rebase document = .reference (target.outside document) := by
  obtain ⟨none | other, name⟩ := target <;> rfl

theorem rebase_object {fields : List Field} {closed : Bool} :
    (Schema.object fields closed).rebase document =
      .object (fields.map (rebaseField document)) closed := by
  rw [rebase, fieldsNameOwnTypes_eq, rebaseFields_eq]
  split
  · rfl
  · next hnone =>
    have hsame : ∀ field ∈ fields, rebaseField document field = field := by
      intro field hfield
      have hfalse : field.schema.namesOwnTypes = false := by
        rw [List.any_eq_true] at hnone
        exact Bool.eq_false_iff.2 fun htrue => hnone ⟨field, hfield, htrue⟩
      obtain ⟨name, schema, required⟩ := field
      show Field.mk name (schema.rebase document) required = ⟨name, schema, required⟩
      rw [rebase_of_not_namesOwnTypes hfalse]
    rw [List.map_congr_left hsame, List.map_id']

/-- Borrowing all of some schemas, whether one of them names a type of its own document or not. -/
theorem map_rebase_of_not_any {items : List Schema} (h : ¬ items.any namesOwnTypes = true) :
    items.map (rebase document) = items := by
  have hsame : ∀ item ∈ items, item.rebase document = item := by
    intro item hitem
    rw [List.any_eq_true] at h
    exact rebase_of_not_namesOwnTypes (Bool.eq_false_iff.2 fun htrue => h ⟨item, hitem, htrue⟩)
  rw [List.map_congr_left hsame, List.map_id']

theorem rebase_tuple {items : List Schema} :
    (Schema.tuple items).rebase document = .tuple (items.map (rebase document)) := by
  rw [rebase, anyNamesOwnTypes_eq, rebaseAll_eq]
  split
  · rfl
  · next hnone => rw [map_rebase_of_not_any hnone]

theorem rebase_union {alternatives : List Schema} :
    (Schema.union alternatives).rebase document = .union (alternatives.map (rebase document)) := by
  rw [rebase, anyNamesOwnTypes_eq, rebaseAll_eq]
  split
  · rfl
  · next hnone => rw [map_rebase_of_not_any hnone]

theorem rebase_array {items : Schema} {minItems maxItems : Option Nat} :
    (Schema.array items minItems maxItems).rebase document =
      .array (items.rebase document) minItems maxItems := by
  rw [rebase]
  split
  · rfl
  · next hnone => rw [rebase_of_not_namesOwnTypes (Bool.eq_false_iff.2 hnone)]

/-! ## Parts and references of borrowed schemas -/

/-- The parts of a borrowed schema are borrowed parts. -/
theorem isPart_rebase {part : Schema} (h : IsPart part (s.rebase document)) :
    ∃ original, IsPart original s ∧ part = original.rebase document := by
  cases s with
  | object fields closed =>
    rw [rebase_object] at h
    cases h with
    | field hfield =>
      obtain ⟨field, hmem, rfl⟩ := List.mem_map.1 hfield
      exact ⟨field.schema, .field hmem, rfl⟩
  | tuple items =>
    rw [rebase_tuple] at h
    cases h with
    | position hitem =>
      obtain ⟨item, hmem, rfl⟩ := List.mem_map.1 hitem
      exact ⟨item, .position hmem, rfl⟩
  | array items minItems maxItems =>
    rw [rebase_array] at h
    cases h with
    | item => exact ⟨items, .item, rfl⟩
  | union alternatives =>
    rw [rebase_union] at h
    cases h with
    | alternative halternative =>
      obtain ⟨alternative, hmem, rfl⟩ := List.mem_map.1 halternative
      exact ⟨alternative, .alternative hmem, rfl⟩
  | reference target =>
    rw [rebase_reference] at h
    cases h
  | const | enum | primitive | anything => cases h

/-- The references in a borrowed schema are those of the schema as they read outside. -/
theorem mentions_rebase (h : Mentions target (s.rebase document)) :
    ∃ original, Mentions original s ∧ target = original.outside document := by
  generalize hwhole : s.rebase document = whole at h
  induction h generalizing s with
  | reference =>
    cases s with
    | reference original =>
      rw [rebase_reference] at hwhole
      cases hwhole
      exact ⟨original, .reference, rfl⟩
    | object => rw [rebase_object] at hwhole; cases hwhole
    | tuple => rw [rebase_tuple] at hwhole; cases hwhole
    | array => rw [rebase_array] at hwhole; cases hwhole
    | union => rw [rebase_union] at hwhole; cases hwhole
    | const | enum | primitive | anything => cases hwhole
  | part hpart _ ih =>
    subst hwhole
    obtain ⟨original, horiginal, rfl⟩ := isPart_rebase hpart
    obtain ⟨target', htarget', rfl⟩ := ih rfl
    exact ⟨target', .part horiginal htarget', rfl⟩

end Schema

end ServiceContract
