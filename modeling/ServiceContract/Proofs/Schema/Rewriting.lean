import ServiceContract.Proofs.Schema.Relocation

/-!
# Rewriting references

A schema is borrowed by rewriting its references, node by node, and nothing else: `mapReferences` does so
at every node, without a look at what stands below. Parts that name no type of their own document are
left out when a schema is borrowed. They would come out the same, since nothing in them is rewritten; and
what comes out names no type of its own document, so that to borrow it once more changes nothing.
-/

namespace ServiceContract.Schema

variable {f : TypeRef → TypeRef} {document : String} {s : Schema}

/-! ## The plain map -/

mutual

/-- The schema with other references, and all else as it is. -/
def mapReferences (f : TypeRef → TypeRef) (s : Schema) : Schema :=
  match s with
  | .reference target => .reference (f target)
  | .object fields closed => .object (mapFieldReferences f fields) closed
  | .tuple items => .tuple (mapAllReferences f items)
  | .array items minItems maxItems => .array (items.mapReferences f) minItems maxItems
  | .union alternatives => .union (mapAllReferences f alternatives)
  | .const value => .const value
  | .enum values => .enum values
  | .primitive p => .primitive p
  | .anything => .anything
termination_by structural s

/-- Several schemas with other references. -/
def mapAllReferences (f : TypeRef → TypeRef) : List Schema → List Schema
  | [] => []
  | s :: rest => s.mapReferences f :: mapAllReferences f rest
termination_by structural schemas => schemas

/-- Fields of the same names, required or not as they are, with other references in their schemas. -/
def mapFieldReferences (f : TypeRef → TypeRef) : List Field → List Field
  | [] => []
  | ⟨name, schema, required⟩ :: rest =>
    ⟨name, schema.mapReferences f, required⟩ :: mapFieldReferences f rest
termination_by structural fields => fields

end

theorem mapAllReferences_eq {items : List Schema} :
    mapAllReferences f items = items.map (mapReferences f) := by
  induction items with
  | nil => rfl
  | cons item rest ih => rw [mapAllReferences, List.map_cons, ih]

theorem mapFieldReferences_eq {fields : List Field} :
    mapFieldReferences f fields =
      fields.map fun field => { field with schema := field.schema.mapReferences f } := by
  induction fields with
  | nil => rfl
  | cons field rest ih =>
    obtain ⟨name, schema, required⟩ := field
    rw [mapFieldReferences, List.map_cons, ih]

/-- Borrowing is the plain map: the parts that are left out stay as they are under it. -/
theorem rebase_eq_mapReferences : s.rebase document = s.mapReferences (TypeRef.outside document) := by
  induction s using inductionOnParts with
  | step s ih =>
    cases s with
    | reference target => rw [rebase_reference, mapReferences]
    | object fields closed =>
      rw [rebase_object, mapReferences, mapFieldReferences_eq]
      refine congrArg (object · closed) (List.map_congr_left fun field hfield => ?_)
      rw [rebaseField, ih field.schema (.field hfield)]
    | tuple items =>
      rw [rebase_tuple, mapReferences, mapAllReferences_eq]
      exact congrArg tuple (List.map_congr_left fun item hitem => ih item (.position hitem))
    | array items minItems maxItems => rw [rebase_array, mapReferences, ih items .item]
    | union alternatives =>
      rw [rebase_union, mapReferences, mapAllReferences_eq]
      exact congrArg union (List.map_congr_left fun alternative halternative =>
        ih alternative (.alternative halternative))
    | const | enum | primitive | anything => rfl

/-! ## Types of the own document -/

/-- One step of the search for types of the own document: into the parts. -/
theorem namesOwnTypes_step : s.namesOwnTypes = true ↔
    (∃ name, s = .reference (.inside name)) ∨ ∃ part, IsPart part s ∧ part.namesOwnTypes = true := by
  constructor
  · intro h
    cases s with
    | reference target =>
      obtain ⟨none | other, name⟩ := target
      · exact .inl ⟨name, rfl⟩
      · cases h
    | object fields closed =>
      rw [namesOwnTypes, fieldsNameOwnTypes_eq, List.any_eq_true] at h
      obtain ⟨field, hfield, hnames⟩ := h
      exact .inr ⟨field.schema, .field hfield, hnames⟩
    | tuple items =>
      rw [namesOwnTypes, anyNamesOwnTypes_eq, List.any_eq_true] at h
      obtain ⟨item, hitem, hnames⟩ := h
      exact .inr ⟨item, .position hitem, hnames⟩
    | array items minItems maxItems => exact .inr ⟨items, .item, h⟩
    | union alternatives =>
      rw [namesOwnTypes, anyNamesOwnTypes_eq, List.any_eq_true] at h
      obtain ⟨alternative, halternative, hnames⟩ := h
      exact .inr ⟨alternative, .alternative halternative, hnames⟩
    | const | enum | primitive | anything => cases h
  · rintro (⟨name, rfl⟩ | ⟨part, hpart, hnames⟩)
    · rfl
    · cases hpart with
      | field hfield =>
        rw [namesOwnTypes, fieldsNameOwnTypes_eq]
        exact List.any_eq_true.2 ⟨_, hfield, hnames⟩
      | position hitem =>
        rw [namesOwnTypes, anyNamesOwnTypes_eq]
        exact List.any_eq_true.2 ⟨_, hitem, hnames⟩
      | item => exact hnames
      | alternative halternative =>
        rw [namesOwnTypes, anyNamesOwnTypes_eq]
        exact List.any_eq_true.2 ⟨_, halternative, hnames⟩

/-- A type of the own document is found wherever it is named. -/
theorem namesOwnTypes_iff : s.namesOwnTypes = true ↔ ∃ name, Mentions (.inside name) s := by
  constructor
  · intro h
    induction s using inductionOnParts with
    | step s ih =>
      rcases namesOwnTypes_step.1 h with ⟨name, rfl⟩ | ⟨part, hpart, hnames⟩
      · exact ⟨name, .reference⟩
      · obtain ⟨name, hname⟩ := ih part hpart hnames
        exact ⟨name, .part hpart hname⟩
  · rintro ⟨name, h⟩
    induction h with
    | reference => exact namesOwnTypes_step.2 (.inl ⟨name, rfl⟩)
    | part hpart _ ih => exact namesOwnTypes_step.2 (.inr ⟨_, hpart, ih⟩)

/-- A borrowed schema names no type of its own document. -/
theorem not_mentions_inside_rebase {name : String} : ¬ Mentions (.inside name) (s.rebase document) := by
  intro h
  obtain ⟨original, -, heq⟩ := mentions_rebase h
  cases congrArg TypeRef.document heq

theorem namesOwnTypes_rebase : (s.rebase document).namesOwnTypes = false := by
  rw [Bool.eq_false_iff, Ne, namesOwnTypes_iff]
  exact fun ⟨_, h⟩ => not_mentions_inside_rebase h

/-- A schema is borrowed by the plain map that makes its references to types of its own document name
the document, and leaves all else as it is: literals, primitives, names of fields and their order, which
are required, whether an object is closed, numbers of items, and references that name a document already.
What comes out names no type of its own document, and stays as it is when it is borrowed again. A schema
stays as it is in the first place, whatever the document, exactly if no such type is found in it; and one
is found exactly if one is named anywhere. -/
theorem rebase_eq_plain (s : Schema) (document : String) :
    s.rebase document = s.mapReferences (TypeRef.outside document) ∧
    (s.rebase document).namesOwnTypes = false ∧
    (¬ ∃ name, Mentions (.inside name) (s.rebase document)) ∧
    (∀ other, (s.rebase document).rebase other = s.rebase document) ∧
    (s.namesOwnTypes = false ↔ ∀ document, s.rebase document = s) ∧
    (s.namesOwnTypes = true ↔ ∃ name, Mentions (.inside name) s) := by
  refine ⟨rebase_eq_mapReferences, namesOwnTypes_rebase, fun ⟨_, h⟩ => not_mentions_inside_rebase h,
    fun _ => rebase_of_not_namesOwnTypes namesOwnTypes_rebase, ?_, namesOwnTypes_iff⟩
  constructor
  · exact fun h _ => rebase_of_not_namesOwnTypes h
  · intro h
    rw [← h document]
    exact namesOwnTypes_rebase

end ServiceContract.Schema
