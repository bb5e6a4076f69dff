import ServiceContract.Proofs.Schema.Nodes
import ServiceContract.Schema.Finite

/-!
# What reading makes at each node

Reading makes enumerations and unions that are not empty, and it makes up no references of its own. So
a condition on nodes that all other schemas meet holds everywhere in a schema that was read, if it
holds everywhere in what references stand for.
-/

namespace ServiceContract.Schema

/-- There is something to choose from at the node. -/
def HasChoices : Schema → Prop
  | .enum values => values ≠ []
  | .union alternatives => alternatives ≠ []
  | _ => True

instance : DecidablePred HasChoices
  | .enum values => inferInstanceAs (Decidable (values ≠ []))
  | .union [] => isFalse fun h => h rfl
  | .union (_ :: _) => isTrue (List.cons_ne_nil _ _)
  | .const _ | .primitive _ | .object _ _ | .tuple _ | .array _ _ _ | .reference _ | .anything =>
    isTrue trivial

/-- The condition holds of every node that is no reference and has something to choose from. -/
def HoldsBesidesReferences (P : Schema → Prop) : Prop :=
  ∀ s : Schema, (∀ target, s ≠ .reference target) → s.HasChoices → P s

theorem HoldsBesidesReferences.readsNodes {P : Schema → Prop} (h : HoldsBesidesReferences P) :
    ReadsNodes (fun _ => True) P where
  item _ _ _ := trivial
  member _ _ _ := trivial
  anything := h _ nofun trivial
  const _ := h _ nofun trivial
  enum _ hne := h _ nofun hne
  primitive _ _ := h _ nofun trivial
  object _ _ := h _ nofun trivial
  tuple _ := h _ nofun trivial
  array _ _ := h _ nofun trivial
  union hne := h _ nofun hne

/-! ## References to types of the same document -/

section OwnTypes

variable {names : List String} {name : String} {schema : Schema}

theorem mem_ownTypesOfAll {schemas : List Schema} :
    name ∈ ownTypesOfAll schemas ↔ ∃ schema ∈ schemas, name ∈ schema.ownTypes := by
  induction schemas with
  | nil => simp [ownTypesOfAll]
  | cons schema rest ih => rw [ownTypesOfAll, List.mem_append, ih, List.exists_mem_cons_iff]

theorem mem_ownTypesOfFields {fields : List Field} :
    name ∈ ownTypesOfFields fields ↔ ∃ field ∈ fields, name ∈ field.schema.ownTypes := by
  induction fields with
  | nil => simp [ownTypesOfFields]
  | cons field rest ih =>
    obtain ⟨_, schema, _⟩ := field
    rw [ownTypesOfFields, List.mem_append, ih, List.exists_mem_cons_iff]

/-- The types that a schema names are those that references in it are to. -/
theorem mem_ownTypes_iff : name ∈ schema.ownTypes ↔ schema.Mentions (.inside name) := by
  induction schema using inductionOnParts with
  | step schema ih =>
    constructor
    · intro h
      cases schema with
      | reference target =>
        obtain ⟨document, target⟩ := target
        cases document with
        | none =>
          rw [List.mem_singleton.1 h]
          exact .reference
        | some document => cases h
      | object fields closed =>
        obtain ⟨field, hfield, h⟩ := mem_ownTypesOfFields.1 h
        exact .part (.field hfield) ((ih _ (.field hfield)).1 h)
      | tuple items =>
        obtain ⟨item, hitem, h⟩ := mem_ownTypesOfAll.1 h
        exact .part (.position hitem) ((ih _ (.position hitem)).1 h)
      | array items minItems maxItems => exact .part .item ((ih _ .item).1 h)
      | union alternatives =>
        obtain ⟨alternative, hmem, h⟩ := mem_ownTypesOfAll.1 h
        exact .part (.alternative hmem) ((ih _ (.alternative hmem)).1 h)
      | const | enum | primitive | anything => cases h
    · intro h
      cases h with
      | reference => exact List.mem_singleton.2 rfl
      | part hpart h =>
        have hinner := (ih _ hpart).2 h
        cases hpart with
        | field hfield => exact mem_ownTypesOfFields.2 ⟨_, hfield, hinner⟩
        | position hitem => exact mem_ownTypesOfAll.2 ⟨_, hitem, hinner⟩
        | item => exact hinner
        | alternative hmem => exact mem_ownTypesOfAll.2 ⟨_, hmem, hinner⟩

/-- There is something to choose from at the node, and a reference at it to a type of the same document
is to one of the names. -/
def IsWellMade (names : List String) (schema : Schema) : Prop :=
  schema.HasChoices ∧ ∀ name, schema = .reference (.inside name) → name ∈ names

theorem mem_of_mentions (h : schema.Everywhere (IsWellMade names)) (hname : schema.Mentions (.inside name)) :
    name ∈ names := by
  induction hname with
  | reference => exact h.here.2 name rfl
  | part hpart _ ih => exact ih (h.of_isPart hpart)

/-- A schema that was borrowed names no types of the document that borrows it. -/
theorem isWellMade_rebase {document : String} (h : schema.HasChoices) :
    (schema.rebase document).IsWellMade names := by
  cases schema with
  | object => rw [rebase_object]; exact ⟨trivial, nofun⟩
  | tuple => rw [rebase_tuple]; exact ⟨trivial, nofun⟩
  | array => rw [rebase_array]; exact ⟨trivial, nofun⟩
  | union alternatives =>
    rw [rebase_union]
    exact ⟨List.map_eq_nil_iff.not.2 h, nofun⟩
  | reference target =>
    rw [rebase_reference]
    exact ⟨trivial, nofun⟩
  | const | enum | primitive | anything => exact ⟨h, nofun⟩

/-- The condition holds of every node that reading makes in a document with types of these names, of
references and of what is borrowed as well, as long as there is something to choose from. -/
structure HoldsWhenRead (names : List String) (P : Schema → Prop) : Prop where
  nodes : HoldsBesidesReferences P
  inside : ∀ name ∈ names, P (.reference (.inside name))
  outside : ∀ document name, P (.reference ⟨some document, name⟩)
  rebase : ∀ {document : String} (s : Schema), s.HasChoices → P (s.rebase document)

theorem holdsWhenRead_isWellMade : HoldsWhenRead names (IsWellMade names) where
  nodes _ hreference hchoices := ⟨hchoices, fun _ heq => absurd heq (hreference _)⟩
  inside name hname := by
    refine ⟨trivial, fun name' heq => ?_⟩
    cases heq
    exact hname
  outside _ _ := ⟨trivial, nofun⟩
  rebase _ := isWellMade_rebase

theorem holdsWhenRead_hasChoices : HoldsWhenRead names HasChoices where
  nodes _ _ hchoices := hchoices
  inside _ _ := trivial
  outside _ _ := trivial
  rebase _ hchoices := (@isWellMade_rebase names _ _ hchoices).1

end OwnTypes

end ServiceContract.Schema
