import Mathlib.Algebra.Group.Nat.Defs
import Mathlib.Data.List.Nodup
import ServiceContract.Proofs.Json.ValueText
import ServiceContract.Proofs.Schema.RawSchema
import ServiceContract.Proofs.Schema.Relocation
import ServiceContract.Proofs.Table

/-!
# What holds at every node

A condition on the nodes of a schema that a raw schema can only be read as if it holds at each of
them. Borrowing keeps such a condition, so it holds of fragments of other documents as well. There are
two: counts are words of 64 bits, whatever the raw schema is; and where no object of the raw schema has
a key twice, no object has two fields of one name, and literals have no key twice either.
-/

namespace ServiceContract

open Json (Number Value Members)

namespace Schema

variable {P : Schema → Prop} {s part : Schema} {document : String}

/-- The condition holds of the schema and of everything in it. -/
inductive Everywhere (P : Schema → Prop) : Schema → Prop where
  /-- It holds of the schema and everywhere in its parts. -/
  | node {s : Schema} (here : P s) (parts : ∀ part, IsPart part s → Everywhere P part) :
      Everywhere P s

theorem Everywhere.here (h : s.Everywhere P) : P s := by
  cases h with
  | node here _ => exact here

theorem Everywhere.of_isPart (h : s.Everywhere P) (hpart : IsPart part s) : part.Everywhere P := by
  cases h with
  | node _ parts => exact parts part hpart

theorem Everywhere.imp {Q : Schema → Prop} (h : s.Everywhere P) (himp : ∀ s, P s → Q s) :
    s.Everywhere Q := by
  induction h with
  | node here _ ih => exact .node (himp _ here) ih

/-- What holds at each node gives what borrowing makes of it. -/
theorem Everywhere.rebase {Q : Schema → Prop} (h : s.Everywhere P)
    (hrebase : ∀ s, P s → Q (s.rebase document)) : (s.rebase document).Everywhere Q := by
  induction h with
  | node here _ ih =>
    refine .node (hrebase _ here) fun part hpart => ?_
    obtain ⟨original, horiginal, rfl⟩ := isPart_rebase hpart
    exact ih original horiginal

/-- What holds of a schema without parts holds everywhere in it. -/
theorem Everywhere.leaf (h : P s) (hnone : ∀ part, ¬ IsPart part s) : s.Everywhere P :=
  .node h fun part hpart => absurd hpart (hnone part)

mutual

/-- The test holds of the schema and of everything in it. -/
def everywhere (test : Schema → Bool) : Schema → Bool
  | .object fields closed => test (.object fields closed) && everywhereInFields test fields
  | .tuple items => test (.tuple items) && everywhereInAll test items
  | .array items minItems maxItems =>
    test (.array items minItems maxItems) && items.everywhere test
  | .union alternatives => test (.union alternatives) && everywhereInAll test alternatives
  | .const value => test (.const value)
  | .enum values => test (.enum values)
  | .primitive p => test (.primitive p)
  | .reference target => test (.reference target)
  | .anything => test .anything
termination_by structural s => s

/-- It holds of several schemas and of everything in them. -/
def everywhereInAll (test : Schema → Bool) : List Schema → Bool
  | [] => true
  | s :: rest => s.everywhere test && everywhereInAll test rest
termination_by structural schemas => schemas

/-- It holds of the schemas of fields and of everything in them. -/
def everywhereInFields (test : Schema → Bool) : List Field → Bool
  | [] => true
  | ⟨_, schema, _⟩ :: rest => schema.everywhere test && everywhereInFields test rest
termination_by structural fields => fields

end

theorem everywhereInAll_iff {test : Schema → Bool} {schemas : List Schema} :
    everywhereInAll test schemas = true ↔ ∀ s ∈ schemas, s.everywhere test = true := by
  induction schemas with
  | nil => simp [everywhereInAll]
  | cons s rest ih => rw [everywhereInAll, Bool.and_eq_true, ih, List.forall_mem_cons]

theorem everywhereInFields_iff {test : Schema → Bool} {fields : List Field} :
    everywhereInFields test fields = true ↔
      ∀ field ∈ fields, field.schema.everywhere test = true := by
  induction fields with
  | nil => simp [everywhereInFields]
  | cons field rest ih =>
    obtain ⟨name, schema, required⟩ := field
    rw [everywhereInFields, Bool.and_eq_true, ih, List.forall_mem_cons]

theorem everywhere_iff_isPart {test : Schema → Bool} : s.everywhere test = true ↔
    test s = true ∧ ∀ part, IsPart part s → part.everywhere test = true := by
  cases s with
  | object fields closed =>
    rw [everywhere, Bool.and_eq_true, everywhereInFields_iff]
    refine and_congr_right fun _ => ⟨fun h part hpart => ?_, fun h field hmem => h _ (.field hmem)⟩
    cases hpart with
    | field hmem => exact h _ hmem
  | tuple items =>
    rw [everywhere, Bool.and_eq_true, everywhereInAll_iff]
    refine and_congr_right fun _ => ⟨fun h part hpart => ?_, fun h item hmem => h _ (.position hmem)⟩
    cases hpart with
    | position hmem => exact h _ hmem
  | array items minItems maxItems =>
    rw [everywhere, Bool.and_eq_true]
    refine and_congr_right fun _ => ⟨fun h part hpart => ?_, fun h => h _ .item⟩
    cases hpart with
    | item => exact h
  | union alternatives =>
    rw [everywhere, Bool.and_eq_true, everywhereInAll_iff]
    refine and_congr_right fun _ =>
      ⟨fun h part hpart => ?_, fun h alternative hmem => h _ (.alternative hmem)⟩
    cases hpart with
    | alternative hmem => exact h _ hmem
  | const | enum | primitive | reference | anything =>
    rw [everywhere]
    exact (and_iff_left fun part hpart => by cases hpart).symm

/-- Whether a condition that can be decided holds everywhere can be decided. -/
theorem everywhere_iff [DecidablePred P] :
    s.everywhere (fun s => decide (P s)) = true ↔ s.Everywhere P := by
  induction s using inductionOnParts with
  | step s ih =>
    rw [everywhere_iff_isPart, decide_eq_true_iff]
    constructor
    · rintro ⟨here, hparts⟩
      exact .node here fun part hpart => (ih part hpart).1 (hparts part hpart)
    · intro h
      exact ⟨h.here, fun part hpart => (ih part hpart).2 (h.of_isPart hpart)⟩

instance [DecidablePred P] : Decidable (s.Everywhere P) := decidable_of_iff _ everywhere_iff

end Schema

/-! ## Reading -/

/-- The nodes that reading makes of a raw schema that is in order meet a condition. -/
structure ReadsNodes (inOrder : Value → Prop) (P : Schema → Prop) : Prop where
  /-- What stands in a value that is in order is in order. -/
  item : ∀ {items}, inOrder (.array items) → ∀ item ∈ items, inOrder item
  /-- So are the members of an object. -/
  member : ∀ {members}, inOrder (.object members) → ∀ member ∈ members, inOrder member.2
  /-- A schema that accepts everything. -/
  anything : P .anything
  /-- A constant. -/
  const : ∀ {value}, inOrder value → P (.const value)
  /-- Listed values. -/
  enum : ∀ {values}, inOrder (.array values) → values ≠ [] → P (.enum values)
  /-- A primitive. -/
  primitive : ∀ kind members, P (.primitive (RawSchema.primitive kind members))
  /-- An object, with a field for each property. -/
  object : ∀ {members fields}, inOrder (.object members) →
    fields.map Prod.fst = (RawSchema.properties members).map Prod.fst →
    P (.object (Schema.fieldsOf fields (RawSchema.required members)) (RawSchema.isClosed members))
  /-- A tuple. -/
  tuple : ∀ items, P (.tuple items)
  /-- An array. -/
  array : ∀ schema members, P (.array schema (RawSchema.count? members "minItems")
    (RawSchema.count? members "maxItems"))
  /-- A union. -/
  union : ∀ {alternatives}, alternatives ≠ [] → P (.union alternatives)

/-- So do the nodes that references stand for, to types and to what is borrowed. -/
structure ReadsTo (inOrder : Value → Prop) (P : Schema → Prop) : Prop extends
    ReadsNodes inOrder P where
  /-- A reference. -/
  reference : ∀ target, P (.reference target)
  /-- A borrowed schema. -/
  rebase : ∀ {document} s, P s → P (s.rebase document)

namespace ReadsNodes

open RawSchema Schema

variable {inOrder : Value → Prop} {P : Schema → Prop} {ref : String → Schema → Prop}
  {part : Value → Schema → Prop} {raw : Value} {schema : Schema} {members : Members} {name : String}
  (hreads : ReadsNodes inOrder P)

include hreads

theorem lookup {key : String} {value : Value} (h : inOrder (.object members))
    (hvalue : members.lookup key = some value) : inOrder value := by
  exact hreads.member h (key, value) (mem_of_lookup hvalue)

theorem everywhere_anything : Everywhere P .anything :=
  .leaf hreads.anything fun part hpart => by cases hpart

/-- The nodes of what a raw schema stands for under a type. -/
theorem everywhere_of_typedForm (h : TypedForm part members name schema)
    (horder : inOrder (.object members))
    (hpart : ∀ raw schema, part raw schema → inOrder raw → schema.Everywhere P) :
    schema.Everywhere P := by
  cases h with
  | @object fields hfields =>
    have hnames : fields.map Prod.fst = (properties members).map Prod.fst :=
      (map_eq_map_of_forall₂ hfields fun _ _ hfield => hfield.1.symm).symm
    refine .node (hreads.object horder hnames) fun p hp => ?_
    cases hp with
    | field hfield =>
      rcases mem_fieldsOf.1 hfield with ⟨q, hq, rfl⟩ | ⟨name, -, -, rfl⟩
      · have hsecond : List.Forall₂ (fun (raw : String × Value) p => part raw.2 p)
            (properties members) (fields.map Prod.snd) := by
          rw [List.forall₂_map_right_iff]
          exact hfields.imp fun _ _ h => h.2
        obtain ⟨entry, hentry, hraw⟩ :=
          exists_of_forall₂_right hsecond (List.mem_map_of_mem hq)
        obtain ⟨ps, hps, hmem⟩ := exists_of_mem_properties hentry
        exact hpart _ _ hraw (hreads.member (hreads.lookup horder hps) entry hmem)
      · exact hreads.everywhere_anything
  | tuple hitems hparts =>
    refine .node (hreads.tuple _) fun p hp => ?_
    cases hp with
    | position hitem =>
      obtain ⟨raw, hmem, hraw⟩ := exists_of_forall₂_right hparts hitem
      exact hpart raw p hraw (hreads.item (hreads.lookup horder hitems) raw hmem)
  | array hitems _ hone =>
    refine .node (hreads.array _ _) fun p hp => ?_
    cases hp with
    | item => exact hpart _ _ hone (hreads.lookup horder hitems)
  | anyArray =>
    refine .node (hreads.array _ _) fun p hp => ?_
    cases hp with
    | item => exact hreads.everywhere_anything
  | primitive =>
    exact .leaf (hreads.primitive _ _) fun p hp => by cases hp

omit hreads in
/-- What is listed under the keyword that decides the form gives as many schemas, and some. -/
theorem ne_nil_of_listsSome {α : Type} {r : Value → α → Prop} {keyword : String} {items : List Value}
    {as : List α} (hlists : ListsSome (.object members)) (hlead : leading members = some keyword)
    (hkeyword : keyword ∈ ["enum", "anyOf", "oneOf", "type"])
    (hitems : members.lookup keyword = some (.array items)) (h : List.Forall₂ r items as) : as ≠ [] := by
  rintro rfl
  cases h
  exact hlists members keyword rfl hlead hkeyword hitems

/-- The nodes of what a raw schema stands for. -/
theorem everywhere_of_hasForm (h : HasForm ref part raw schema) (hlists : ListsSome raw)
    (horder : inOrder raw) (href : ∀ text schema, ref text schema → schema.Everywhere P)
    (hpart : ∀ raw schema, part raw schema → inOrder raw → schema.Everywhere P) :
    schema.Everywhere P := by
  cases h with
  | everything | unconstrained => exact hreads.everywhere_anything
  | reference _ _ h => exact href _ _ h
  | const _ hvalue =>
    exact .leaf (hreads.const (hreads.lookup horder hvalue)) fun p hp => by cases hp
  | @enum _ values hlead hvalues =>
    have hsame : List.Forall₂ Eq values values := List.forall₂_refl values
    have hne := ne_nil_of_listsSome hlists hlead (by simp) hvalues hsame
    exact .leaf (hreads.enum (hreads.lookup horder hvalues) hne) fun p hp => by cases hp
  | union hkeyword hlead hitems hparts =>
    have hlist := List.mem_cons_of_mem "enum" (List.mem_append_left ["type"] hkeyword)
    have hne := ne_nil_of_listsSome hlists hlead hlist hitems hparts
    refine .node (hreads.union hne) fun p hp => ?_
    cases hp with
    | alternative hmem =>
      obtain ⟨raw, hrawmem, hraw⟩ := exists_of_forall₂_right hparts hmem
      exact hpart raw p hraw (hreads.item (hreads.lookup horder hitems) raw hrawmem)
  | typed _ _ h | oneType _ _ h | properties _ h => exact hreads.everywhere_of_typedForm h horder hpart
  | types hlead hnames hparts =>
    have hne := ne_nil_of_listsSome hlists hlead (by simp) hnames hparts
    refine .node (hreads.union hne) fun p hp => ?_
    cases hp with
    | alternative hmem =>
      obtain ⟨raw, -, name, -, h⟩ := exists_of_forall₂_right hparts hmem
      exact hreads.everywhere_of_typedForm h horder hpart

end ReadsNodes

/-! ## Counts -/

/-- The counts at the node are words of 64 bits. -/
def Schema.HasWords : Schema → Prop
  | .primitive p => (∀ n ∈ p.minLength, n < 2 ^ 64) ∧ ∀ n ∈ p.maxLength, n < 2 ^ 64
  | .array _ minItems maxItems => (∀ n ∈ minItems, n < 2 ^ 64) ∧ ∀ n ∈ maxItems, n < 2 ^ 64
  | _ => True

theorem RawSchema.count?_lt {members : Members} {keyword : String} :
    ∀ n ∈ count? members keyword, n < 2 ^ 64 := by
  intro n hn
  obtain ⟨number, -, hn⟩ := Option.bind_eq_some_iff.1 hn
  cases number with
  | integer m hm =>
    unfold Number.toNat? at hn
    dsimp only at hn
    by_cases hle : 0 ≤ m
    · rw [if_pos hle, Option.some.injEq] at hn
      omega
    · rw [if_neg hle] at hn
      cases hn
  | float x => cases hn

theorem readsTo_hasWords : ReadsTo (fun _ => True) Schema.HasWords where
  item _ _ _ := trivial
  member _ _ _ := trivial
  anything := trivial
  reference _ := trivial
  const _ := trivial
  enum _ _ := trivial
  primitive kind members := by
    have hnone : ∀ n ∈ (none : Option Nat), n < 2 ^ 64 := fun n hn => by cases hn
    cases kind with
    | string => exact ⟨RawSchema.count?_lt, RawSchema.count?_lt⟩
    | null | boolean | integer | number => exact ⟨hnone, hnone⟩
  object _ _ := trivial
  tuple _ := trivial
  array _ _ := ⟨RawSchema.count?_lt, RawSchema.count?_lt⟩
  union _ := trivial
  rebase {document} s h := by
    cases s with
    | object => rw [Schema.rebase_object]; trivial
    | tuple => rw [Schema.rebase_tuple]; trivial
    | array => rw [Schema.rebase_array]; exact h
    | union => rw [Schema.rebase_union]; trivial
    | reference => rw [Schema.rebase_reference]; trivial
    | const | enum | primitive | anything => exact h

/-! ## Names -/

/-- The fields at the node have different names, and no object in a literal has a key twice. -/
def Schema.HasDistinctNames : Schema → Prop
  | .const value => value.DistinctKeys
  | .enum values => ∀ value ∈ values, value.DistinctKeys
  | .object fields _ => (fields.map Field.name).Nodup
  | _ => True

/-- Required names that are added to fields with different names have different names. -/
theorem nodup_foldl_required {names : List String} {fields : List Field}
    (h : (fields.map Field.name).Nodup) :
    ((names.foldl (fun fields name =>
        if fields.any fun field => field.name == name then fields
        else fields ++ [⟨name, .anything, true⟩]) fields).map Field.name).Nodup := by
  induction names generalizing fields with
  | nil => exact h
  | cons name rest ih =>
    rw [List.foldl_cons]
    by_cases hany : (fields.any fun field => field.name == name) = true
    · rw [if_pos hany]
      exact ih h
    · rw [if_neg hany]
      refine ih ?_
      rw [List.map_append]
      refine List.nodup_append.2 ⟨h, List.nodup_singleton _, fun a ha b hb hab => hany ?_⟩
      obtain ⟨field, hfield, rfl⟩ := List.mem_map.1 ha
      rw [List.map_singleton, List.mem_singleton] at hb
      exact List.any_eq_true.2 ⟨field, hfield, by simp [hab, hb]⟩

theorem nodup_properties {members : Members} (h : (Value.object members).DistinctKeys) :
    ((RawSchema.properties members).map Prod.fst).Nodup := by
  unfold RawSchema.properties
  cases hraw : members.lookup "properties" with
  | none => exact List.nodup_nil
  | some value =>
    rw [Option.bind_some]
    cases value with
    | object ps =>
      have hps := (Value.distinctKeys_object.1 h).2 _ (mem_of_lookup hraw)
      exact (Value.distinctKeys_object.1 hps).1
    | null | bool | number | string | array => exact List.nodup_nil

theorem readsTo_hasDistinctNames : ReadsTo Value.DistinctKeys Schema.HasDistinctNames where
  item h := Value.distinctKeys_array.1 h
  member h := (Value.distinctKeys_object.1 h).2
  anything := trivial
  reference _ := trivial
  const h := h
  enum h _ := Value.distinctKeys_array.1 h
  primitive _ _ := trivial
  object {members fields} h hnames := by
    refine nodup_foldl_required ?_
    rw [List.map_map]
    show (fields.map Prod.fst).Nodup
    rw [hnames]
    exact nodup_properties h
  tuple _ := trivial
  array _ _ := trivial
  union _ := trivial
  rebase {document} s h := by
    cases s with
    | object fields closed =>
      rw [Schema.rebase_object]
      show ((fields.map (Schema.rebaseField document)).map Field.name).Nodup
      rw [List.map_map]
      exact h
    | tuple => rw [Schema.rebase_tuple]; trivial
    | array => rw [Schema.rebase_array]; trivial
    | union => rw [Schema.rebase_union]; trivial
    | reference => rw [Schema.rebase_reference]; trivial
    | const | enum | primitive | anything => exact h

end ServiceContract
