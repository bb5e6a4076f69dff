import ServiceContract.Proofs.Schema.Relocation
import ServiceContract.Validation

/-!
# The lookups of a walk

Which references a walk can come to: it goes from a schema to its parts, and from a reference to the
type that is found for it, whose own references are looked up where that type is at home. If every
reference on these ways is found, then what the walk does about types that are not found makes no
difference: the same walk with any other answer gives the same result. So does the walk over other
registries in which the same types are found.
-/

namespace ServiceContract

open Json (Value Members)

/-! ## Looking up types -/

theorem Registry.lookup_own {registry : Registry} {target : TypeRef} (h : target.document = none) :
    registry.lookup target = (registry.local? target.name).map (·, registry) := by
  unfold lookup
  rw [h]

theorem Registry.lookup_other {registry home : Registry} {target : TypeRef} {key : String}
    (h : target.document = some key) (hhome : registry.externals.lookup key = some home) :
    registry.lookup target = (home.local? target.name).map (·, home) := by
  unfold lookup
  rw [h]
  dsimp only
  rw [hhome, Option.map_eq_bind]
  rfl

/-- A type that a document has under a name is one of its types and has that name. -/
theorem Registry.mem_of_local? {registry : Registry} {name : String} {named : NamedType}
    (h : registry.local? name = some named) : named ∈ registry.types ∧ named.name = name :=
  ⟨List.mem_of_find?_eq_some h, by simpa using List.find?_some h⟩

/-- What is found was declared in the registry itself or in that of the named document. -/
theorem Registry.lookup_eq_some {registry home : Registry} {target : TypeRef} {named : NamedType}
    (h : registry.lookup target = some (named, home)) :
    home.local? target.name = some named ∧ (target.document = none ∧ home = registry ∨
      ∃ key, target.document = some key ∧ registry.externals.lookup key = some home) := by
  cases hdocument : target.document with
  | none =>
    rw [lookup_own hdocument, Option.map_eq_some_iff] at h
    obtain ⟨_, hlocal, heq⟩ := h
    cases heq
    exact ⟨hlocal, .inl ⟨rfl, rfl⟩⟩
  | some key =>
    cases hhome : registry.externals.lookup key with
    | none =>
      unfold lookup at h
      rw [hdocument] at h
      dsimp only at h
      rw [hhome] at h
      cases h
    | some home' =>
      rw [lookup_other hdocument hhome, Option.map_eq_some_iff] at h
      obtain ⟨_, hlocal, heq⟩ := h
      cases heq
      exact ⟨hlocal, .inr ⟨key, rfl, hhome⟩⟩

/-! ## References that are found -/

/-- From a schema and the registry for its references one comes to another schema and the registry
for its references. -/
inductive Registry.Leads (registry : Registry) (schema : Schema) : Registry → Schema → Prop where
  /-- One is there. -/
  | here : Leads registry schema registry schema
  /-- One goes on to a part. -/
  | part {home : Registry} {part whole : Schema} (h : Leads registry schema home whole)
      (hpart : Schema.IsPart part whole) : Leads registry schema home part
  /-- One goes on to the type behind a reference. -/
  | follow {home home' : Registry} {target : TypeRef} {named : NamedType}
      (h : Leads registry schema home (.reference target))
      (hlookup : home.lookup target = some (named, home')) :
      Leads registry schema home' named.schema

/-- All references that one comes to are found. -/
def Registry.FindsAll (registry : Registry) (schema : Schema) : Prop :=
  ∀ home target, registry.Leads schema home (.reference target) → (home.lookup target).isSome

namespace Registry

variable {registry home home' : Registry} {schema schema' part : Schema} {target : TypeRef}
  {named : NamedType}

theorem Leads.trans (h : registry.Leads schema home schema')
    (h' : home.Leads schema' home' part) : registry.Leads schema home' part := by
  induction h' with
  | here => exact h
  | part _ hpart ih => exact .part ih hpart
  | follow _ hlookup ih => exact .follow ih hlookup

theorem FindsAll.of_leads (h : registry.FindsAll schema)
    (hleads : registry.Leads schema home schema') :
    home.FindsAll schema' :=
  fun home' target h' => h home' target (hleads.trans h')

theorem FindsAll.of_isPart (h : registry.FindsAll schema) (hpart : Schema.IsPart part schema) :
    registry.FindsAll part :=
  h.of_leads (.part .here hpart)

theorem FindsAll.of_lookup (h : registry.FindsAll (.reference target))
    (hlookup : registry.lookup target = some (named, home)) : home.FindsAll named.schema :=
  h.of_leads (.follow .here hlookup)

/-- Where a reference is found in either of two registries that are alike, the same type is found, at
home in registries that are alike again. -/
def FindsAlike (like : Registry → Registry → Prop) : Prop :=
  ∀ ⦃registry other target named named' home home'⦄, like registry other →
    registry.lookup target = some (named, home) → other.lookup target = some (named', home') →
    named = named' ∧ like home home'

theorem findsAlike_eq : FindsAlike Eq := by
  rintro registry _ target named named' home home' rfl hlookup hlookup'
  exact Prod.mk.inj (Option.some.inj (hlookup.symm.trans hlookup'))

end Registry

/-! ## Checks that agree on parts -/

section Agree

variable {check check' : Schema → Value → Checked}

theorem checkFields_congr {members : Members} {fields : List Field}
    (h : ∀ field ∈ fields, check field.schema = check' field.schema) :
    checkFields check members fields = checkFields check' members fields := by
  induction fields with
  | nil => rfl
  | cons field rest ih =>
    obtain ⟨name, schema, required⟩ := field
    have hhead : check schema = check' schema := h _ (List.mem_cons_self ..)
    have hrest := ih fun field hfield => h field (List.mem_cons_of_mem _ hfield)
    unfold checkFields
    rw [hhead, hrest]

theorem checkPositions_congr {index : Nat} {schemas : List Schema} {values : List Value}
    (h : ∀ schema ∈ schemas, check schema = check' schema) :
    checkPositions check index schemas values = checkPositions check' index schemas values := by
  induction schemas generalizing index values with
  | nil => cases values <;> rfl
  | cons schema rest ih =>
    cases values with
    | nil => rfl
    | cons value values =>
      have hhead : check schema = check' schema := h _ (List.mem_cons_self ..)
      rw [checkPositions, checkPositions, hhead,
        ih fun schema hschema => h schema (List.mem_cons_of_mem _ hschema)]

theorem firstAccepting_congr {accepts accepts' : Schema → Checked} {index : Nat}
    {alternatives : List Schema} (h : ∀ schema ∈ alternatives, accepts schema = accepts' schema) :
    firstAccepting accepts index alternatives = firstAccepting accepts' index alternatives := by
  induction alternatives generalizing index with
  | nil => rfl
  | cons schema rest ih =>
    rw [firstAccepting, firstAccepting, h _ (List.mem_cons_self ..),
      ih fun schema hschema => h schema (List.mem_cons_of_mem _ hschema)]

end Agree

/-! ## Another answer -/

/-- The walk with a given answer for types that the registry does not have. -/
def walkAnswering (answer : TypeRef → Checked) (maxDepth : Nat) :
    (levels : Nat) → Schema → Registry → Value → Checked
  | 0, _, _, _ => .error (tooDeep maxDepth)
  | levels + 1, schema, registry, value =>
    let inside := fun schema value => walkAnswering answer maxDepth levels schema registry value
    match schema with
    | .const expected =>
      if expected.equivalent value then .ok ()
      else .error (.here ("expected constant " ++ expected.text))
    | .enum values =>
      if values.any fun candidate => candidate.equivalent value then .ok ()
      else
        .error (.here (value.text ++ " is not one of [" ++
          Text.join ", " (values.map Value.text) ++ "]"))
    | .primitive p => checkPrimitive p value
    | .object fields closed =>
      match value with
      | .object members => do
        checkFields inside members fields
        if closed then checkClosed fields members
      | value => .error (mismatch "object" value)
    | .tuple schemas =>
      match value with
      | .array items =>
        if items.length ≠ schemas.length then
          .error (.here ("expected " ++ toString schemas.length ++ " elements, found " ++
            toString items.length))
        else checkPositions inside 0 schemas items
      | value => .error (mismatch "array" value)
    | .array schema minItems maxItems =>
      match value with
      | .array items => do
        checkCount minItems maxItems items.length
        checkItems (inside schema) 0 items
      | value => .error (mismatch "array" value)
    | .union alternatives =>
      match firstAccepting (fun alternative => inside alternative value) 0 alternatives with
      | .ok _ => .ok ()
      | .error reasons => .error (noAlternative alternatives reasons)
    | .reference target =>
      match registry.lookup target with
      | some (named, home) => walkAnswering answer maxDepth levels named.schema home value
      | none => answer target
    | .anything => .ok ()

/-- The choice of an alternative with a given answer for types that the registry does not have. -/
def selectAnswering (answer : TypeRef → Checked) (maxDepth : Nat) (value : Value) :
    (rounds : Nat) → Schema → Registry → Except Violation (Option Nat)
  | 0, _, _ => .error (tooDeep maxDepth)
  | rounds + 1, schema, registry =>
    let afresh := fun schema => walkAnswering answer maxDepth (maxDepth + 1) schema registry value
    match schema with
    | .reference target =>
      match registry.lookup target with
      | some (named, home) => selectAnswering answer maxDepth value rounds named.schema home
      | none => (answer target).map fun () => none
    | .union alternatives =>
      match firstAccepting afresh 0 alternatives with
      | .ok index => .ok (some index)
      | .error reasons => .error (noAlternative alternatives reasons)
    | schema => (afresh schema).map fun () => none

section Answers

variable {answer : TypeRef → Checked} {maxDepth levels rounds : Nat} {schema : Schema}
  {registry : Registry} {value : Value}

/-- The walk answers with a violation. -/
theorem walkAnswering_unknownType :
    walkAnswering (fun target => .error (unknownType target)) maxDepth levels schema registry value =
      walk maxDepth levels schema registry value := by
  induction levels generalizing schema registry value with
  | zero => rfl
  | succ levels ih =>
    have hinside : walkAnswering (fun target => .error (unknownType target)) maxDepth levels =
        walk maxDepth levels := by
      funext schema registry value
      exact ih
    unfold walkAnswering walk
    exact hinside ▸ rfl

/-- Two walks agree if they find the same types and all of them, whatever their answers are. -/
theorem walkAnswering_congr {answer' : TypeRef → Checked} {other : Registry}
    {like : Registry → Registry → Prop} (hlike : Registry.FindsAlike like)
    (hother : like registry other) (h : registry.FindsAll schema) (h' : other.FindsAll schema) :
    walkAnswering answer maxDepth levels schema registry value =
      walkAnswering answer' maxDepth levels schema other value := by
  induction levels generalizing schema registry other value with
  | zero => rfl
  | succ levels ih =>
    have hpart : ∀ part, Schema.IsPart part schema →
        walkAnswering answer maxDepth levels part registry =
          walkAnswering answer' maxDepth levels part other :=
      fun part hpart => funext fun value => ih hother (h.of_isPart hpart) (h'.of_isPart hpart)
    cases schema with
    | const | enum | primitive | anything => rfl
    | object fields closed =>
      cases value with
      | object members =>
        have hfields : checkFields (fun schema value =>
              walkAnswering answer maxDepth levels schema registry value) members fields =
            checkFields (fun schema value =>
              walkAnswering answer' maxDepth levels schema other value) members fields :=
          checkFields_congr fun field hfield => hpart field.schema (.field hfield)
        unfold walkAnswering
        dsimp only
        rw [hfields]
      | null | bool | number | string | array => rfl
    | tuple schemas =>
      cases value with
      | array items =>
        have hitems : checkPositions (fun schema value =>
              walkAnswering answer maxDepth levels schema registry value) 0 schemas items =
            checkPositions (fun schema value =>
              walkAnswering answer' maxDepth levels schema other value) 0 schemas items :=
          checkPositions_congr fun schema hschema => hpart schema (.position hschema)
        unfold walkAnswering
        dsimp only
        rw [hitems]
      | null | bool | number | string | object => rfl
    | array item minItems maxItems =>
      cases value with
      | array items =>
        unfold walkAnswering
        dsimp only
        rw [hpart item .item]
      | null | bool | number | string | object => rfl
    | union alternatives =>
      unfold walkAnswering
      dsimp only
      rw [firstAccepting_congr fun schema hschema =>
        congrFun (hpart schema (.alternative hschema)) value]
    | reference target =>
      obtain ⟨⟨named, home⟩, hlookup⟩ := Option.isSome_iff_exists.1 (h _ _ .here)
      obtain ⟨⟨named', home'⟩, hlookup'⟩ := Option.isSome_iff_exists.1 (h' _ _ .here)
      -- The walks go on from the same type, over registries that are alike again.
      obtain ⟨rfl, hhome⟩ := hlike hother hlookup hlookup'
      unfold walkAnswering
      dsimp only
      rw [hlookup, hlookup']
      exact ih hhome (h.of_lookup hlookup) (h'.of_lookup hlookup')

/-- The answer does not matter if all references are found. -/
theorem walkAnswering_eq_walk (h : registry.FindsAll schema) :
    walkAnswering answer maxDepth levels schema registry value =
      walk maxDepth levels schema registry value := by
  rw [← walkAnswering_unknownType]
  exact walkAnswering_congr Registry.findsAlike_eq rfl h h

/-- Checks agree over registries in which the same types are found. -/
theorem walk_congr {other : Registry} {like : Registry → Registry → Prop}
    (hlike : Registry.FindsAlike like) (hother : like registry other) (h : registry.FindsAll schema)
    (h' : other.FindsAll schema) :
    walk maxDepth levels schema registry value = walk maxDepth levels schema other value := by
  rw [← walkAnswering_unknownType, ← walkAnswering_unknownType]
  exact walkAnswering_congr hlike hother h h'

/-- The search of the validator answers that a type which is not found is unknown. -/
theorem selectAnswering_unknownType :
    selectAnswering (fun target => .error (unknownType target)) maxDepth value rounds schema
        registry = Validator.selectFrom maxDepth value rounds schema registry := by
  induction rounds generalizing schema registry with
  | zero => rfl
  | succ rounds ih =>
    cases schema with
    | reference target =>
      unfold selectAnswering Validator.selectFrom
      dsimp only
      cases registry.lookup target with
      | none => rfl
      | some found => exact ih
    | union alternatives =>
      have hwalk : (fun schema => walkAnswering (fun target => .error (unknownType target)) maxDepth
          (maxDepth + 1) schema registry value) =
            fun schema => walk maxDepth (maxDepth + 1) schema registry value :=
        funext fun _ => walkAnswering_unknownType
      unfold selectAnswering Validator.selectFrom
      exact hwalk ▸ rfl
    | const | enum | primitive | object | tuple | array | anything =>
      simp only [selectAnswering, Validator.selectFrom, walkAnswering_unknownType]

theorem selectAnswering_eq_selectFrom (h : registry.FindsAll schema) :
    selectAnswering answer maxDepth value rounds schema registry =
      Validator.selectFrom maxDepth value rounds schema registry := by
  induction rounds generalizing schema registry with
  | zero => rfl
  | succ rounds ih =>
    cases schema with
    | reference target =>
      obtain ⟨⟨named, home⟩, hlookup⟩ := Option.isSome_iff_exists.1 (h _ _ .here)
      unfold selectAnswering Validator.selectFrom
      dsimp only
      rw [hlookup]
      exact ih (h.of_lookup hlookup)
    | union alternatives =>
      have hsame : firstAccepting (fun schema =>
          walkAnswering answer maxDepth (maxDepth + 1) schema registry value) 0 alternatives =
            firstAccepting (fun schema => walk maxDepth (maxDepth + 1) schema registry value) 0
              alternatives :=
        firstAccepting_congr fun schema hschema =>
          walkAnswering_eq_walk (h.of_isPart (.alternative hschema))
      unfold selectAnswering Validator.selectFrom
      dsimp only
      exact hsame ▸ rfl
    | const | enum | primitive | object | tuple | array | anything =>
      simp only [selectAnswering, Validator.selectFrom, walkAnswering_eq_walk h]

end Answers

end ServiceContract
