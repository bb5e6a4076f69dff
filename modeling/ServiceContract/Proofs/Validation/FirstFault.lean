import ServiceContract.Contract
import ServiceContract.Proofs.Validation.Depth
import ServiceContract.Proofs.Validation.Violations

/-!
# The first fault

A check stops at the first place that is refused. The path of its violation leads there through the
objects and arrays of the value, and all that was checked before it on the way was accepted: the fields
that are declared before, the items that stand before. References add nothing to a path, and a union
ends it, since no alternative is to blame more than another. The arguments of a function are checked in
the same way, one after the other.
-/

namespace ServiceContract

open Json (Value Members)

/-- A schema that is entered at some depth refuses a value as it stands, whatever is in its parts. -/
inductive RefusedHere (maxDepth depth : Nat) (registry : Registry) :
    Schema → Value → Violation → Prop where
  /-- The limit is passed. -/
  | tooDeep {schema : Schema} {value : Value} (h : maxDepth < depth) :
      RefusedHere maxDepth depth registry schema value (tooDeep maxDepth)
  /-- The value is not the constant. -/
  | const {expected value : Value} (h : ¬ Value.EqualTo expected value) :
      RefusedHere maxDepth depth registry (.const expected) value
        (.here ("expected constant " ++ expected.text))
  /-- The value is none of those listed. -/
  | enum {values : List Value} {value : Value}
      (h : ∀ candidate ∈ values, ¬ Value.EqualTo candidate value) :
      RefusedHere maxDepth depth registry (.enum values) value
        (.here (value.text ++ " is not one of [" ++ Text.join ", " (values.map Value.text) ++ "]"))
  /-- The value is not of the kind or breaks a condition. -/
  | primitive {p : Primitive} {value : Value} {violation : Violation}
      (h : checkPrimitive p value = .error violation) :
      RefusedHere maxDepth depth registry (.primitive p) value violation
  /-- An object is expected. -/
  | object {fields : List Field} {closed : Bool} {value : Value}
      (h : ∀ members, value ≠ .object members) :
      RefusedHere maxDepth depth registry (.object fields closed) value (mismatch "object" value)
  /-- An array with positions is expected. -/
  | tuple {schemas : List Schema} {value : Value} (h : ∀ items, value ≠ .array items) :
      RefusedHere maxDepth depth registry (.tuple schemas) value (mismatch "array" value)
  /-- There are not as many items as positions. -/
  | length {schemas : List Schema} {items : List Value} (h : items.length ≠ schemas.length) :
      RefusedHere maxDepth depth registry (.tuple schemas) (.array items)
        (.here ("expected " ++ toString schemas.length ++ " elements, found " ++
          toString items.length))
  /-- An array of any length is expected. -/
  | array {schema : Schema} {minItems maxItems : Option Nat} {value : Value}
      (h : ∀ items, value ≠ .array items) :
      RefusedHere maxDepth depth registry (.array schema minItems maxItems) value
        (mismatch "array" value)
  /-- There are too few items or too many. -/
  | count {schema : Schema} {minItems maxItems : Option Nat} {items : List Value}
      {violation : Violation} (h : checkCount minItems maxItems items.length = .error violation) :
      RefusedHere maxDepth depth registry (.array schema minItems maxItems) (.array items) violation
  /-- No alternative accepts the value. -/
  | union {alternatives : List Schema} {value : Value} {reasons : List Violation}
      (h : ∀ schema ∈ alternatives, ¬ AcceptsAt maxDepth (depth + 1) schema registry value) :
      RefusedHere maxDepth depth registry (.union alternatives) value
        (noAlternative alternatives reasons)
  /-- There is no such type. -/
  | reference {target : TypeRef} {value : Value} (h : registry.lookup target = none) :
      RefusedHere maxDepth depth registry (.reference target) value (unknownType target)

/-- A schema that is entered at some depth refuses a value with a violation of the first part that is
refused: what was checked before it on the way was accepted. -/
inductive FirstFault (maxDepth : Nat) :
    (depth : Nat) → Schema → Registry → Value → Violation → Prop where
  /-- The value is refused as it stands. -/
  | here {depth : Nat} {schema : Schema} {registry : Registry} {value : Value}
      {violation : Violation} (h : RefusedHere maxDepth depth registry schema value violation) :
      FirstFault maxDepth depth schema registry value violation
  /-- A required field is missing. -/
  | missing {depth index : Nat} {fields : List Field} {closed : Bool} {registry : Registry}
      {members : Members} {field : Field} (hfield : fields[index]? = some field)
      (hbefore : ∀ earlier ∈ fields.take index,
        earlier.Passes (AcceptsAt maxDepth (depth + 1) · registry) members)
      (hrequired : field.required = true) (hmissing : members.lookup field.name = none) :
      FirstFault maxDepth depth (.object fields closed) registry (.object members)
        ⟨[.field field.name], "required field is missing"⟩
  /-- The fault is in a field. -/
  | field {depth index : Nat} {fields : List Field} {closed : Bool} {registry : Registry}
      {members : Members} {field : Field} {value : Value} {inner : Violation}
      (hfield : fields[index]? = some field)
      (hbefore : ∀ earlier ∈ fields.take index,
        earlier.Passes (AcceptsAt maxDepth (depth + 1) · registry) members)
      (hvalue : members.lookup field.name = some value)
      (h : FirstFault maxDepth (depth + 1) field.schema registry value inner) :
      FirstFault maxDepth depth (.object fields closed) registry (.object members)
        (inner.within (.field field.name))
  /-- All fields are in order, but there is a member that is not declared. -/
  | undeclared {depth : Nat} {fields : List Field} {registry : Registry} {members : Members}
      {key : String} {value : Value}
      (hfields : ∀ field ∈ fields,
        field.Passes (AcceptsAt maxDepth (depth + 1) · registry) members)
      (hvalue : members.lookup key = some value) (hkey : ∀ field ∈ fields, field.name ≠ key) :
      FirstFault maxDepth depth (.object fields true) registry (.object members)
        ⟨[.field key], "field is not allowed"⟩
  /-- The fault is in the item at a position. -/
  | position {depth index : Nat} {schemas : List Schema} {registry : Registry}
      {items : List Value} {schema : Schema} {item : Value} {inner : Violation}
      (hlength : items.length = schemas.length)
      (hitem : (schemas.zip items)[index]? = some (schema, item))
      (hbefore : ∀ earlier ∈ (schemas.zip items).take index,
        AcceptsAt maxDepth (depth + 1) earlier.1 registry earlier.2)
      (h : FirstFault maxDepth (depth + 1) schema registry item inner) :
      FirstFault maxDepth depth (.tuple schemas) registry (.array items) (inner.within (.index index))
  /-- The fault is in an item. -/
  | item {depth index : Nat} {schema : Schema} {minItems maxItems : Option Nat}
      {registry : Registry} {items : List Value} {item : Value} {inner : Violation}
      (hitem : items[index]? = some item)
      (hbefore : ∀ earlier ∈ items.take index, AcceptsAt maxDepth (depth + 1) schema registry earlier)
      (h : FirstFault maxDepth (depth + 1) schema registry item inner) :
      FirstFault maxDepth depth (.array schema minItems maxItems) registry (.array items)
        (inner.within (.index index))
  /-- The type behind a reference refuses the value. -/
  | reference {depth : Nat} {target : TypeRef} {registry home : Registry} {named : NamedType}
      {value : Value} {violation : Violation}
      (hlookup : registry.lookup target = some (named, home))
      (h : FirstFault maxDepth (depth + 1) named.schema home value violation) :
      FirstFault maxDepth depth (.reference target) registry value violation

section FirstFault

variable {maxDepth depth levels : Nat} {schema : Schema} {registry : Registry} {value : Value}
  {violation : Violation}

theorem RefusedHere.isAtRoot (h : RefusedHere maxDepth depth registry schema value violation) :
    violation.IsAtRoot := by
  cases h with
  | tooDeep => exact Violation.isAtRoot_tooDeep
  | const =>
    apply Violation.isAtRoot_here
    simp
  | enum =>
    apply Violation.isAtRoot_here
    simp
  | primitive h => exact RefusesAtRoot.checkPrimitive violation h
  | object => exact Violation.isAtRoot_mismatch
  | tuple => exact Violation.isAtRoot_mismatch
  | length =>
    apply Violation.isAtRoot_here
    simp
  | array => exact Violation.isAtRoot_mismatch
  | count h => exact RefusesAtRoot.checkCount violation h
  | union => exact Violation.isAtRoot_noAlternative
  | reference =>
    apply Violation.isAtRoot_here
    simp

/-- A violation of the first fault leads to it. -/
theorem FirstFault.pointsInto (h : FirstFault maxDepth depth schema registry value violation) :
    violation.PointsInto value := by
  induction h with
  | here h => exact h.isAtRoot.pointsInto
  | @missing depth index fields closed registry members field _ _ _ hmissing =>
    constructor
    · intro hreason
      exact absurd rfl hreason
    · intro _
      exact ⟨[], field.name, members, rfl, rfl, hmissing⟩
  | field _ _ hvalue _ ih =>
    apply ih.within
    intro path
    rw [Value.follow?, hvalue]
    rfl
  | @undeclared depth fields registry members key value _ hvalue _ =>
    constructor
    · intro _
      refine ⟨value, ?_⟩
      rw [Value.follow?, hvalue]
      rfl
    · intro hreason
      have hwording : "field is not allowed" ≠ "required field is missing" := by decide
      exact absurd hreason hwording
  | position _ hitem _ _ ih =>
    apply ih.within
    intro path
    rw [Value.follow?, (List.getElem?_zip_eq_some.1 hitem).2]
    rfl
  | item hitem _ _ ih =>
    apply ih.within
    intro path
    rw [Value.follow?, hitem]
    rfl
  | reference _ _ ih => exact ih

/-- No alternative is accepted if all of them lead to violations. -/
theorem firstAccepting_error {check : Schema → Checked} {start : Nat} {alternatives : List Schema}
    {reasons : List Violation} (h : firstAccepting check start alternatives = .error reasons) :
    ∀ schema ∈ alternatives, ¬ check schema = .ok () := by
  intro schema hmem haccepted
  obtain ⟨position, hposition⟩ := firstAccepting_ok_iff.2 ⟨schema, hmem, haccepted⟩
  cases h.symm.trans hposition

section Inside

variable {check : Schema → Value → Checked}
  (haccepts : ∀ {schema value}, check schema value = .ok () →
    AcceptsAt maxDepth (depth + 1) schema registry value)
  (hfaults : ∀ {schema value violation}, check schema value = .error violation →
    FirstFault maxDepth (depth + 1) schema registry value violation)

include haccepts

theorem Field.Passes.acceptsAt {field : Field} {members : Members}
    (h : field.Passes (fun schema value => check schema value = .ok ()) members) :
    field.Passes (AcceptsAt maxDepth (depth + 1) · registry) members :=
  ⟨h.present, fun value hvalue => haccepts (h.accepted value hvalue)⟩

include hfaults

/-- Fields are checked in order. -/
theorem firstFault_of_checkFields {fields : List Field} {closed : Bool} {members : Members}
    (h : checkFields check members fields = .error violation) :
    FirstFault maxDepth depth (.object fields closed) registry (.object members) violation := by
  obtain ⟨index, field, hfield, hbefore, hfault⟩ := checkFields_error h
  have hpasses : ∀ earlier ∈ fields.take index,
      earlier.Passes (AcceptsAt maxDepth (depth + 1) · registry) members :=
    fun earlier hearlier => (hbefore earlier hearlier).acceptsAt haccepts
  cases hfault with
  | missing hrequired hmissing => exact .missing hfield hpasses hrequired hmissing
  | refused hvalue hinner => exact .field hfield hpasses hvalue (hfaults hinner)

omit hfaults in
/-- Members that are not declared count only when all fields pass. -/
theorem firstFault_of_checkClosed {fields : List Field} {members : Members}
    (hfields : checkFields check members fields = .ok ())
    (h : checkClosed fields members = .error violation) :
    FirstFault maxDepth depth (.object fields true) registry (.object members) violation := by
  obtain ⟨hpresent, haccepted⟩ := checkFields_ok_iff.1 hfields
  obtain ⟨key, value, hvalue, hkey, rfl⟩ := checkClosed_error h
  refine .undeclared (fun field hfield => ?_) hvalue hkey
  have hpasses : field.Passes (fun schema value => check schema value = .ok ()) members :=
    ⟨hpresent field hfield, haccepted field hfield⟩
  exact hpasses.acceptsAt haccepts

theorem firstFault_of_checkPositions {schemas : List Schema} {items : List Value}
    (hlength : items.length = schemas.length)
    (h : checkPositions check 0 schemas items = .error violation) :
    FirstFault maxDepth depth (.tuple schemas) registry (.array items) violation := by
  obtain ⟨index, schema, item, inner, hitem, hbefore, hinner, rfl⟩ := checkPositions_error h
  rw [Nat.zero_add]
  refine .position hlength hitem (fun earlier hearlier => ?_) (hfaults hinner)
  exact haccepts (hbefore earlier hearlier)

theorem firstFault_of_checkItems {minItems maxItems : Option Nat} {items : List Value}
    (h : checkItems (check schema) 0 items = .error violation) :
    FirstFault maxDepth depth (.array schema minItems maxItems) registry (.array items) violation := by
  obtain ⟨index, item, hitem, hbefore, inner, hinner, rfl⟩ := checkItems_error h
  rw [Nat.zero_add]
  refine .item hitem (fun earlier hearlier => ?_) (hfaults hinner)
  exact haccepts (hbefore earlier hearlier)

end Inside

/-- A walk stops at the first fault. -/
theorem firstFault_of_walk (hlevels : depth + levels = maxDepth + 1)
    (h : walk maxDepth levels schema registry value = .error violation) :
    FirstFault maxDepth depth schema registry value violation := by
  induction levels generalizing depth schema registry value violation with
  | zero =>
    rw [walk_no_levels] at h
    cases h
    exact .here (.tooDeep (by omega))
  | succ levels ih =>
    have hinside : depth + 1 + levels = maxDepth + 1 := by omega
    have haccepts : ∀ {schema value}, walk maxDepth levels schema registry value = .ok () →
        AcceptsAt maxDepth (depth + 1) schema registry value := (acceptsAt_of_levels hinside).2
    have hfaults : ∀ {schema value violation},
        walk maxDepth levels schema registry value = .error violation →
          FirstFault maxDepth (depth + 1) schema registry value violation := ih hinside
    unfold walk at h
    cases schema with
    | const expected =>
      dsimp only at h
      split at h
      · cases h
      · next hequal =>
        cases h
        exact .here (.const fun heq => hequal (Value.equivalent_iff.2 heq))
    | enum values =>
      dsimp only at h
      split at h
      · cases h
      · next hequal =>
        cases h
        refine .here (.enum fun candidate hmem heq => hequal ?_)
        exact List.any_eq_true.2 ⟨candidate, hmem, Value.equivalent_iff.2 heq⟩
    | primitive p => exact .here (.primitive h)
    | object fields closed =>
      cases value with
      | object members =>
        dsimp only at h
        cases hfields : checkFields
            (fun schema value => walk maxDepth levels schema registry value) members fields with
        | error fault =>
          rw [hfields] at h
          cases h
          exact firstFault_of_checkFields haccepts hfaults hfields
        | ok _ =>
          rw [hfields] at h
          cases closed with
          | false => cases h
          | true => exact firstFault_of_checkClosed haccepts hfields h
      | null | bool | number | string | array =>
        cases h
        exact .here (.object fun _ hother => by cases hother)
    | tuple schemas =>
      cases value with
      | array items =>
        dsimp only at h
        split at h
        · next hlength =>
          cases h
          exact .here (.length hlength)
        · next hlength => exact firstFault_of_checkPositions haccepts hfaults (not_not.1 hlength) h
      | null | bool | number | string | object =>
        cases h
        exact .here (.tuple fun _ hother => by cases hother)
    | array schema minItems maxItems =>
      cases value with
      | array items =>
        dsimp only at h
        cases hcount : checkCount minItems maxItems items.length with
        | error fault =>
          rw [hcount] at h
          cases h
          exact .here (.count hcount)
        | ok _ =>
          rw [hcount] at h
          exact firstFault_of_checkItems haccepts hfaults h
      | null | bool | number | string | object =>
        cases h
        exact .here (.array fun _ hother => by cases hother)
    | union alternatives =>
      dsimp only at h
      split at h
      · cases h
      · next reasons hreasons =>
        cases h
        refine .here (.union fun schema hmem hschema => ?_)
        exact firstAccepting_error hreasons schema hmem ((acceptsAt_of_levels hinside).1 hschema)
    | reference target =>
      dsimp only at h
      split at h
      · next named home hlookup => exact .reference hlookup (ih hinside h)
      · next hlookup =>
        cases h
        exact .here (.reference hlookup)
    | anything => cases h

end FirstFault

/-! ## Arguments -/

namespace FunctionContract

variable {arguments : Members} {violation : Violation}

theorem checkEach_cons_error {check : String × Validator} {rest : List (String × Validator)}
    (h : checkEach arguments (check :: rest) = .error (.validation violation)) :
    (∃ value inner, arguments.lookup check.1 = some value ∧ check.2.check value = .error inner ∧
        violation = inner.within (.field check.1)) ∨
      (∀ value, arguments.lookup check.1 = some value → check.2.check value = .ok ()) ∧
        checkEach arguments rest = .error (.validation violation) := by
  obtain ⟨name, validator⟩ := check
  rw [checkEach] at h
  cases hlookup : arguments.lookup name with
  | none =>
    rw [hlookup] at h
    exact .inr ⟨nofun, h⟩
  | some value =>
    rw [hlookup] at h
    cases hcheck : validator.check value with
    | error inner =>
      simp only [hcheck, Except.mapError, bind, Except.bind] at h
      cases h
      exact .inl ⟨value, inner, rfl, hcheck, rfl⟩
    | ok _ =>
      simp only [hcheck, Except.mapError, bind, Except.bind] at h
      refine .inr ⟨?_, h⟩
      rintro _ ⟨⟩
      exact hcheck

/-- Arguments are refused for the first one that is not accepted. -/
theorem checkEach_first {checks : List (String × Validator)}
    (h : checkEach arguments checks = .error (.validation violation)) :
    ∃ (index : Nat) (check : String × Validator), checks[index]? = some check ∧
      (∀ earlier ∈ checks.take index, ∀ value, arguments.lookup earlier.1 = some value →
        earlier.2.check value = .ok ()) ∧
      ∃ value inner, arguments.lookup check.1 = some value ∧ check.2.check value = .error inner ∧
        violation = inner.within (.field check.1) := by
  have hnil : ∀ _ : Nat, ¬ checkEach arguments [] = .error (.validation violation) := by
    intro _ h
    cases h
  exact exists_first (P := fun _ rest => checkEach arguments rest = .error (.validation violation))
    hnil (fun _ _ _ => checkEach_cons_error) 0 h

/-- Where the values of arguments are refused, all declared arguments are there. -/
theorem checkEach_of_checkArguments {function : FunctionContract}
    (h : function.checkArguments arguments = .error (.validation violation)) :
    checkEach arguments function.arguments = .error (.validation violation) ∧
      ∀ check ∈ function.arguments, ∃ value, arguments.lookup check.1 = some value := by
  unfold checkArguments at h
  split at h
  · cases h
  · split at h
    · next hnone =>
      refine ⟨h, ?_⟩
      intro check hcheck
      have hname : check.1 ∈ function.argumentNames := List.mem_map_of_mem hcheck
      have hthere := List.filter_eq_nil_iff.1 hnone check.1 hname
      rw [Option.isNone_iff_eq_none] at hthere
      exact Option.ne_none_iff_exists'.1 hthere
    · cases h

end FunctionContract

/-! ## What a violation says -/

theorem firstFault_of_check {validator : Validator} {value : Value} {violation : Violation}
    (h : validator.check value = .error violation) :
    FirstFault validator.maxDepth 0 validator.schema validator.registry value violation :=
  firstFault_of_walk (Nat.zero_add _) h

/-- A violation is that of the first fault and leads into the value that was checked. For the arguments
of a function it goes through the first argument that is refused, and all that are declared before it
were accepted. -/
theorem violations_locate_first_fault :
    (∀ (validator : Validator) (value : Value) (violation : Violation),
      validator.check value = .error violation →
        FirstFault validator.maxDepth 0 validator.schema validator.registry value violation ∧
          violation.PointsInto value) ∧
    ∀ (function : FunctionContract) (arguments : Members) (violation : Violation),
      function.checkArguments arguments = .error (.validation violation) →
        ∃ index name validator value inner,
          function.arguments[index]? = some (name, validator) ∧
          (∀ earlier ∈ function.arguments.take index, ∃ value,
            arguments.lookup earlier.1 = some value ∧ earlier.2.check value = .ok ()) ∧
          arguments.lookup name = some value ∧ violation = inner.within (.field name) ∧
          FirstFault validator.maxDepth 0 validator.schema validator.registry value inner ∧
          inner.PointsInto value := by
  constructor
  · intro validator value violation h
    have hfault := firstFault_of_check h
    exact ⟨hfault, hfault.pointsInto⟩
  · intro function arguments violation h
    obtain ⟨heach, hthere⟩ := FunctionContract.checkEach_of_checkArguments h
    obtain ⟨index, ⟨name, validator⟩, hget, hbefore, value, inner, hvalue, hcheck, rfl⟩ :=
      FunctionContract.checkEach_first heach
    have hfault := firstFault_of_check hcheck
    refine ⟨index, name, validator, value, inner, hget, ?_, hvalue, rfl, hfault, hfault.pointsInto⟩
    intro earlier hearlier
    obtain ⟨found, hfound⟩ := hthere earlier (List.mem_of_mem_take hearlier)
    exact ⟨found, hfound, hbefore earlier hearlier found hfound⟩

namespace Sample

/-- A type of boards, with rows of whole numbers. -/
def boards : Registry :=
  ⟨[⟨"board", "A sample.", .object
    [⟨"owner", .primitive { kind := .string }, false⟩,
      ⟨"rows", .array (.array (.primitive { kind := .integer }) none none) none none, true⟩] true⟩], []⟩

/-- A function that takes a number and a board. -/
def placing : FunctionContract :=
  ⟨"place", [("value", ⟨.primitive { kind := .integer }, boards, defaultMaxDepth⟩),
    ("board", ⟨.reference (.inside "board"), boards, defaultMaxDepth⟩)], none⟩

/-- A board with a text in the second place of its only row. -/
def misplaced : Value :=
  .object [("rows", .array [.array [.number (.ofNat 1), .string "x"]])]

end Sample

/-- The text in the row is found, by a path through the argument, its field and two arrays. -/
theorem violations_locate_first_fault_misplaced :
    Sample.placing.checkArguments [("value", .number (.ofNat 1)), ("board", Sample.misplaced)] =
      .error (.validation ⟨[.field "board", .field "rows", .index 0, .index 1],
        "expected integer, found string"⟩) ∧
    ∃ inner : Violation, inner.path = [.field "rows", .index 0, .index 1] ∧
      FirstFault defaultMaxDepth 0 (.reference (.inside "board")) Sample.boards Sample.misplaced inner ∧
      inner.PointsInto Sample.misplaced := by
  have hchecked : Sample.placing.checkArguments
      [("value", .number (.ofNat 1)), ("board", Sample.misplaced)] =
        .error (.validation ⟨[.field "board", .field "rows", .index 0, .index 1],
          "expected integer, found string"⟩) := by rfl
  have hchecked' : Validator.check ⟨.reference (.inside "board"), Sample.boards, defaultMaxDepth⟩
      Sample.misplaced = .error ⟨[.field "rows", .index 0, .index 1],
        "expected integer, found string"⟩ := by rfl
  obtain ⟨hfault, hpoints⟩ := violations_locate_first_fault.1 _ _ _ hchecked'
  exact ⟨hchecked, _, rfl, hfault, hpoints⟩

end ServiceContract
