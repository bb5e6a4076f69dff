import Mathlib.Tactic.MkIffOfInductiveProp
import ServiceContract.Proofs.Validation.Equality
import ServiceContract.Validation

/-!
# Conformance

What it means that a value conforms to a schema, as a relation with one rule per form of schema. A
derivation says at which depth each schema is entered: the root at a given depth, the parts of an
object, a tuple or an array, the alternatives of a union and the types behind references one level
further down. `check_ok_iff_conforms` says that a validator accepts exactly the values with a
derivation that stays within its depth.
-/

namespace ServiceContract

open Json (Number Value Members)

/-! ## Primitives -/

namespace Primitive

/-- A number within the bounds. -/
@[mk_iff]
structure AllowsNumber (p : Primitive) (n : Number) : Prop where
  /-- It is not less than the minimum. -/
  minimum : ∀ b, p.minimum = some b → ¬ n.LessThan b
  /-- It is not greater than the maximum. -/
  maximum : ∀ b, p.maximum = some b → ¬ b.LessThan n
  /-- It is greater than the exclusive minimum. -/
  exclusiveMinimum : ∀ b, p.exclusiveMinimum = some b → b.LessThan n
  /-- It is less than the exclusive maximum. -/
  exclusiveMaximum : ∀ b, p.exclusiveMaximum = some b → n.LessThan b

/-- A text of a fitting length, in characters, that the pattern is found in. -/
@[mk_iff]
structure AllowsText (p : Primitive) (text : String) : Prop where
  /-- It is long enough. -/
  minLength : ∀ least, p.minLength = some least → least ≤ text.length
  /-- It is not too long. -/
  maxLength : ∀ most, p.maxLength = some most → text.length ≤ most
  /-- It matches the pattern. -/
  pattern : ∀ q, p.pattern = some q → q.accepts text = true

/-- A value of the kind that meets the conditions. -/
inductive Allows (p : Primitive) : Value → Prop where
  /-- The null value. -/
  | null (hkind : p.kind = .null) : Allows p .null
  /-- A truth value. -/
  | boolean (hkind : p.kind = .boolean) (b : Bool) : Allows p (.bool b)
  /-- A number without fractional part. -/
  | integer (hkind : p.kind = .integer) {n : Number} (hwhole : n.IsWhole)
      (hn : p.AllowsNumber n) : Allows p (.number n)
  /-- Any number. -/
  | number (hkind : p.kind = .number) {n : Number} (hn : p.AllowsNumber n) : Allows p (.number n)
  /-- A text. -/
  | string (hkind : p.kind = .string) {text : String} (htext : p.AllowsText text) :
      Allows p (.string text)

end Primitive

/-- A condition that is refused when broken, before further checks. -/
theorem refused_ok_iff {broken : Prop} [Decidable broken] {fault : Violation}
    {after : Unit → Checked} {rest : Checked} :
    (if broken then (do let r ← throw fault; after r) else rest) = .ok () ↔
      ¬ broken ∧ rest = .ok () := by
  by_cases h : broken
  · simp [h, throw, throwThe, MonadExceptOf.throw, bind, Except.bind]
  · simp [h]

theorem refuse_ok_iff {broken : Prop} [Decidable broken] {fault : Violation} :
    (if broken then throw fault else pure () : Checked) = .ok () ↔ ¬ broken := by
  by_cases h : broken
  · simp [h, throw, throwThe, MonadExceptOf.throw]
  · simp [h, pure, Except.pure]

theorem pure_ok_iff : (pure () : Checked) = .ok () ↔ True := iff_true_intro rfl

theorem checkBounds_ok_iff {p : Primitive} {n : Number} :
    checkBounds p n = .ok () ↔ p.AllowsNumber n := by
  rw [Primitive.allowsNumber_iff]
  unfold checkBounds
  cases p.minimum <;> cases p.maximum <;> cases p.exclusiveMinimum <;>
    cases p.exclusiveMaximum <;>
    simp [refused_ok_iff, refuse_ok_iff, pure_ok_iff, Number.order_eq_lt_iff,
      Number.order_eq_gt_iff]

theorem checkText_ok_iff {p : Primitive} {text : String} :
    checkText p text = .ok () ↔ p.AllowsText text := by
  rw [Primitive.allowsText_iff]
  unfold checkText
  cases p.minLength <;> cases p.maxLength <;> cases p.pattern <;>
    simp [refused_ok_iff, refuse_ok_iff, pure_ok_iff]

theorem checkPrimitive_ok_iff {p : Primitive} {value : Value} :
    checkPrimitive p value = .ok () ↔ p.Allows value := by
  constructor
  · intro h
    unfold checkPrimitive at h
    split at h
    · next hkind => exact .null hkind
    · next hkind => exact .boolean hkind _
    · next hkind =>
      split at h
      · next hwhole => exact .integer hkind (Number.isWhole_iff.1 hwhole) (checkBounds_ok_iff.1 h)
      · cases h
    · next hkind => exact .number hkind (checkBounds_ok_iff.1 h)
    · next hkind => exact .string hkind (checkText_ok_iff.1 h)
    · cases h
  · intro h
    cases h with
    | null hkind => simp [checkPrimitive, hkind]
    | boolean hkind => simp [checkPrimitive, hkind]
    | integer hkind hwhole hn =>
      simp [checkPrimitive, hkind, Number.isWhole_iff.2 hwhole, checkBounds_ok_iff.2 hn]
    | number hkind hn => simp [checkPrimitive, hkind, checkBounds_ok_iff.2 hn]
    | string hkind htext => simp [checkPrimitive, hkind, checkText_ok_iff.2 htext]

/-! ## Derivations -/

/-- The value conforms to the schema, whose references are looked up in the registry, by a finite
derivation that enters the schema at `depth` and each schema in it at a depth that is allowed. -/
inductive Conforms (allowed : Nat → Prop) : (depth : Nat) → Schema → Registry → Value → Prop where
  /-- The value is the constant. -/
  | const {depth : Nat} {registry : Registry} {expected value : Value} (hdepth : allowed depth)
      (heq : Value.EqualTo expected value) :
      Conforms allowed depth (.const expected) registry value
  /-- The value is one of those listed. -/
  | enum {depth : Nat} {registry : Registry} {values : List Value} {candidate value : Value}
      (hdepth : allowed depth) (hmem : candidate ∈ values)
      (heq : Value.EqualTo candidate value) : Conforms allowed depth (.enum values) registry value
  /-- The value is of the kind and meets the conditions. -/
  | primitive {depth : Nat} {registry : Registry} {p : Primitive} {value : Value}
      (hdepth : allowed depth) (h : p.Allows value) :
      Conforms allowed depth (.primitive p) registry value
  /-- Required fields are there, fields that are there conform, and a closed object has no other
  members. -/
  | object {depth : Nat} {registry : Registry} {fields : List Field} {closed : Bool}
      {members : Members} (hdepth : allowed depth)
      (hrequired : ∀ field ∈ fields, field.required = true → (members.lookup field.name).isSome)
      (hfields : ∀ field ∈ fields, ∀ value, members.lookup field.name = some value →
        Conforms allowed (depth + 1) field.schema registry value)
      (hclosed : closed = true → ∀ entry ∈ members, ∃ field ∈ fields, field.name = entry.1) :
      Conforms allowed depth (.object fields closed) registry (.object members)
  /-- There are as many items as positions, and each conforms. -/
  | tuple {depth : Nat} {registry : Registry} {schemas : List Schema} {items : List Value}
      (hdepth : allowed depth) (hlen : items.length = schemas.length)
      (hitems : ∀ schema item, (schema, item) ∈ schemas.zip items →
        Conforms allowed (depth + 1) schema registry item) :
      Conforms allowed depth (.tuple schemas) registry (.array items)
  /-- There are neither too few nor too many items, and each conforms. -/
  | array {depth : Nat} {registry : Registry} {schema : Schema} {minItems maxItems : Option Nat}
      {items : List Value} (hdepth : allowed depth)
      (hmin : ∀ least, minItems = some least → least ≤ items.length)
      (hmax : ∀ most, maxItems = some most → items.length ≤ most)
      (hitems : ∀ item ∈ items, Conforms allowed (depth + 1) schema registry item) :
      Conforms allowed depth (.array schema minItems maxItems) registry (.array items)
  /-- Some alternative accepts the value. -/
  | union {depth : Nat} {registry : Registry} {alternatives : List Schema} {schema : Schema}
      {value : Value} (hdepth : allowed depth) (hmem : schema ∈ alternatives)
      (h : Conforms allowed (depth + 1) schema registry value) :
      Conforms allowed depth (.union alternatives) registry value
  /-- The named type accepts the value, with its own references looked up where it is at home. -/
  | reference {depth : Nat} {registry home : Registry} {target : TypeRef} {named : NamedType}
      {value : Value} (hdepth : allowed depth)
      (hlookup : registry.lookup target = some (named, home))
      (h : Conforms allowed (depth + 1) named.schema home value) :
      Conforms allowed depth (.reference target) registry value
  /-- Every value conforms. -/
  | anything {depth : Nat} {registry : Registry} {value : Value} (hdepth : allowed depth) :
      Conforms allowed depth .anything registry value

theorem Conforms.root_allowed {allowed : Nat → Prop} {depth : Nat} {schema : Schema}
    {registry : Registry} {value : Value} (h : Conforms allowed depth schema registry value) :
    allowed depth := by
  cases h <;> assumption

/-! ## Parts -/

theorem mapError_ok_iff {ε ε' α : Type} {f : ε → ε'} {x : Except ε α} {a : α} :
    x.mapError f = .ok a ↔ x = .ok a := by
  cases x <;> simp [Except.mapError]

theorem bind_ok_iff {x : Checked} {rest : Unit → Checked} :
    (x >>= rest) = .ok () ↔ x = .ok () ∧ rest () = .ok () := by
  cases x <;> simp [bind, Except.bind]

theorem checkFields_ok_iff {check : Schema → Value → Checked} {members : Members}
    {fields : List Field} :
    checkFields check members fields = .ok () ↔
      (∀ field ∈ fields, field.required = true → (members.lookup field.name).isSome) ∧
        ∀ field ∈ fields, ∀ value, members.lookup field.name = some value →
          check field.schema value = .ok () := by
  induction fields with
  | nil => simp [checkFields]
  | cons field rest ih =>
    obtain ⟨name, schema, required⟩ := field
    have hhead : checkFields check members (⟨name, schema, required⟩ :: rest) = .ok () ↔
        ((required = true → (members.lookup name).isSome) ∧
          ∀ value, members.lookup name = some value → check schema value = .ok ()) ∧
        checkFields check members rest = .ok () := by
      rw [checkFields]
      cases members.lookup name with
      | some value => simp [bind_ok_iff, mapError_ok_iff]
      | none => simp [refused_ok_iff]
    rw [hhead, ih]
    simp only [List.forall_mem_cons]
    exact and_and_and_comm

theorem checkClosed_ok_iff {fields : List Field} {members : Members} :
    checkClosed fields members = .ok () ↔
      ∀ entry ∈ members, ∃ field ∈ fields, field.name = entry.1 := by
  unfold checkClosed
  split
  · next key value h =>
    have hmem := List.mem_of_find?_eq_some h
    have hnone := List.find?_some h
    simp only [Bool.not_eq_true', List.any_eq_false, beq_iff_eq] at hnone
    constructor
    · intro h; cases h
    · intro hall
      obtain ⟨field, hfield, hname⟩ := hall _ hmem
      exact absurd hname (hnone field hfield)
  · next h =>
    simp only [List.find?_eq_none, Bool.not_eq_true', Bool.not_eq_false, List.any_eq_true,
      beq_iff_eq] at h
    exact ⟨fun _ => h, fun _ => rfl⟩

theorem checkPositions_ok_iff {check : Schema → Value → Checked} {index : Nat}
    {schemas : List Schema} {items : List Value} :
    checkPositions check index schemas items = .ok () ↔
      ∀ schema item, (schema, item) ∈ schemas.zip items → check schema item = .ok () := by
  induction schemas generalizing index items with
  | nil => simp [checkPositions]
  | cons schema schemas ih =>
    cases items with
    | nil => simp [checkPositions]
    | cons item items =>
      simp only [checkPositions, bind_ok_iff, mapError_ok_iff, ih, List.zip_cons_cons,
        List.mem_cons, Prod.mk.injEq]
      constructor
      · rintro ⟨hfirst, hrest⟩ s v (⟨rfl, rfl⟩ | h)
        · exact hfirst
        · exact hrest s v h
      · intro h
        exact ⟨h schema item (.inl ⟨rfl, rfl⟩), fun s v hsv => h s v (.inr hsv)⟩

theorem checkItems_ok_iff {check : Value → Checked} {index : Nat} {items : List Value} :
    checkItems check index items = .ok () ↔ ∀ item ∈ items, check item = .ok () := by
  induction items generalizing index with
  | nil => simp [checkItems]
  | cons item items ih => simp [checkItems, bind_ok_iff, mapError_ok_iff, ih]

theorem checkCount_ok_iff {minItems maxItems : Option Nat} {count : Nat} :
    checkCount minItems maxItems count = .ok () ↔
      (∀ least, minItems = some least → least ≤ count) ∧
        ∀ most, maxItems = some most → count ≤ most := by
  unfold checkCount
  cases minItems <;> cases maxItems <;> simp [refused_ok_iff, refuse_ok_iff, pure_ok_iff]

theorem firstAccepting_ok_iff {check : Schema → Checked} {index : Nat}
    {alternatives : List Schema} :
    (∃ position, firstAccepting check index alternatives = .ok position) ↔
      ∃ schema ∈ alternatives, check schema = .ok () := by
  induction alternatives generalizing index with
  | nil => simp [firstAccepting]
  | cons schema rest ih =>
    cases h : check schema with
    | ok u => simp [firstAccepting, h]
    | error reason => simp [firstAccepting, h, mapError_ok_iff, ih]

/-! ## The walk -/

section Walk

variable {maxDepth levels : Nat} {registry : Registry} {value : Value}

theorem walk_const_ok_iff {expected : Value} :
    walk maxDepth (levels + 1) (.const expected) registry value = .ok () ↔
      Value.EqualTo expected value := by
  rw [walk, ← Value.equivalent_iff]
  split <;> simp [*]

theorem walk_enum_ok_iff {values : List Value} :
    walk maxDepth (levels + 1) (.enum values) registry value = .ok () ↔
      ∃ candidate ∈ values, Value.EqualTo candidate value := by
  simp only [← Value.equivalent_iff, ← List.any_eq_true]
  rw [walk]
  split <;> simp [*]

theorem walk_primitive_ok_iff {p : Primitive} :
    walk maxDepth (levels + 1) (.primitive p) registry value = .ok () ↔ p.Allows value := by
  rw [walk, checkPrimitive_ok_iff]

theorem walk_object_ok_iff {fields : List Field} {closed : Bool} :
    walk maxDepth (levels + 1) (.object fields closed) registry value = .ok () ↔
      ∃ members, value = .object members ∧
        (∀ field ∈ fields, field.required = true → (members.lookup field.name).isSome) ∧
        (∀ field ∈ fields, ∀ child, members.lookup field.name = some child →
          walk maxDepth levels field.schema registry child = .ok ()) ∧
        (closed = true → ∀ entry ∈ members, ∃ field ∈ fields, field.name = entry.1) := by
  cases value with
  | object members =>
    have hclosed : (if closed then checkClosed fields members else pure ()) = .ok () ↔
        (closed = true → ∀ entry ∈ members, ∃ field ∈ fields, field.name = entry.1) := by
      cases closed <;> simp [checkClosed_ok_iff, pure_ok_iff]
    rw [walk, bind_ok_iff, checkFields_ok_iff, hclosed, and_assoc]
    simp
  | null | bool | number | string | array => simp [walk]

theorem walk_tuple_ok_iff {schemas : List Schema} :
    walk maxDepth (levels + 1) (.tuple schemas) registry value = .ok () ↔
      ∃ items, value = .array items ∧ items.length = schemas.length ∧
        ∀ schema item, (schema, item) ∈ schemas.zip items →
          walk maxDepth levels schema registry item = .ok () := by
  cases value with
  | array items =>
    rw [walk]
    by_cases hlen : items.length = schemas.length
    · simp [hlen, checkPositions_ok_iff]
    · simp [hlen]
  | null | bool | number | string | object => simp [walk]

theorem walk_array_ok_iff {schema : Schema} {minItems maxItems : Option Nat} :
    walk maxDepth (levels + 1) (.array schema minItems maxItems) registry value = .ok () ↔
      ∃ items, value = .array items ∧ (∀ least, minItems = some least → least ≤ items.length) ∧
        (∀ most, maxItems = some most → items.length ≤ most) ∧
        ∀ item ∈ items, walk maxDepth levels schema registry item = .ok () := by
  cases value with
  | array items =>
    rw [walk, bind_ok_iff, checkCount_ok_iff, checkItems_ok_iff, and_assoc]
    simp
  | null | bool | number | string | object => simp [walk]

theorem walk_union_ok_iff {alternatives : List Schema} :
    walk maxDepth (levels + 1) (.union alternatives) registry value = .ok () ↔
      ∃ schema ∈ alternatives, walk maxDepth levels schema registry value = .ok () := by
  rw [walk, ← @firstAccepting_ok_iff _ 0]
  split
  · next position h => simp [h]
  · next reasons h => simp [h]

theorem walk_reference_ok_iff {target : TypeRef} :
    walk maxDepth (levels + 1) (.reference target) registry value = .ok () ↔
      ∃ named home, registry.lookup target = some (named, home) ∧
        walk maxDepth levels named.schema home value = .ok () := by
  rw [walk]
  split
  · next named home h =>
    constructor
    · intro hnamed
      exact ⟨named, home, h, hnamed⟩
    · rintro ⟨named', home', h', hnamed⟩
      obtain ⟨rfl, rfl⟩ := Prod.mk.inj (Option.some.inj (h.symm.trans h'))
      exact hnamed
  · next h => simp [h]

theorem walk_anything : walk maxDepth (levels + 1) .anything registry value = .ok () := by
  rw [walk]

end Walk

/-- A walk that may enter `levels` levels from the one at `depth` on accepts exactly the values with
a derivation that stays above the level behind them. -/
theorem walk_ok_iff_conforms {maxDepth levels depth : Nat} {schema : Schema} {registry : Registry}
    {value : Value} :
    walk maxDepth levels schema registry value = .ok () ↔
      Conforms (· < depth + levels) depth schema registry value := by
  induction levels generalizing depth schema registry value with
  | zero =>
    constructor
    · intro h
      rw [walk_no_levels] at h
      cases h
    · intro h
      exact absurd h.root_allowed (Nat.lt_irrefl _)
  | succ levels ih =>
    have hroot : depth < depth + (levels + 1) := by omega
    -- Parts are entered one level further down with one level fewer, so the bound stays the same.
    have hpart : ∀ {schema : Schema} {registry : Registry} {value : Value},
        walk maxDepth levels schema registry value = .ok () ↔
          Conforms (· < depth + (levels + 1)) (depth + 1) schema registry value := by
      intro schema registry value
      rw [ih, show depth + 1 + levels = depth + (levels + 1) by omega]
    cases schema with
    | const expected =>
      rw [walk_const_ok_iff]
      exact ⟨.const hroot, fun | .const _ heq => heq⟩
    | enum values =>
      rw [walk_enum_ok_iff]
      exact ⟨fun ⟨_, hmem, heq⟩ => .enum hroot hmem heq, fun | .enum _ hmem heq => ⟨_, hmem, heq⟩⟩
    | primitive p =>
      rw [walk_primitive_ok_iff]
      exact ⟨.primitive hroot, fun | .primitive _ h => h⟩
    | object fields closed =>
      simp only [walk_object_ok_iff, hpart]
      constructor
      · rintro ⟨members, rfl, hrequired, hfields, hclosed⟩
        exact .object hroot hrequired hfields hclosed
      · intro h
        cases h with
        | object _ hrequired hfields hclosed => exact ⟨_, rfl, hrequired, hfields, hclosed⟩
    | tuple schemas =>
      simp only [walk_tuple_ok_iff, hpart]
      constructor
      · rintro ⟨items, rfl, hlen, hitems⟩
        exact .tuple hroot hlen hitems
      · intro h
        cases h with
        | tuple _ hlen hitems => exact ⟨_, rfl, hlen, hitems⟩
    | array schema minItems maxItems =>
      simp only [walk_array_ok_iff, hpart]
      constructor
      · rintro ⟨items, rfl, hmin, hmax, hitems⟩
        exact .array hroot hmin hmax hitems
      · intro h
        cases h with
        | array _ hmin hmax hitems => exact ⟨_, rfl, hmin, hmax, hitems⟩
    | union alternatives =>
      simp only [walk_union_ok_iff, hpart]
      exact ⟨fun ⟨_, hmem, h⟩ => .union hroot hmem h, fun | .union _ hmem h => ⟨_, hmem, h⟩⟩
    | reference target =>
      simp only [walk_reference_ok_iff, hpart]
      exact ⟨fun ⟨_, _, hlookup, h⟩ => .reference hroot hlookup h,
        fun | .reference _ hlookup h => ⟨_, _, hlookup, h⟩⟩
    | anything => exact ⟨fun _ => .anything hroot, fun _ => walk_anything⟩

/-- A validator accepts a value exactly if there is a derivation, with its root at depth zero, that
enters no schema deeper than the validator goes. -/
theorem check_ok_iff_conforms (validator : Validator) (value : Value) :
    validator.check value = .ok () ↔
      Conforms (· ≤ validator.maxDepth) 0 validator.schema validator.registry value := by
  have hallowed : (· < 0 + (validator.maxDepth + 1)) = (· ≤ validator.maxDepth) := by
    funext depth
    rw [Nat.zero_add, Nat.lt_succ_iff]
  rw [Validator.check, ← hallowed]
  exact walk_ok_iff_conforms

end ServiceContract
