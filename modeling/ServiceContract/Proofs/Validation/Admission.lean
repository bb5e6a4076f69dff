import ServiceContract.Proofs.Schema.Relocation
import ServiceContract.Proofs.Validation.Conformance

/-!
# Admission

A schema admits a value, given what the types accept that it refers to. No registry comes in, so
that a schema that was borrowed by another document can be compared with the original: it admits the
same values, once its references are read as they were written. What conforms to a schema at any
depth is what its derivation needs at some depth, and the depth that it starts at does not matter.
-/

namespace ServiceContract

open Json (Value Members)

/-- The schema admits the value, given what the types that it refers to accept. -/
inductive Admits (types : TypeRef → Value → Prop) : Schema → Value → Prop where
  /-- The value is the constant. -/
  | const {expected value : Value} (heq : Value.EqualTo expected value) :
      Admits types (.const expected) value
  /-- The value is one of those listed. -/
  | enum {values : List Value} {candidate value : Value} (hmem : candidate ∈ values)
      (heq : Value.EqualTo candidate value) : Admits types (.enum values) value
  /-- The value is of the kind and meets the conditions. -/
  | primitive {p : Primitive} {value : Value} (h : p.Allows value) : Admits types (.primitive p) value
  /-- Required fields are there, fields that are there are admitted, and a closed object has no other
  members. -/
  | object {fields : List Field} {closed : Bool} {members : Members}
      (hrequired : ∀ field ∈ fields, field.required = true → (members.lookup field.name).isSome)
      (hfields : ∀ field ∈ fields, ∀ value, members.lookup field.name = some value →
        Admits types field.schema value)
      (hclosed : closed = true → ∀ entry ∈ members, ∃ field ∈ fields, field.name = entry.1) :
      Admits types (.object fields closed) (.object members)
  /-- There are as many items as positions, and each is admitted. -/
  | tuple {schemas : List Schema} {items : List Value} (hlen : items.length = schemas.length)
      (hitems : ∀ schema item, (schema, item) ∈ schemas.zip items → Admits types schema item) :
      Admits types (.tuple schemas) (.array items)
  /-- There are neither too few nor too many items, and each is admitted. -/
  | array {schema : Schema} {minItems maxItems : Option Nat} {items : List Value}
      (hmin : ∀ least, minItems = some least → least ≤ items.length)
      (hmax : ∀ most, maxItems = some most → items.length ≤ most)
      (hitems : ∀ item ∈ items, Admits types schema item) :
      Admits types (.array schema minItems maxItems) (.array items)
  /-- Some alternative admits the value. -/
  | union {alternatives : List Schema} {schema : Schema} {value : Value}
      (hmem : schema ∈ alternatives) (h : Admits types schema value) :
      Admits types (.union alternatives) value
  /-- The type accepts the value. -/
  | reference {target : TypeRef} {value : Value} (h : types target value) :
      Admits types (.reference target) value
  /-- Every value is admitted. -/
  | anything {value : Value} : Admits types .anything value

/-! ## By the form of the schema -/

section Forms

variable {types : TypeRef → Value → Prop} {value : Value}

theorem admits_const_iff {expected : Value} :
    Admits types (.const expected) value ↔ Value.EqualTo expected value :=
  ⟨fun | .const heq => heq, .const⟩

theorem admits_enum_iff {values : List Value} :
    Admits types (.enum values) value ↔ ∃ candidate ∈ values, Value.EqualTo candidate value :=
  ⟨fun | .enum hmem heq => ⟨_, hmem, heq⟩, fun ⟨_, hmem, heq⟩ => .enum hmem heq⟩

theorem admits_primitive_iff {p : Primitive} : Admits types (.primitive p) value ↔ p.Allows value :=
  ⟨fun | .primitive h => h, .primitive⟩

theorem admits_object_iff {fields : List Field} {closed : Bool} :
    Admits types (.object fields closed) value ↔
      ∃ members, value = .object members ∧
        (∀ field ∈ fields, field.required = true → (members.lookup field.name).isSome) ∧
        (∀ field ∈ fields, ∀ child, members.lookup field.name = some child →
          Admits types field.schema child) ∧
        (closed = true → ∀ entry ∈ members, ∃ field ∈ fields, field.name = entry.1) := by
  constructor
  · intro h
    cases h with
    | object hrequired hfields hclosed => exact ⟨_, rfl, hrequired, hfields, hclosed⟩
  · rintro ⟨members, rfl, hrequired, hfields, hclosed⟩
    exact .object hrequired hfields hclosed

theorem admits_tuple_iff {schemas : List Schema} :
    Admits types (.tuple schemas) value ↔
      ∃ items, value = .array items ∧ items.length = schemas.length ∧
        ∀ schema item, (schema, item) ∈ schemas.zip items → Admits types schema item := by
  constructor
  · intro h
    cases h with
    | tuple hlen hitems => exact ⟨_, rfl, hlen, hitems⟩
  · rintro ⟨items, rfl, hlen, hitems⟩
    exact .tuple hlen hitems

theorem admits_array_iff {schema : Schema} {minItems maxItems : Option Nat} :
    Admits types (.array schema minItems maxItems) value ↔
      ∃ items, value = .array items ∧ (∀ least, minItems = some least → least ≤ items.length) ∧
        (∀ most, maxItems = some most → items.length ≤ most) ∧
        ∀ item ∈ items, Admits types schema item := by
  constructor
  · intro h
    cases h with
    | array hmin hmax hitems => exact ⟨_, rfl, hmin, hmax, hitems⟩
  · rintro ⟨items, rfl, hmin, hmax, hitems⟩
    exact .array hmin hmax hitems

theorem admits_union_iff {alternatives : List Schema} :
    Admits types (.union alternatives) value ↔
      ∃ schema ∈ alternatives, Admits types schema value :=
  ⟨fun | .union hmem h => ⟨_, hmem, h⟩, fun ⟨_, hmem, h⟩ => .union hmem h⟩

theorem admits_reference_iff {target : TypeRef} :
    Admits types (.reference target) value ↔ types target value :=
  ⟨fun | .reference h => h, .reference⟩

theorem admits_anything_iff : Admits types .anything value ↔ True := iff_true_intro .anything

end Forms

/-! ## Borrowed schemas -/

/-- A borrowed schema admits what the original admits when its references are read as they read
outside its document. -/
theorem admits_rebase_iff {types : TypeRef → Value → Prop} {document : String} {s : Schema}
    {value : Value} :
    Admits types (s.rebase document) value ↔
      Admits (fun target => types (target.outside document)) s value := by
  induction s using Schema.inductionOnParts generalizing value with
  | step s ih =>
    cases s with
    | const | enum | primitive | anything =>
      rw [Schema.rebase]
      simp only [admits_const_iff, admits_enum_iff, admits_primitive_iff, admits_anything_iff]
    | reference target => rw [Schema.rebase_reference, admits_reference_iff, admits_reference_iff]
    | object fields closed =>
      rw [Schema.rebase_object, admits_object_iff, admits_object_iff]
      have hfields : ∀ members : Members,
          (∀ field ∈ fields, ∀ child, members.lookup field.name = some child →
            Admits types (field.schema.rebase document) child) ↔
          ∀ field ∈ fields, ∀ child, members.lookup field.name = some child →
            Admits (fun target => types (target.outside document)) field.schema child :=
        fun members => forall₂_congr fun field hfield => forall₂_congr fun child _ =>
          ih field.schema (.field hfield)
      simp only [List.forall_mem_map]
      simp only [List.mem_map, exists_exists_and_eq_and, Schema.rebaseField, hfields]
    | tuple items =>
      rw [Schema.rebase_tuple, admits_tuple_iff, admits_tuple_iff]
      have hitems : ∀ values : List Value,
          (∀ schema item, (schema, item) ∈ (items.map (Schema.rebase document)).zip values →
            Admits types schema item) ↔
          ∀ schema item, (schema, item) ∈ items.zip values →
            Admits (fun target => types (target.outside document)) schema item := by
        intro values
        have hpairs : (∀ pair ∈ (items.map (Schema.rebase document)).zip values,
              Admits types pair.1 pair.2) ↔
            ∀ pair ∈ items.zip values,
              Admits (fun target => types (target.outside document)) pair.1 pair.2 := by
          rw [List.zip_map_left, List.forall_mem_map]
          exact forall₂_congr fun pair hpair => ih pair.1 (.position (List.of_mem_zip hpair).1)
        rw [Prod.forall, Prod.forall] at hpairs
        exact hpairs
      simp only [hitems, List.length_map]
    | array items minItems maxItems =>
      rw [Schema.rebase_array, admits_array_iff, admits_array_iff]
      simp only [ih items .item]
    | union alternatives =>
      rw [Schema.rebase_union, admits_union_iff, admits_union_iff]
      simp only [List.mem_map, exists_exists_and_eq_and]
      exact exists_congr fun alternative =>
        and_congr_right fun hmem => ih alternative (.alternative hmem)

/-! ## Conformance at any depth -/

section AnyDepth

variable {allowed allowed' : Nat → Prop} {depth depth' : Nat} {schema : Schema}
  {registry : Registry} {value : Value}

/-- A derivation may start at another depth if what is allowed from there on allows it. -/
theorem Conforms.shift (h : Conforms allowed depth schema registry value)
    (hallowed : ∀ n, allowed (depth + n) → allowed' (depth' + n)) :
    Conforms allowed' depth' schema registry value := by
  have hroot : ∀ {depth depth'}, (∀ n, allowed (depth + n) → allowed' (depth' + n)) →
      allowed depth → allowed' depth' := fun h => h 0
  have hdeeper : ∀ {depth depth'}, (∀ n, allowed (depth + n) → allowed' (depth' + n)) →
      ∀ n, allowed (depth + 1 + n) → allowed' (depth' + 1 + n) := by
    intro depth depth' h n
    rw [Nat.add_assoc, Nat.add_assoc]
    exact h (1 + n)
  induction h generalizing depth' with
  | const hdepth heq => exact .const (hroot hallowed hdepth) heq
  | enum hdepth hmem heq => exact .enum (hroot hallowed hdepth) hmem heq
  | primitive hdepth h => exact .primitive (hroot hallowed hdepth) h
  | object hdepth hrequired _ hclosed ih =>
    exact .object (hroot hallowed hdepth) hrequired
      (fun field hfield value hvalue => ih field hfield value hvalue (hdeeper hallowed)) hclosed
  | tuple hdepth hlen _ ih =>
    exact .tuple (hroot hallowed hdepth) hlen
      fun schema item hpair => ih schema item hpair (hdeeper hallowed)
  | array hdepth hmin hmax _ ih =>
    exact .array (hroot hallowed hdepth) hmin hmax fun item hitem => ih item hitem (hdeeper hallowed)
  | union hdepth hmem _ ih => exact .union (hroot hallowed hdepth) hmem (ih (hdeeper hallowed))
  | reference hdepth hlookup _ ih =>
    exact .reference (hroot hallowed hdepth) hlookup (ih (hdeeper hallowed))
  | anything hdepth => exact .anything (hroot hallowed hdepth)

/-- Bounds for the elements of a list, each of which may be raised, can be met by one bound. -/
theorem exists_bound_of_forall_mem {α : Type} {l : List α} {P : α → Nat → Prop}
    (hmono : ∀ {a m n}, m ≤ n → P a m → P a n) (h : ∀ a ∈ l, ∃ n, P a n) :
    ∃ n, ∀ a ∈ l, P a n := by
  induction l with
  | nil => exact ⟨0, fun _ ha => by cases ha⟩
  | cons a l ih =>
    obtain ⟨m, hm⟩ := h a (List.mem_cons_self ..)
    obtain ⟨n, hn⟩ := ih fun b hb => h b (List.mem_cons_of_mem _ hb)
    refine ⟨max m n, fun b hb => ?_⟩
    rcases List.mem_cons.1 hb with rfl | hb
    · exact hmono (Nat.le_max_left ..) hm
    · exact hmono (Nat.le_max_right ..) (hn b hb)

/-- Every derivation stays within some depth. -/
theorem Conforms.exists_bound (h : Conforms allowed depth schema registry value) :
    ∃ bound, Conforms (· ≤ bound) depth schema registry value := by
  have hmono : ∀ {depth schema registry value m n}, m ≤ n →
      Conforms (· ≤ m) depth schema registry value → Conforms (· ≤ n) depth schema registry value :=
    fun hle h => h.shift fun _ hm => Nat.le_trans hm hle
  induction h with
  | const _ heq => exact ⟨_, .const (Nat.le_refl _) heq⟩
  | enum _ hmem heq => exact ⟨_, .enum (Nat.le_refl _) hmem heq⟩
  | primitive _ h => exact ⟨_, .primitive (Nat.le_refl _) h⟩
  | @object depth registry fields closed members _ hrequired _ hclosed ih =>
    have hfields : ∀ field ∈ fields, ∃ bound, ∀ value, members.lookup field.name = some value →
        Conforms (· ≤ bound) (depth + 1) field.schema registry value := by
      intro field hfield
      cases hvalue : members.lookup field.name with
      | none => exact ⟨0, fun _ h => by cases h⟩
      | some value =>
        obtain ⟨bound, hbound⟩ := ih field hfield value hvalue
        exact ⟨bound, fun _ h => by cases h; exact hbound⟩
    obtain ⟨bound, hbound⟩ := exists_bound_of_forall_mem
      (fun hle h value hvalue => hmono hle (h value hvalue)) hfields
    refine ⟨max depth bound, .object (Nat.le_max_left ..) hrequired ?_ hclosed⟩
    exact fun field hfield value hvalue =>
      hmono (Nat.le_max_right ..) (hbound field hfield value hvalue)
  | @tuple depth registry schemas items _ hlen _ ih =>
    obtain ⟨bound, hbound⟩ := exists_bound_of_forall_mem (l := schemas.zip items)
      (P := fun pair bound => Conforms (· ≤ bound) (depth + 1) pair.1 registry pair.2) hmono
      fun pair hpair => ih pair.1 pair.2 hpair
    refine ⟨max depth bound, .tuple (Nat.le_max_left ..) hlen fun schema item hpair => ?_⟩
    exact hmono (Nat.le_max_right ..) (hbound (schema, item) hpair)
  | @array depth registry schema minItems maxItems items _ hmin hmax _ ih =>
    obtain ⟨bound, hbound⟩ := exists_bound_of_forall_mem (l := items)
      (P := fun item bound => Conforms (· ≤ bound) (depth + 1) schema registry item) hmono ih
    refine ⟨max depth bound, .array (Nat.le_max_left ..) hmin hmax fun item hitem => ?_⟩
    exact hmono (Nat.le_max_right ..) (hbound item hitem)
  | @union depth _ _ _ _ _ hmem _ ih =>
    obtain ⟨bound, hbound⟩ := ih
    exact ⟨max depth bound, .union (Nat.le_max_left ..) hmem (hmono (Nat.le_max_right ..) hbound)⟩
  | @reference depth _ _ _ _ _ _ hlookup _ ih =>
    obtain ⟨bound, hbound⟩ := ih
    exact ⟨max depth bound,
      .reference (Nat.le_max_left ..) hlookup (hmono (Nat.le_max_right ..) hbound)⟩
  | anything => exact ⟨_, .anything (Nat.le_refl _)⟩

/-- Some validator of a schema accepts a value exactly if there is a derivation of any depth. -/
theorem exists_check_ok_iff :
    (∃ maxDepth, Validator.check ⟨schema, registry, maxDepth⟩ value = .ok ()) ↔
      Conforms (fun _ => True) 0 schema registry value := by
  constructor
  · rintro ⟨maxDepth, h⟩
    have hconforms : Conforms (· < 0 + (maxDepth + 1)) 0 schema registry value :=
      walk_ok_iff_conforms.1 h
    exact hconforms.shift fun _ _ => trivial
  · intro h
    obtain ⟨bound, hbound⟩ := h.exists_bound
    have hconforms : Conforms (· < 0 + (bound + 1)) 0 schema registry value := by
      refine hbound.shift fun n hn => ?_
      omega
    exact ⟨bound, walk_ok_iff_conforms.2 hconforms⟩

end AnyDepth

end ServiceContract
