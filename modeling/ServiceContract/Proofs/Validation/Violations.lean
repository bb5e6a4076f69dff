import ServiceContract.Proofs.Table
import ServiceContract.Proofs.Validation.Conformance

/-!
# Violations and their paths

The path of a violation is a way into the value that was checked. It leads to a part of the value, and
only where a required field is missing does it go one step further than the value does. What is checked
part by part, the fields of an object or the items of an array, is refused for the first part that is
refused, and the path takes the step to it.
-/

namespace ServiceContract

open Json (Number Value Members)

/-! ## Paths -/

/-- The part of a value that a path leads to. -/
def Json.Value.follow? : List Step → Value → Option Value
  | [], value => some value
  | .field name :: path, .object members => (members.lookup name).bind (follow? path)
  | .index position :: path, .array items => items[position]?.bind (follow? path)
  | _, _ => none

namespace Violation

/-- The path leads to a part of the value; where a required field is missing, it leads to an object with
its last step taken away, and that step is a field that the object does not have. -/
structure PointsInto (violation : Violation) (value : Value) : Prop where
  /-- There is a part at the end. -/
  present : violation.reason ≠ "required field is missing" →
    ∃ part, value.follow? violation.path = some part
  /-- There is an object without the field. -/
  missing : violation.reason = "required field is missing" →
    ∃ path name members, violation.path = path ++ [.field name] ∧
      value.follow? path = some (.object members) ∧ members.lookup name = none

/-- The violation is at the root, and it is not that a required field is missing. -/
structure IsAtRoot (violation : Violation) : Prop where
  /-- There is no step to go. -/
  path : violation.path = []
  /-- The wording is another one. -/
  reason : violation.reason ≠ "required field is missing"

section PointsInto

variable {violation : Violation} {value part : Value} {step : Step}

theorem IsAtRoot.pointsInto (h : violation.IsAtRoot) : violation.PointsInto value := by
  constructor
  · intro _
    rw [h.path]
    exact ⟨value, rfl⟩
  · intro hmissing
    exact absurd hmissing h.reason

/-- A violation of a part is one of the whole, one step further up. -/
theorem PointsInto.within (h : violation.PointsInto part)
    (hstep : ∀ path, value.follow? (step :: path) = part.follow? path) :
    (violation.within step).PointsInto value := by
  constructor
  · intro hreason
    obtain ⟨found, hfound⟩ := h.present hreason
    refine ⟨found, ?_⟩
    rw [Violation.within, hstep]
    exact hfound
  · intro hreason
    obtain ⟨path, name, members, hpath, hfollow, hnone⟩ := h.missing hreason
    refine ⟨step :: path, name, members, ?_, ?_, hnone⟩
    · rw [Violation.within, hpath]
      rfl
    · rw [hstep]
      exact hfollow

end PointsInto

/-- Every other wording has a letter that is not in the one for missing fields. -/
theorem isAtRoot_here {reason : String} (h : 't' ∈ reason.toList) : (here reason).IsAtRoot := by
  refine ⟨rfl, ?_⟩
  rintro hreason
  have hwording : 't' ∈ "required field is missing".toList := hreason ▸ h
  revert hwording
  decide

theorem isAtRoot_mismatch {expected : String} {value : Value} :
    (mismatch expected value).IsAtRoot := by
  apply isAtRoot_here
  simp [toString]

theorem isAtRoot_tooDeep {maxDepth : Nat} : (tooDeep maxDepth).IsAtRoot := by
  apply isAtRoot_here
  simp [toString]

theorem isAtRoot_noAlternative {alternatives : List Schema} {reasons : List Violation} :
    (noAlternative alternatives reasons).IsAtRoot := by
  apply isAtRoot_here
  split <;> simp

end Violation

/-! ## Checks of one value -/

/-- The check refuses at the root or not at all. -/
def RefusesAtRoot (checked : Checked) : Prop :=
  ∀ violation, checked = .error violation → violation.IsAtRoot

namespace RefusesAtRoot

open Violation

theorem pure : RefusesAtRoot (pure ()) := nofun

theorem error_iff {violation : Violation} :
    RefusesAtRoot (.error violation) ↔ violation.IsAtRoot := by
  constructor
  · intro h
    exact h violation rfl
  · rintro h other ⟨⟩
    exact h

/-- A condition in front of further checks. -/
theorem refused_iff {broken : Prop} [Decidable broken] {violation : Violation}
    {after : Unit → Checked} {rest : Checked} :
    RefusesAtRoot (if broken then (do let r ← throw violation; after r) else rest) ↔
      (broken → violation.IsAtRoot) ∧ (¬ broken → RefusesAtRoot rest) := by
  by_cases hbroken : broken
  · rw [if_pos hbroken]
    simp only [hbroken, forall_const, not_true, false_implies, and_true]
    exact error_iff
  · rw [if_neg hbroken]
    simp only [hbroken, false_implies, not_false_iff, forall_const, true_and]

/-- A condition behind all others. -/
theorem refuse_iff {broken : Prop} [Decidable broken] {violation : Violation} :
    RefusesAtRoot (if broken then throw violation else Pure.pure ()) ↔
      (broken → violation.IsAtRoot) := by
  by_cases hbroken : broken
  · rw [if_pos hbroken]
    simp only [hbroken, forall_const]
    exact error_iff
  · rw [if_neg hbroken]
    simp only [hbroken, false_implies, iff_true]
    exact pure

theorem checkBounds {p : Primitive} {n : Number} : RefusesAtRoot (checkBounds p n) := by
  have hworded : ∀ {wording : String}, 't' ∈ wording.toList → ∀ bound : Number,
      (here (n.text ++ wording ++ bound.text)).IsAtRoot := by
    intro wording h bound
    apply isAtRoot_here
    simp [h]
  have hminimum := @hworded " is less than minimum " (by simp)
  have hmaximum := @hworded " is greater than maximum " (by simp)
  have hexclusiveMinimum := @hworded " must be greater than " (by simp)
  have hexclusiveMaximum := @hworded " must be less than " (by simp)
  unfold ServiceContract.checkBounds
  cases p.minimum <;> cases p.maximum <;> cases p.exclusiveMinimum <;>
    cases p.exclusiveMaximum <;>
    simp only [refused_iff, refuse_iff, pure, hminimum, hmaximum, hexclusiveMinimum,
      hexclusiveMaximum, implies_true, and_self]

theorem checkText {p : Primitive} {text : String} : RefusesAtRoot (checkText p text) := by
  have hshort : ∀ least : Nat, (here s!"string shorter than {least} characters").IsAtRoot := by
    intro least
    apply isAtRoot_here
    simp [toString]
  have hlong : ∀ most : Nat, (here s!"string longer than {most} characters").IsAtRoot := by
    intro most
    apply isAtRoot_here
    simp [toString]
  have hpattern : ∀ source : String,
      (here ("string does not match pattern '" ++ source ++ "'")).IsAtRoot := by
    intro source
    apply isAtRoot_here
    simp
  unfold ServiceContract.checkText
  cases p.minLength <;> cases p.maxLength <;> cases p.pattern <;>
    simp only [refused_iff, refuse_iff, pure, hshort, hlong, hpattern, implies_true, and_self]

theorem checkPrimitive {p : Primitive} {value : Value} : RefusesAtRoot (checkPrimitive p value) := by
  unfold ServiceContract.checkPrimitive
  split
  · exact pure
  · exact pure
  · split
    · exact checkBounds
    · exact error_iff.2 isAtRoot_mismatch
  · exact checkBounds
  · exact checkText
  · exact error_iff.2 isAtRoot_mismatch

theorem checkCount {minItems maxItems : Option Nat} {count : Nat} :
    RefusesAtRoot (checkCount minItems maxItems count) := by
  have hfew : ∀ least : Nat,
      (here s!"expected at least {least} elements, found {count}").IsAtRoot := by
    intro least
    apply isAtRoot_here
    simp [toString]
  have hmany : ∀ most : Nat,
      (here s!"expected at most {most} elements, found {count}").IsAtRoot := by
    intro most
    apply isAtRoot_here
    simp [toString]
  unfold ServiceContract.checkCount
  cases minItems <;> cases maxItems <;>
    simp only [refused_iff, refuse_iff, pure, hfew, hmany, implies_true, and_self]

end RefusesAtRoot

/-! ## Parts in order -/

/-- A declared field of an object is in order: the member is there if it must be, and it is accepted if
it is there. -/
structure Field.Passes (accepts : Schema → Value → Prop) (members : Members) (field : Field) :
    Prop where
  /-- A required member is there. -/
  present : field.required = true → (members.lookup field.name).isSome
  /-- The member is accepted. -/
  accepted : ∀ value, members.lookup field.name = some value → accepts field.schema value

section Parts

variable {check : Schema → Value → Checked} {violation : Violation}

/-- A check of a part, with further checks behind it. -/
theorem part_error {part rest : Checked} {step : Step}
    (h : (part.mapError (Violation.within step) >>= fun _ => rest) = .error violation) :
    (∃ inner, part = .error inner ∧ violation = inner.within step) ∨
      part = .ok () ∧ rest = .error violation := by
  cases part with
  | error inner =>
    cases h
    exact .inl ⟨inner, rfl, rfl⟩
  | ok _ => exact .inr ⟨rfl, h⟩

/-- What is wrong with a field that is not in order. -/
inductive FieldFault (check : Schema → Value → Checked) (members : Members) (field : Field) :
    Violation → Prop where
  /-- It is missing. -/
  | missing (hrequired : field.required = true) (hmissing : members.lookup field.name = none) :
      FieldFault check members field ⟨[.field field.name], "required field is missing"⟩
  /-- It is not accepted. -/
  | refused {value : Value} {inner : Violation} (hvalue : members.lookup field.name = some value)
      (hinner : check field.schema value = .error inner) :
      FieldFault check members field (inner.within (.field field.name))

theorem checkFields_cons_error {members : Members} {field : Field} {rest : List Field}
    (h : checkFields check members (field :: rest) = .error violation) :
    FieldFault check members field violation ∨
      field.Passes (fun schema value => check schema value = .ok ()) members ∧
        checkFields check members rest = .error violation := by
  obtain ⟨name, schema, required⟩ := field
  rw [checkFields] at h
  cases hlookup : members.lookup name with
  | none =>
    rw [hlookup] at h
    by_cases hrequired : required = true
    · rw [if_pos hrequired] at h
      cases h
      exact .inl (.missing hrequired hlookup)
    · rw [if_neg hrequired] at h
      refine .inr ⟨⟨fun hmust => absurd hmust hrequired, ?_⟩, h⟩
      intro value hvalue
      cases hlookup.symm.trans hvalue
  | some value =>
    rw [hlookup] at h
    rcases part_error h with ⟨inner, hinner, rfl⟩ | ⟨haccepted, hrest⟩
    · exact .inl (.refused hlookup hinner)
    · refine .inr ⟨⟨fun _ => by rw [hlookup]; rfl, ?_⟩, hrest⟩
      intro other hother
      cases hlookup.symm.trans hother
      exact haccepted

/-- The fields are refused for the first one that is not in order. -/
theorem checkFields_error {members : Members} {fields : List Field}
    (h : checkFields check members fields = .error violation) :
    ∃ (index : Nat) (field : Field), fields[index]? = some field ∧
      (∀ earlier ∈ fields.take index,
        earlier.Passes (fun schema value => check schema value = .ok ()) members) ∧
      FieldFault check members field violation := by
  have hnil : ∀ _ : Nat, ¬ checkFields check members [] = .error violation := by
    intro _ h
    cases h
  exact exists_first (P := fun _ rest => checkFields check members rest = .error violation) hnil
    (fun _ _ _ => checkFields_cons_error) 0 h

/-- The positions are refused for the first item that is not accepted at its position. -/
theorem checkPositions_error {start : Nat} {schemas : List Schema} {items : List Value}
    (h : checkPositions check start schemas items = .error violation) :
    ∃ index schema item inner, (schemas.zip items)[index]? = some (schema, item) ∧
      (∀ earlier ∈ (schemas.zip items).take index, check earlier.1 earlier.2 = .ok ()) ∧
      check schema item = .error inner ∧ violation = inner.within (.index (start + index)) := by
  induction schemas generalizing start items with
  | nil => cases items <;> cases h
  | cons schema schemas ih =>
    cases items with
    | nil => cases h
    | cons item items =>
      rw [checkPositions] at h
      rcases part_error h with ⟨inner, hinner, rfl⟩ | ⟨haccepted, hrest⟩
      · exact ⟨0, schema, item, inner, rfl, List.forall_mem_nil _, hinner, rfl⟩
      · obtain ⟨index, schema', item', inner, hget, hbefore, hinner, rfl⟩ := ih hrest
        refine ⟨index + 1, schema', item', inner, hget, ?_, hinner, ?_⟩
        · exact List.forall_mem_cons.2 ⟨haccepted, hbefore⟩
        · rw [show start + 1 + index = start + (index + 1) by omega]

/-- The items are refused for the first one that is not accepted. -/
theorem checkItems_error {check : Value → Checked} {start : Nat} {items : List Value}
    (h : checkItems check start items = .error violation) :
    ∃ (index : Nat) (item : Value), items[index]? = some item ∧
      (∀ earlier ∈ items.take index, check earlier = .ok ()) ∧
      ∃ inner, check item = .error inner ∧ violation = inner.within (.index (start + index)) := by
  have hnil : ∀ start, ¬ checkItems check start [] = .error violation := by
    intro start h
    cases h
  have hcons : ∀ start item rest, checkItems check start (item :: rest) = .error violation →
      (∃ inner, check item = .error inner ∧ violation = inner.within (.index start)) ∨
        check item = .ok () ∧ checkItems check (start + 1) rest = .error violation := by
    intro start item rest h
    rw [checkItems] at h
    exact part_error h
  exact exists_first (P := fun start rest => checkItems check start rest = .error violation) hnil
    hcons start h

/-- A closed object is refused for a member that is not declared. -/
theorem checkClosed_error {fields : List Field} {members : Members}
    (h : checkClosed fields members = .error violation) :
    ∃ key value, members.lookup key = some value ∧ (∀ field ∈ fields, field.name ≠ key) ∧
      violation = ⟨[.field key], "field is not allowed"⟩ := by
  unfold checkClosed at h
  split at h
  · next key value hfind =>
    cases h
    have hmem : (key, value) ∈ members := List.mem_of_find?_eq_some hfind
    have hundeclared := List.find?_some hfind
    simp only [Bool.not_eq_true', List.any_eq_false, beq_iff_eq] at hundeclared
    cases hlookup : members.lookup key with
    | none => exact absurd (List.mem_map_of_mem hmem) (lookup_eq_none.1 hlookup)
    | some found => exact ⟨key, found, hlookup, hundeclared, rfl⟩
  · cases h

end Parts

end ServiceContract
