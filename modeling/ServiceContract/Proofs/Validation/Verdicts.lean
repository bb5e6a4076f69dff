import ServiceContract.Proofs.Validation.Selection

/-!
# Verdicts at the limit

Whether there is a choice for a value and whether it passes the check is nearly the same question. The
two differ where the limit makes a difference: the check counts the levels from the root on, the choice
counts references alone and then starts again. So one of them may run out of levels before the other,
and either may be the one. Under a limit that is large enough for a value they agree about it.
-/

namespace ServiceContract

open Json (Value Members)

namespace Validator

section Verdicts

variable {schema : Schema} {registry : Registry} {value : Value}

theorem exists_violation_iff {α : Type} {r : Except Violation α} :
    (∃ violation, r = .error violation) ↔ ¬ ∃ answer, r = .ok answer := by
  cases r <;> simp

theorem check_refuses_iff {validator : Validator} :
    (∃ violation, validator.check value = .error violation) ↔ ¬ validator.check value = .ok () := by
  rw [exists_violation_iff]
  constructor
  · intro h hok
    exact h ⟨(), hok⟩
  · rintro h ⟨_, hok⟩
    exact h hok

/-- Whatever a choice is made for passes the check under some limit. -/
theorem exists_check_of_selectAlternative {validator : Validator} {answer : Option Nat}
    (h : validator.selectAlternative value = .ok answer) :
    ∃ maxDepth, check ⟨validator.schema, validator.registry, maxDepth⟩ value = .ok () := by
  obtain ⟨count, -, home, inner, hbehind, hchosen⟩ := selectFrom_eq_ok_iff.1 h
  obtain ⟨bound, hbound⟩ := (conforms_of_chosen hchosen).exists_bound
  have hinner : AcceptsAt (bound + count) (0 + count) inner home value := by
    rw [acceptsAt_iff_conforms]
    apply hbound.shift
    intro n hn
    omega
  exact ⟨bound + count, acceptsAt_zero.1 (hbehind.acceptsAt_iff.2 hinner)⟩

/-- Under every limit that is large enough, there is a choice exactly for what passes the check. -/
theorem exists_limit_of_agreement (schema : Schema) (registry : Registry) (value : Value) :
    ∃ least, ∀ maxDepth ≥ least, check ⟨schema, registry, maxDepth⟩ value = .ok () ↔
      ∃ answer, selectAlternative ⟨schema, registry, maxDepth⟩ value = .ok answer := by
  by_cases h : ∃ maxDepth, check ⟨schema, registry, maxDepth⟩ value = .ok ()
  · obtain ⟨least, hcheck⟩ := h
    have haccepts : AcceptsAt least 0 schema registry value := acceptsAt_zero.2 hcheck
    obtain ⟨count, home, inner, hbehind, hend, hinner⟩ := haccepts.exists_behind
    refine ⟨max least (count + 1), ?_⟩
    intro maxDepth hmaxDepth
    have hleast : least ≤ maxDepth := Nat.le_trans (Nat.le_max_left ..) hmaxDepth
    have hcount : count < maxDepth := Nat.le_trans (Nat.le_max_right ..) hmaxDepth
    obtain ⟨answer, hchosen⟩ := exists_chosen (hinner.mono_limit hleast) hend
    constructor
    · intro _
      exact ⟨answer, selectFrom_eq_ok_iff.2 ⟨count, hcount, home, inner, hbehind, hchosen⟩⟩
    · intro _
      exact acceptsAt_zero.1 (haccepts.mono_limit hleast)
  · refine ⟨0, ?_⟩
    intro maxDepth _
    constructor
    · intro hcheck
      exact absurd ⟨maxDepth, hcheck⟩ h
    · rintro ⟨answer, hselect⟩
      exact absurd (exists_check_of_selectAlternative hselect) h

/-- The check and the choice differ in two ways, and both only at the limit. The check alone accepts
where the references in front use up all levels and what stands behind them still accepts the value; the
choice alone accepts where what stands behind the references accepts the value from the root but not
with the levels that are left there. Under a limit that is large enough they never differ. -/
theorem verdicts_differ_iff (validator : Validator) (value : Value) :
    (validator.check value = .ok () ∧
        (∃ violation, validator.selectAlternative value = .error violation) ↔
      ∃ home inner, validator.registry.Behind validator.schema validator.maxDepth home inner ∧
        AcceptsAt validator.maxDepth validator.maxDepth inner home value) ∧
    ((∃ violation, validator.check value = .error violation) ∧
        (∃ answer, validator.selectAlternative value = .ok answer) ↔
      ∃ count < validator.maxDepth, ∃ home inner answer,
        validator.registry.Behind validator.schema count home inner ∧
        Chosen validator.maxDepth home value inner answer ∧
        ¬ AcceptsAt validator.maxDepth count inner home value) ∧
    ∃ least, ∀ maxDepth ≥ least,
      check ⟨validator.schema, validator.registry, maxDepth⟩ value = .ok () ↔
        ∃ answer, selectAlternative ⟨validator.schema, validator.registry, maxDepth⟩ value =
          .ok answer := by
  have hcheck : ∀ {count home inner},
      validator.registry.Behind validator.schema count home inner →
      (validator.check value = .ok () ↔ AcceptsAt validator.maxDepth count inner home value) := by
    intro count home inner hbehind
    have h : AcceptsAt validator.maxDepth 0 validator.schema validator.registry value ↔
        AcceptsAt validator.maxDepth (0 + count) inner home value := hbehind.acceptsAt_iff
    rw [Nat.zero_add] at h
    exact h
  refine ⟨⟨?_, ?_⟩, ⟨?_, ?_⟩, exists_limit_of_agreement _ _ value⟩
  · rintro ⟨hok, hrefused⟩
    have haccepts : AcceptsAt validator.maxDepth 0 validator.schema validator.registry value :=
      acceptsAt_zero.2 hok
    obtain ⟨count, home, inner, hbehind, hend, hinner⟩ := haccepts.exists_behind
    rw [Nat.zero_add] at hinner
    have hlast : count = validator.maxDepth := by
      by_contra hother
      have hcount : count < validator.maxDepth := Nat.lt_of_le_of_ne hinner.depth_le hother
      obtain ⟨answer, hchosen⟩ := exists_chosen hinner hend
      have hselect : validator.selectAlternative value = .ok answer :=
        selectFrom_eq_ok_iff.2 ⟨count, hcount, home, inner, hbehind, hchosen⟩
      exact exists_violation_iff.1 hrefused ⟨answer, hselect⟩
    rw [hlast] at hbehind hinner
    exact ⟨home, inner, hbehind, hinner⟩
  · rintro ⟨home, inner, hbehind, hinner⟩
    -- All rounds are gone when the references are.
    have hselect : selectFrom validator.maxDepth value (validator.maxDepth + 0) validator.schema
        validator.registry = selectFrom validator.maxDepth value 0 inner home :=
      selectFrom_behind hbehind
    exact ⟨(hcheck hbehind).2 hinner, tooDeep validator.maxDepth, hselect⟩
  · rintro ⟨hrefused, answer, hselect⟩
    obtain ⟨count, hcount, home, inner, hbehind, hchosen⟩ := selectFrom_eq_ok_iff.1 hselect
    refine ⟨count, hcount, home, inner, answer, hbehind, hchosen, ?_⟩
    intro hinner
    exact check_refuses_iff.1 hrefused ((hcheck hbehind).2 hinner)
  · rintro ⟨count, hcount, home, inner, answer, hbehind, hchosen, hinner⟩
    refine ⟨check_refuses_iff.2 ?_, answer, ?_⟩
    · intro hok
      exact hinner ((hcheck hbehind).1 hok)
    · exact selectFrom_eq_ok_iff.2 ⟨count, hcount, home, inner, hbehind, hchosen⟩

end Verdicts

end Validator

namespace Sample

/-- A type of whole numbers. -/
def counts : Registry := ⟨[⟨"count", "A sample.", .primitive { kind := .integer }⟩], []⟩

/-- A check of this type that may go one level below its root. -/
def counting : Validator := ⟨.reference (.inside "count"), counts, 1⟩

/-- A check of arrays as the only alternative that may go one level below its root. -/
def listing : Validator := ⟨.union [.array .anything none none], .empty, 1⟩

end Sample

/-- A number passes the check and gets no choice, since the limit is used up by the one reference in
front. The items of an array are out of the reach of the check and within that of the choice. -/
theorem Validator.verdicts_part_at_limit :
    (Sample.counting.check (.number (.ofNat 1)) = .ok () ∧
      Sample.counting.selectAlternative (.number (.ofNat 1)) = .error (tooDeep 1)) ∧
    (∃ violation, Sample.listing.check (.array [.null]) = .error violation) ∧
      Sample.listing.selectAlternative (.array [.null]) = .ok (some 0) := by
  refine ⟨⟨rfl, rfl⟩, ⟨_, rfl⟩, rfl⟩

/-- The two samples are of the two kinds. -/
theorem Validator.verdicts_differ_iff_limit :
    (Sample.counting.check (.number (.ofNat 1)) = .ok () ∧
      ∃ violation, Sample.counting.selectAlternative (.number (.ofNat 1)) = .error violation) ∧
    (∃ violation, Sample.listing.check (.array [.null]) = .error violation) ∧
      ∃ answer, Sample.listing.selectAlternative (.array [.null]) = .ok answer := by
  constructor
  · refine (verdicts_differ_iff Sample.counting (.number (.ofNat 1))).1.2
      ⟨Sample.counts, .primitive { kind := .integer }, ?_, ?_⟩
    · exact .next rfl .here
    · rfl
  · refine (verdicts_differ_iff Sample.listing (.array [.null])).2.1.2
      ⟨0, by decide, .empty, _, some 0, .here, ?_, ?_⟩
    · exact .alternative (firstAccepts_head rfl)
    · rintro ⟨⟩

end ServiceContract
