import ServiceContract.Proofs.Validation.Admission

/-!
# Acceptance at a depth

A walk counts the levels that it may still enter. Here it is seen from the other end: what is accepted
by a walk that comes to a schema at some depth, under one limit for the whole walk. What is accepted at
a depth is accepted at every lesser depth, and what stands behind references or in a union is accepted
one level further down.
-/

namespace ServiceContract

open Json (Value Members)

/-- A walk with a limit that comes to the schema at some depth accepts the value. -/
def AcceptsAt (maxDepth depth : Nat) (schema : Schema) (registry : Registry) (value : Value) : Prop :=
  walk maxDepth (maxDepth + 1 - depth) schema registry value = .ok ()

section AcceptsAt

variable {maxDepth depth depth' levels : Nat} {schema : Schema} {registry : Registry} {value : Value}

theorem acceptsAt_iff_conforms : AcceptsAt maxDepth depth schema registry value ↔
    Conforms (· ≤ maxDepth) depth schema registry value := by
  have hlevels : AcceptsAt maxDepth depth schema registry value ↔
      Conforms (· < depth + (maxDepth + 1 - depth)) depth schema registry value :=
    walk_ok_iff_conforms
  rw [hlevels]
  by_cases hdepth : depth ≤ maxDepth
  · have hsame : (· < depth + (maxDepth + 1 - depth)) = (· ≤ maxDepth) := by
      funext n
      apply propext
      omega
    rw [hsame]
  · constructor
    · intro h
      have hroot : depth < depth + (maxDepth + 1 - depth) := h.root_allowed
      omega
    · intro h
      exact absurd h.root_allowed hdepth

/-- At the root a walk is a check. -/
theorem acceptsAt_zero : AcceptsAt maxDepth 0 schema registry value ↔
    Validator.check ⟨schema, registry, maxDepth⟩ value = .ok () := Iff.rfl

/-- The walk from a level on, told by its depth. -/
theorem acceptsAt_of_levels (h : depth + levels = maxDepth + 1) :
    AcceptsAt maxDepth depth schema registry value ↔
      walk maxDepth levels schema registry value = .ok () := by
  have hlevels : maxDepth + 1 - depth = levels := by omega
  rw [AcceptsAt, hlevels]

theorem AcceptsAt.depth_le (h : AcceptsAt maxDepth depth schema registry value) :
    depth ≤ maxDepth :=
  (acceptsAt_iff_conforms.1 h).root_allowed

/-- What is accepted further down is accepted further up, where more levels are left. -/
theorem AcceptsAt.mono (h : AcceptsAt maxDepth depth schema registry value) (hle : depth' ≤ depth) :
    AcceptsAt maxDepth depth' schema registry value := by
  rw [acceptsAt_iff_conforms] at h ⊢
  apply h.shift
  intro n hn
  omega

/-- A larger limit accepts no less. -/
theorem AcceptsAt.mono_limit {maxDepth' : Nat} (h : AcceptsAt maxDepth depth schema registry value)
    (hle : maxDepth ≤ maxDepth') : AcceptsAt maxDepth' depth schema registry value := by
  rw [acceptsAt_iff_conforms] at h ⊢
  apply h.shift
  intro n hn
  omega

theorem acceptsAt_union_iff {alternatives : List Schema} :
    AcceptsAt maxDepth depth (.union alternatives) registry value ↔
      ∃ schema ∈ alternatives, AcceptsAt maxDepth (depth + 1) schema registry value := by
  simp only [acceptsAt_iff_conforms]
  constructor
  · intro h
    cases h with
    | union _ hmem h => exact ⟨_, hmem, h⟩
  · rintro ⟨schema, hmem, h⟩
    have hbelow : depth + 1 ≤ maxDepth := h.root_allowed
    exact .union (Nat.le_of_succ_le hbelow) hmem h

theorem acceptsAt_reference_iff {target : TypeRef} :
    AcceptsAt maxDepth depth (.reference target) registry value ↔
      ∃ named home, registry.lookup target = some (named, home) ∧
        AcceptsAt maxDepth (depth + 1) named.schema home value := by
  simp only [acceptsAt_iff_conforms]
  constructor
  · intro h
    cases h with
    | reference _ hlookup h => exact ⟨_, _, hlookup, h⟩
  · rintro ⟨named, home, hlookup, h⟩
    have hbelow : depth + 1 ≤ maxDepth := h.root_allowed
    exact .reference (Nat.le_of_succ_le hbelow) hlookup h

end AcceptsAt

end ServiceContract
