import ServiceContract.Proofs.Table
import ServiceContract.Proofs.Validation.Depth

/-!
# The choice of an alternative

An alternative is chosen for a value by following the references in front of a union and trying the
alternatives in order. Every reference uses up one round, and there are as many rounds as a check may
enter levels below its root; each alternative is tried as if it stood at the root. A check counts
differently: it allows the same number of references and one schema behind them, and what stands
behind them has only the levels that are left. So the choice finds the first alternative that is
accepted from the root, which comes no later than the one that the check accepts.
-/

namespace ServiceContract

open Json (Value Members)

/-! ## References at the root -/

/-- Behind a number of references, each looked up where it is at home, one comes to a schema and the
registry for its references. -/
inductive Registry.Behind : Registry → Schema → (count : Nat) → Registry → Schema → Prop where
  /-- There is no reference in front. -/
  | here {registry : Registry} {schema : Schema} : Behind registry schema 0 registry schema
  /-- There is one reference more. -/
  | next {registry home inner : Registry} {target : TypeRef} {named : NamedType} {count : Nat}
      {schema : Schema} (hlookup : registry.lookup target = some (named, home))
      (h : Behind home named.schema count inner schema) :
      Behind registry (.reference target) (count + 1) inner schema

/-- The schema is a reference. -/
def Schema.IsReference (schema : Schema) : Prop := ∃ target, schema = .reference target

/-- The schema is a union. -/
def Schema.IsUnion (schema : Schema) : Prop := ∃ alternatives, schema = .union alternatives

section Behind

variable {maxDepth depth count levels : Nat} {schema inner : Schema} {registry home : Registry}
  {value : Value}

/-- Each reference in front takes one level. -/
theorem Registry.Behind.acceptsAt_iff (h : registry.Behind schema count home inner) :
    AcceptsAt maxDepth depth schema registry value ↔
      AcceptsAt maxDepth (depth + count) inner home value := by
  induction h generalizing depth with
  | here => rfl
  | @next registry home inner target named count schema hlookup _ ih =>
    have hdepth : depth + (count + 1) = depth + 1 + count := by omega
    rw [acceptsAt_reference_iff, hdepth, ← ih]
    constructor
    · rintro ⟨named', home', hlookup', h⟩
      obtain ⟨rfl, rfl⟩ := Prod.mk.inj (Option.some.inj (hlookup.symm.trans hlookup'))
      exact h
    · intro h
      exact ⟨named, home, hlookup, h⟩

/-- What is accepted is accepted by a schema behind references that is none itself. -/
theorem AcceptsAt.exists_behind (h : AcceptsAt maxDepth depth schema registry value) :
    ∃ count home inner, registry.Behind schema count home inner ∧ ¬ inner.IsReference ∧
      AcceptsAt maxDepth (depth + count) inner home value := by
  -- The levels that are left grow fewer with each reference.
  obtain ⟨levels, hlevels⟩ : ∃ levels, depth + levels = maxDepth := ⟨_, Nat.add_sub_cancel' h.depth_le⟩
  induction levels generalizing depth schema registry with
  | zero =>
    refine ⟨0, registry, schema, .here, ?_, h⟩
    rintro ⟨target, rfl⟩
    obtain ⟨named, home, -, hnamed⟩ := acceptsAt_reference_iff.1 h
    have hbelow := hnamed.depth_le
    omega
  | succ levels ih =>
    by_cases href : schema.IsReference
    · obtain ⟨target, rfl⟩ := href
      obtain ⟨named, home, hlookup, hnamed⟩ := acceptsAt_reference_iff.1 h
      have hleft : depth + 1 + levels = maxDepth := by omega
      obtain ⟨count, home', inner, hbehind, hend, haccepts⟩ := ih hnamed hleft
      have hdepth : depth + (count + 1) = depth + 1 + count := by omega
      refine ⟨count + 1, home', inner, .next hlookup hbehind, hend, ?_⟩
      rw [hdepth]
      exact haccepts
    · exact ⟨0, registry, schema, .here, href, h⟩

end Behind

/-! ## The first alternative -/

/-- The alternative at a position is accepted and none before it is. -/
structure FirstAccepts (accepts : Schema → Prop) (alternatives : List Schema) (index : Nat) : Prop where
  /-- The one at the position is. -/
  accepted : ∃ alternative, alternatives[index]? = some alternative ∧ accepts alternative
  /-- Those before it are not. -/
  rejected : ∀ alternative ∈ alternatives.take index, ¬ accepts alternative

section FirstAccepts

variable {accepts accepts' : Schema → Prop} {alternative : Schema} {alternatives : List Schema}
  {index : Nat}

theorem FirstAccepts.mem (h : FirstAccepts accepts alternatives index) :
    ∃ alternative ∈ alternatives, accepts alternative := by
  obtain ⟨alternative, hget, haccepts⟩ := h.accepted
  exact ⟨alternative, List.mem_of_getElem? hget, haccepts⟩

theorem firstAccepts_head (h : accepts alternative) :
    FirstAccepts accepts (alternative :: alternatives) 0 := by
  refine ⟨⟨alternative, rfl, h⟩, ?_⟩
  rw [List.take_zero]
  nofun

theorem firstAccepts_tail_iff (h : ¬ accepts alternative) :
    FirstAccepts accepts (alternative :: alternatives) (index + 1) ↔
      FirstAccepts accepts alternatives index := by
  constructor
  · rintro ⟨hat, hbefore⟩
    rw [List.getElem?_cons_succ] at hat
    rw [List.take_succ_cons, List.forall_mem_cons] at hbefore
    exact ⟨hat, hbefore.2⟩
  · rintro ⟨hat, hbefore⟩
    constructor
    · rwa [List.getElem?_cons_succ]
    · rw [List.take_succ_cons, List.forall_mem_cons]
      exact ⟨h, hbefore⟩

/-- If some alternative is accepted, there is a first one. -/
theorem exists_firstAccepts (h : ∃ alternative ∈ alternatives, accepts alternative) :
    ∃ index, FirstAccepts accepts alternatives index := by
  have hcons : ∀ (_ : Nat) (first : Schema) (rest : List Schema),
      (∃ alternative ∈ first :: rest, accepts alternative) →
        accepts first ∨ ¬ accepts first ∧ ∃ alternative ∈ rest, accepts alternative := by
    intro _ first rest h
    rw [List.exists_mem_cons_iff] at h
    by_cases hfirst : accepts first
    · exact .inl hfirst
    · exact .inr ⟨hfirst, h.resolve_left hfirst⟩
  obtain ⟨index, alternative, hget, hbefore, haccepts⟩ :=
    exists_first (P := fun _ rest => ∃ alternative ∈ rest, accepts alternative) (by simp) hcons 0 h
  exact ⟨index, ⟨alternative, hget, haccepts⟩, hbefore⟩

/-- Whoever accepts more accepts no later. -/
theorem FirstAccepts.le {index' : Nat} (h : FirstAccepts accepts alternatives index)
    (h' : FirstAccepts accepts' alternatives index')
    (hmore : ∀ alternative, accepts' alternative → accepts alternative) : index ≤ index' := by
  obtain ⟨alternative, hget, haccepts⟩ := h'.accepted
  by_contra hlater
  have hbefore : (alternatives.take index)[index']? = some alternative := by
    rw [List.getElem?_take_of_lt (Nat.lt_of_not_le hlater)]
    exact hget
  exact h.rejected alternative (List.mem_of_getElem? hbefore) (hmore alternative haccepts)

theorem firstAccepting_eq_ok_iff {check : Schema → Checked} {start position : Nat} :
    firstAccepting check start alternatives = .ok position ↔
      ∃ index, position = start + index ∧
        FirstAccepts (fun schema => check schema = .ok ()) alternatives index := by
  induction alternatives generalizing start with
  | nil =>
    constructor
    · intro h
      cases h
    · rintro ⟨index, -, h⟩
      obtain ⟨alternative, hmem, -⟩ := h.mem
      cases hmem
  | cons first rest ih =>
    rw [firstAccepting]
    cases hfirst : check first with
    | ok u =>
      have hhead : FirstAccepts (fun schema => check schema = .ok ()) (first :: rest) 0 :=
        firstAccepts_head hfirst
      constructor
      · intro h
        cases h
        exact ⟨0, rfl, hhead⟩
      · rintro ⟨index, rfl, hindex⟩
        have hzero : index ≤ 0 := hindex.le hhead fun _ h => h
        rw [Nat.le_zero.1 hzero]
        rfl
    | error reason =>
      have hrejected : ¬ check first = .ok () := by
        rw [hfirst]
        intro h
        cases h
      dsimp only
      rw [mapError_ok_iff, ih]
      constructor
      · rintro ⟨index, rfl, hindex⟩
        refine ⟨index + 1, by omega, ?_⟩
        exact (firstAccepts_tail_iff hrejected).2 hindex
      · rintro ⟨index, rfl, hindex⟩
        cases index with
        | zero =>
          obtain ⟨alternative, hget, haccepts⟩ := hindex.accepted
          cases hget
          exact absurd haccepts hrejected
        | succ index =>
          refine ⟨index, by omega, ?_⟩
          exact (firstAccepts_tail_iff hrejected).1 hindex

end FirstAccepts

/-! ## What is chosen -/

/-- What is chosen for a value at the end of the references: the first alternative of a union that
accepts it as if it stood at the root, or nothing if another schema accepts it so. -/
inductive Chosen (maxDepth : Nat) (home : Registry) (value : Value) : Schema → Option Nat → Prop where
  /-- An alternative is. -/
  | alternative {alternatives : List Schema} {index : Nat}
      (h : FirstAccepts (fun schema => Validator.check ⟨schema, home, maxDepth⟩ value = .ok ())
        alternatives index) : Chosen maxDepth home value (.union alternatives) (some index)
  /-- There is nothing to choose from. -/
  | whole {schema : Schema} (hreference : ¬ schema.IsReference) (hunion : ¬ schema.IsUnion)
      (h : Validator.check ⟨schema, home, maxDepth⟩ value = .ok ()) :
      Chosen maxDepth home value schema none

namespace Validator

section Choice

variable {maxDepth count depth rounds : Nat} {schema inner : Schema} {registry home : Registry}
  {value : Value} {answer : Option Nat}

/-- Where references end, the choice is made in one round. -/
theorem selectFrom_eq_ok_iff_chosen (h : ¬ schema.IsReference) :
    selectFrom maxDepth value (rounds + 1) schema registry = .ok answer ↔
      Chosen maxDepth registry value schema answer := by
  by_cases hunion : schema.IsUnion
  · obtain ⟨alternatives, rfl⟩ := hunion
    have hfirst : ∀ index, firstAccepting
          (fun schema => walk maxDepth (maxDepth + 1) schema registry value) 0 alternatives =
            .ok index ↔
        FirstAccepts (fun schema => Validator.check ⟨schema, registry, maxDepth⟩ value = .ok ())
          alternatives index := by
      intro index
      rw [firstAccepting_eq_ok_iff]
      simp only [Nat.zero_add, exists_eq_left']
      rfl
    rw [selectFrom]
    constructor
    · intro h
      split at h
      · next index hindex =>
        cases h
        exact .alternative ((hfirst index).1 hindex)
      · cases h
    · intro h
      cases h with
      | alternative hindex => rw [(hfirst _).2 hindex]
      | whole _ hunion _ => exact absurd ⟨alternatives, rfl⟩ hunion
  · have hwhole : selectFrom maxDepth value (rounds + 1) schema registry =
        (walk maxDepth (maxDepth + 1) schema registry value).map fun () => none := by
      cases schema with
      | reference target => exact absurd ⟨target, rfl⟩ h
      | union alternatives => exact absurd ⟨alternatives, rfl⟩ hunion
      | const | enum | primitive | object | tuple | array | anything => rfl
    rw [hwhole]
    constructor
    · intro hselected
      cases hchecked : walk maxDepth (maxDepth + 1) schema registry value with
      | ok u =>
        rw [hchecked] at hselected
        cases hselected
        exact .whole h hunion hchecked
      | error violation =>
        rw [hchecked] at hselected
        cases hselected
    · intro hchosen
      cases hchosen with
      | alternative => exact absurd ⟨_, rfl⟩ hunion
      | whole _ _ hchecked =>
        have hwalk : walk maxDepth (maxDepth + 1) schema registry value = .ok () := hchecked
        rw [hwalk]
        rfl

/-- Each reference in front takes one round. -/
theorem selectFrom_behind (h : registry.Behind schema count home inner) :
    selectFrom maxDepth value (count + rounds) schema registry =
      selectFrom maxDepth value rounds inner home := by
  induction h with
  | here => rw [Nat.zero_add]
  | @next registry home inner target named count schema hlookup _ ih =>
    have hrounds : count + 1 + rounds = count + rounds + 1 := by omega
    rw [hrounds, selectFrom, hlookup]
    exact ih

/-- The choice is made behind fewer references than there are rounds. -/
theorem selectFrom_eq_ok_iff : selectFrom maxDepth value rounds schema registry = .ok answer ↔
    ∃ count < rounds, ∃ home inner, registry.Behind schema count home inner ∧
      Chosen maxDepth home value inner answer := by
  constructor
  · intro h
    induction rounds generalizing schema registry with
    | zero => cases h
    | succ rounds ih =>
      by_cases href : schema.IsReference
      · obtain ⟨target, rfl⟩ := href
        cases hlookup : registry.lookup target with
        | none =>
          rw [selectFrom, hlookup] at h
          cases h
        | some found =>
          obtain ⟨named, home⟩ := found
          rw [selectFrom, hlookup] at h
          obtain ⟨count, hcount, home', inner, hbehind, hchosen⟩ := ih h
          exact ⟨count + 1, Nat.succ_lt_succ hcount, home', inner, .next hlookup hbehind, hchosen⟩
      · have hchosen := (selectFrom_eq_ok_iff_chosen href).1 h
        exact ⟨0, Nat.succ_pos rounds, registry, schema, .here, hchosen⟩
  · rintro ⟨count, hcount, home, inner, hbehind, hchosen⟩
    obtain ⟨left, rfl⟩ : ∃ left, rounds = count + (left + 1) := ⟨rounds - count - 1, by omega⟩
    have hend : ¬ inner.IsReference := by
      cases hchosen with
      | alternative => rintro ⟨target, ⟨⟩⟩
      | whole hreference => exact hreference
    rw [selectFrom_behind hbehind]
    exact (selectFrom_eq_ok_iff_chosen hend).2 hchosen

/-- What a schema accepts at some depth leads to a choice, since it is accepted from the root too. -/
theorem exists_chosen (h : AcceptsAt maxDepth depth inner home value) (hend : ¬ inner.IsReference) :
    ∃ answer, Chosen maxDepth home value inner answer := by
  by_cases hunion : inner.IsUnion
  · obtain ⟨alternatives, rfl⟩ := hunion
    obtain ⟨alternative, hmem, haccepts⟩ := acceptsAt_union_iff.1 h
    have hroot : ∃ schema ∈ alternatives, check ⟨schema, home, maxDepth⟩ value = .ok () :=
      ⟨alternative, hmem, acceptsAt_zero.1 (haccepts.mono (Nat.zero_le _))⟩
    obtain ⟨index, hindex⟩ := exists_firstAccepts hroot
    exact ⟨some index, .alternative hindex⟩
  · have hroot : AcceptsAt maxDepth 0 inner home value := h.mono (Nat.zero_le _)
    exact ⟨none, .whole hend hunion (acceptsAt_zero.1 hroot)⟩

/-- What is chosen conforms to the schema it is chosen from, at whatever depth. -/
theorem conforms_of_chosen (h : Chosen maxDepth home value inner answer) :
    Conforms (fun _ => True) 0 inner home value := by
  cases h with
  | @alternative alternatives index h =>
    obtain ⟨alternative, hmem, haccepts⟩ := h.mem
    have hconforms : Conforms (· ≤ maxDepth) 0 alternative home value :=
      acceptsAt_iff_conforms.1 (acceptsAt_zero.2 haccepts)
    exact .union trivial hmem (hconforms.shift fun _ _ => trivial)
  | whole _ _ h =>
    have hconforms : Conforms (· ≤ maxDepth) 0 inner home value :=
      acceptsAt_iff_conforms.1 (acceptsAt_zero.2 h)
    exact hconforms.shift fun _ _ => trivial

end Choice

/-- The answer is what is chosen behind fewer references than the limit. A value that passes the check
behind so few references gets an answer, and from a union an alternative that comes no later than the
first one that the check itself accepts. -/
theorem selectAlternative_finds_first (validator : Validator) (value : Value) :
    (∀ answer, validator.selectAlternative value = .ok answer ↔
      ∃ count < validator.maxDepth, ∃ home inner,
        validator.registry.Behind validator.schema count home inner ∧
          Chosen validator.maxDepth home value inner answer) ∧
    (validator.check value = .ok () → ∀ count home inner,
      validator.registry.Behind validator.schema count home inner → ¬ inner.IsReference →
        count < validator.maxDepth →
      (∃ answer, validator.selectAlternative value = .ok answer) ∧
      ∀ alternatives, inner = .union alternatives → ∃ index first,
        validator.selectAlternative value = .ok (some index) ∧
        FirstAccepts
          (fun schema => AcceptsAt validator.maxDepth (count + 1) schema home value)
          alternatives first ∧
        index ≤ first) := by
  refine ⟨fun answer => selectFrom_eq_ok_iff, ?_⟩
  intro hcheck count home inner hbehind hend hcount
  have haccepts : AcceptsAt validator.maxDepth (0 + count) inner home value :=
    hbehind.acceptsAt_iff.1 (acceptsAt_zero.2 hcheck)
  rw [Nat.zero_add] at haccepts
  obtain ⟨answer, hchosen⟩ := exists_chosen haccepts hend
  have hselect : validator.selectAlternative value = .ok answer :=
    selectFrom_eq_ok_iff.2 ⟨count, hcount, home, inner, hbehind, hchosen⟩
  refine ⟨⟨answer, hselect⟩, ?_⟩
  rintro alternatives rfl
  obtain ⟨first, hfirst⟩ := exists_firstAccepts (acceptsAt_union_iff.1 haccepts)
  cases hchosen with
  | @alternative _ index hindex =>
    refine ⟨index, first, hselect, hfirst, hindex.le hfirst ?_⟩
    intro alternative h
    exact acceptsAt_zero.1 (h.mono (Nat.zero_le _))
  | whole _ hunion _ => exact absurd ⟨alternatives, rfl⟩ hunion

end Validator

namespace Sample

/-- A type that is an array of anything or anything at all. -/
def loose : Registry :=
  ⟨[⟨"loose", "A sample.", .union [.array .anything none none, .anything]⟩], []⟩

/-- A check of this type that may go two levels below its root. -/
def looseness : Validator := ⟨.reference (.inside "loose"), loose, 2⟩

end Sample

/-- The check has no level left for the item of the array and accepts the second alternative; the choice
is the first one. -/
theorem Validator.selectAlternative_finds_first_loose :
    Sample.looseness.check (.array [.null]) = .ok () ∧
    Sample.looseness.selectAlternative (.array [.null]) = .ok (some 0) ∧
    ∃ index first, Sample.looseness.selectAlternative (.array [.null]) = .ok (some index) ∧
      FirstAccepts (fun schema => AcceptsAt 2 2 schema Sample.loose (.array [.null]))
        [.array .anything none none, .anything] first ∧ index ≤ first := by
  have hcheck : Sample.looseness.check (.array [.null]) = .ok () := by rfl
  have hbehind : Sample.loose.Behind (.reference (.inside "loose")) 1 Sample.loose
      (.union [.array .anything none none, .anything]) := .next rfl .here
  have hend : ¬ (Schema.union [.array .anything none none, .anything]).IsReference := by
    rintro ⟨target, ⟨⟩⟩
  obtain ⟨-, hfirst⟩ := (selectAlternative_finds_first Sample.looseness (.array [.null])).2 hcheck 1
    Sample.loose _ hbehind hend (by decide)
  exact ⟨hcheck, rfl, hfirst _ rfl⟩

end ServiceContract
