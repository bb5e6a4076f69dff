import Mathlib.Data.List.Nodup
import ServiceContract.Proofs.Interface.Inhabited
import ServiceContract.Proofs.Validation.Selection

/-!
# Chains of references

A reference stands for the schema of the type that is looked up for it, which may be a reference again.
Where such a chain ends and how long it is then is determined. So a chain that ends does not come to one
type twice and is no longer than the list of types that it can come to. The chain of a type ends if the
type was found to have a finite value and the chains of the types end that are at home elsewhere: a round
finds a type that is a reference only after the type that it refers to.
-/

namespace ServiceContract

open Json (Value)

namespace Registry

variable {registry home home' : Registry} {schema inner inner' : Schema} {target : TypeRef}
  {named : NamedType} {count count' : Nat}

/-- Behind a number of references there is a schema that is none. -/
def Ends (registry : Registry) (schema : Schema) : Prop :=
  ∃ count home inner, registry.Behind schema count home inner ∧ ¬ inner.IsReference

theorem Ends.here (hend : ¬ schema.IsReference) : registry.Ends schema :=
  ⟨0, registry, schema, .here, hend⟩

theorem Ends.next (hlookup : registry.lookup target = some (named, home))
    (h : home.Ends named.schema) : registry.Ends (.reference target) := by
  obtain ⟨count, home', inner, hbehind, hend⟩ := h
  exact ⟨count + 1, home', inner, .next hlookup hbehind, hend⟩

/-! ## The length of a chain -/

/-- A chain ends at one place. -/
theorem Behind.unique (h : registry.Behind schema count home inner)
    (h' : registry.Behind schema count' home' inner') (hend : ¬ inner.IsReference)
    (hend' : ¬ inner'.IsReference) : count' = count ∧ home' = home ∧ inner' = inner := by
  induction h generalizing count' with
  | here =>
    cases h' with
    | here => exact ⟨rfl, rfl, rfl⟩
    | next => exact absurd ⟨_, rfl⟩ hend
  | next hlookup _ ih =>
    cases h' with
    | here => exact absurd ⟨_, rfl⟩ hend'
    | next hlookup' h' =>
      cases hlookup.symm.trans hlookup'
      obtain ⟨rfl, hsame⟩ := ih h' hend
      exact ⟨rfl, hsame⟩

/-- The types of some registries, each with the registry that it is at home in. -/
def typesOf (homes : List Registry) : List (Registry × NamedType) :=
  homes.flatMap fun home => home.types.map (home, ·)

theorem mem_typesOf {homes : List Registry} (hhome : home ∈ homes) (hnamed : named ∈ home.types) :
    (home, named) ∈ typesOf homes :=
  List.mem_flatMap.2 ⟨home, hhome, List.mem_map_of_mem hnamed⟩

/-- What the registries reach is among them. -/
def Closed (homes : List Registry) : Prop :=
  ∀ home ∈ homes, ∀ key far, (key, far) ∈ home.externals → far ∈ homes

section Closed

variable {homes : List Registry} (hclosed : Closed homes)

include hclosed

theorem Closed.of_lookup (hregistry : registry ∈ homes)
    (h : registry.lookup target = some (named, home)) : home ∈ homes ∧ named ∈ home.types := by
  obtain ⟨hlocal, ⟨-, rfl⟩ | ⟨key, -, hhome⟩⟩ := lookup_eq_some h
  · exact ⟨hregistry, (mem_of_local? hlocal).1⟩
  · exact ⟨hclosed _ hregistry key home (mem_of_lookup hhome), (mem_of_local? hlocal).1⟩

/-- The types that a chain comes to before it ends are different ones, since from each it has another
number of references to go. -/
theorem Behind.exists_landings (h : registry.Behind schema count home inner)
    (hend : ¬ inner.IsReference) (hregistry : registry ∈ homes) :
    ∃ landings : List (Registry × NamedType), landings.length = count ∧ landings.Nodup ∧
      ∀ landing ∈ landings, landing ∈ typesOf homes ∧
        ∃ left < count, landing.1.Behind landing.2.schema left home inner := by
  induction h with
  | here => exact ⟨[], rfl, List.nodup_nil, nofun⟩
  | @next registry first inner target named count schema hlookup hbehind ih =>
    obtain ⟨hfirst, hnamed⟩ := hclosed.of_lookup hregistry hlookup
    obtain ⟨landings, hlength, hnodup, hall⟩ := ih hend hfirst
    have hnew : (first, named) ∉ landings := by
      intro hmem
      obtain ⟨-, left, hless, hleft⟩ := hall _ hmem
      exact absurd (hleft.unique hbehind hend hend).1 (Nat.ne_of_gt hless)
    refine ⟨(first, named) :: landings, by rw [List.length_cons, hlength],
      List.nodup_cons.2 ⟨hnew, hnodup⟩, List.forall_mem_cons.2 ⟨?_, fun landing hmem => ?_⟩⟩
    · exact ⟨mem_typesOf hfirst hnamed, count, Nat.lt_succ_self count, hbehind⟩
    · obtain ⟨htypes, left, hless, hleft⟩ := hall landing hmem
      exact ⟨htypes, left, Nat.lt_succ_of_lt hless, hleft⟩

/-- A chain that ends is no longer than the list of types it can come to. -/
theorem Behind.count_le (h : registry.Behind schema count home inner) (hend : ¬ inner.IsReference)
    (hregistry : registry ∈ homes) : count ≤ (typesOf homes).length := by
  obtain ⟨landings, hlength, hnodup, hall⟩ := h.exists_landings hclosed hend hregistry
  have hsubset : landings ⊆ typesOf homes := fun landing hmem => (hall landing hmem).1
  exact hlength ▸ hnodup.length_le_of_subset hsubset

end Closed

/-! ## Types whose chains end -/

/-- A chain that starts at a type with a finite value ends if those do that go on elsewhere. -/
theorem ends_of_mem_types (hnames : (registry.types.map NamedType.name).Nodup)
    (hinhabited : ∀ t ∈ registry.types, t.name ∈ finiteTypes registry.types)
    (hfound : ∀ t ∈ registry.types, ∀ target, t.schema = .reference target →
      (registry.lookup target).isSome)
    (hothers : ∀ key far, registry.externals.lookup key = some far →
      ∀ t ∈ far.types, far.Ends t.schema) :
    ∀ t ∈ registry.types, registry.Ends t.schema := by
  -- The rounds find the type behind a reference first.
  have hrounds : ∀ name ∈ finiteTypes registry.types,
      ∀ t ∈ registry.types, t.name = name → registry.Ends t.schema := by
    refine finiteTypes_induction fun finite hfinite t' ht' hvalue t ht hname => ?_
    obtain rfl : t = t' := List.inj_on_of_nodup_map hnames ht ht' hname
    by_cases href : t.schema.IsReference
    · obtain ⟨target, hschema⟩ := href
      obtain ⟨⟨named, home⟩, hlookup⟩ := Option.isSome_iff_exists.1 (hfound t ht target hschema)
      rw [hschema]
      refine .next hlookup ?_
      obtain ⟨hlocal, ⟨hdocument, rfl⟩ | ⟨key, -, hhome⟩⟩ := lookup_eq_some hlookup
      · rw [hschema, Schema.hasFiniteValue_reference_iff, hdocument] at hvalue
        have hmem : target.name ∈ finite := hvalue.resolve_left nofun
        obtain ⟨hnamed, hname⟩ := mem_of_local? hlocal
        exact hfinite target.name hmem named hnamed hname
      · exact hothers key home hhome named (mem_of_local? hlocal).1
    · exact .here href
  exact fun t ht => hrounds t.name (hinhabited t ht) t ht rfl

end Registry

/-! ## The choice behind a chain -/

namespace Validator

/-- What a choice answers at a schema that is no reference. -/
inductive AnswersAt (maxDepth : Nat) (home : Registry) (value : Value) :
    Schema → Except Violation (Option Nat) → Prop where
  /-- An alternative of the union is accepted as if it stood at the root. -/
  | accepted {alternatives : List Schema} {index : Nat}
      (h : firstAccepting (fun schema => check ⟨schema, home, maxDepth⟩ value) 0 alternatives =
        .ok index) : AnswersAt maxDepth home value (.union alternatives) (.ok (some index))
  /-- None is. -/
  | refused {alternatives : List Schema} {reasons : List Violation}
      (h : firstAccepting (fun schema => check ⟨schema, home, maxDepth⟩ value) 0 alternatives =
        .error reasons) :
      AnswersAt maxDepth home value (.union alternatives) (.error (noAlternative alternatives reasons))
  /-- There is nothing to choose from, and the whole is checked as if it stood at the root. -/
  | whole {schema : Schema} (hreference : ¬ schema.IsReference) (hunion : ¬ schema.IsUnion) :
      AnswersAt maxDepth home value schema
        ((check ⟨schema, home, maxDepth⟩ value).map fun () => none)

variable {maxDepth rounds count : Nat} {registry home : Registry} {schema inner : Schema} {value : Value}

/-- One round is enough where a chain ends. -/
theorem selectFrom_answersAt (hend : ¬ schema.IsReference) :
    AnswersAt maxDepth home value schema (selectFrom maxDepth value (rounds + 1) schema home) := by
  cases schema with
  | reference target => exact absurd ⟨target, rfl⟩ hend
  | union alternatives =>
    rw [selectFrom]
    split
    · next index h => exact .accepted h
    · next reasons h => exact .refused h
  | const | enum | primitive | object | tuple | array | anything =>
    exact .whole hend (by rintro ⟨alternatives, ⟨⟩⟩)

/-- With more levels than the chain is long, the choice is made where it ends. -/
theorem selectAlternative_answersAt (h : registry.Behind schema count home inner)
    (hend : ¬ inner.IsReference) (hcount : count < maxDepth) :
    AnswersAt maxDepth home value inner (selectAlternative ⟨schema, registry, maxDepth⟩ value) := by
  obtain ⟨rounds, hrounds⟩ : ∃ rounds, maxDepth = count + (rounds + 1) :=
    ⟨maxDepth - count - 1, by omega⟩
  have hselect : selectAlternative ⟨schema, registry, maxDepth⟩ value =
      selectFrom maxDepth value (rounds + 1) inner home := by
    calc selectFrom maxDepth value maxDepth schema registry
        = selectFrom maxDepth value (count + (rounds + 1)) schema registry := by rw [← hrounds]
      _ = selectFrom maxDepth value (rounds + 1) inner home := selectFrom_behind h
  rw [hselect]
  exact selectFrom_answersAt hend

end Validator

end ServiceContract
