import ServiceContract.Proofs.Document.Check
import ServiceContract.Proofs.Interface.Inhabited
import ServiceContract.Proofs.Schema.Choices

/-!
# Circles of types without values

Where every schema has something to choose from throughout and names only types that there are, a type
without a finite value names another one. Following such types comes back to one that was met before,
at the latest when every type was met. So types are never refused for another reason than a circle.

The rounds and the way from type to type are also told as loops that may take a limited number of turns:
both are over within a number of turns that the number of types bounds.
-/

namespace ServiceContract

/-! ## Loops with a limit -/

/-- Rounds until one adds nothing, if they are no more than a number. -/
def admitUntilStable (types : List NamedType) : (limit : Nat) → (finite : List String) →
    Option (List String)
  | 0, _ => none
  | limit + 1, finite =>
    let found := admitRound types finite
    if found.length = finite.length then some found else admitUntilStable types limit found

/-- The error of types that need one another in a circle. -/
def endlessCircle (locate : String → String) (first : String) (circle : List String) : Error :=
  .cyclicReference (locate s!"/types/{first}/schema")
    (Text.join " -> " (circle.map fun name => "#/types/" ++ name) ++ " (no finite value)")

/-- The error that a path of types leads to, if this takes no more than a number of turns. A turn looks
up the last type of the path and goes to the first type outside of the set that it names. -/
def followUntilCircle (locate : String → String) (types : List NamedType) (finite : List String) :
    (limit : Nat) → (path : List String) → Option Error
  | 0, _ => none
  | limit + 1, path =>
    let current := path.getLastD ""
    let named := ((types.find? fun t => t.name == current).map fun t => t.schema.ownTypes).getD []
    match named.find? fun name => decide (name ∉ finite) with
    | none => some (endlessFrom.noValue locate current)
    | some next =>
      if next ∈ path then some (endlessCircle locate next (path.dropWhile (· ≠ next) ++ [next]))
      else followUntilCircle locate types finite limit (path ++ [next])

section Rounds

variable {types : List NamedType} {finite : List String} {limit rounds : Nat}

/-- One round more than there are types left is enough to see that nothing is added. -/
theorem admitUntilStable_eq (hlimit : (remaining types finite).length < limit)
    (hrounds : (remaining types finite).length ≤ rounds) :
    admitUntilStable types limit finite = some (admitRounds types rounds finite) := by
  induction limit generalizing finite rounds with
  | zero => exact absurd hlimit (Nat.not_lt_zero _)
  | succ limit ih =>
    rw [admitUntilStable]
    by_cases hsame : admitRound types finite = finite
    · rw [hsame, if_pos rfl, admitRounds_of_admitRound_eq_self hsame]
    · have hlonger : (admitRound types finite).length ≠ finite.length := fun hlength =>
        hsame (prefix_admitRound.eq_of_length hlength.symm).symm
      have hfewer := length_remaining_admitRound_lt hsame
      obtain ⟨rounds, rfl⟩ : ∃ r, rounds = r + 1 := ⟨rounds - 1, by omega⟩
      rw [if_neg hlonger, admitRounds]
      exact ih (by omega) (by omega)

/-- The rounds are over when there was one for each type and one more. -/
theorem admitUntilStable_finiteTypes :
    admitUntilStable types (types.length + 1) [] = some (finiteTypes types) := by
  have hall : (remaining types []).length ≤ types.length := List.length_filter_le ..
  exact admitUntilStable_eq (Nat.lt_succ_of_le hall) hall

end Rounds

/-! ## Needs -/

section Needs

variable {types : List NamedType} {finite path : List String} {name next : String} {t : NamedType}

open Schema in
/-- Where there is something to choose from throughout, a schema has a finite value if all types that it
names have one. -/
theorem Schema.hasFiniteValue_of_mentions {schema : Schema} (hchoices : schema.Everywhere HasChoices)
    (hfinite : ∀ name, schema.Mentions (.inside name) → name ∈ finite) :
    schema.hasFiniteValue finite = true := by
  induction hchoices with
  | @node schema here _ ih =>
    have hpart : ∀ part, IsPart part schema → part.hasFiniteValue finite = true :=
      fun part hpart => ih part hpart fun name h => hfinite name (.part hpart h)
    cases schema with
    | reference target =>
      obtain ⟨document, name⟩ := target
      cases document with
      | none => exact hasFiniteValue_reference_iff.2 (.inr (hfinite name .reference))
      | some document => rfl
    | object fields closed =>
      exact hasFiniteValue_object_iff.2 fun field hfield _ => hpart _ (.field hfield)
    | tuple items => exact hasFiniteValue_tuple_iff.2 fun item hitem => hpart _ (.position hitem)
    | array items minItems maxItems => exact hasFiniteValue_array_iff.2 (.inr (hpart _ .item))
    | union alternatives =>
      obtain ⟨first, rest, rfl⟩ := List.exists_cons_of_ne_nil here
      have hfirst : first ∈ first :: rest := List.mem_cons_self
      exact hasFiniteValue_union_iff.2 ⟨first, hfirst, hpart _ (.alternative hfirst)⟩
    | enum values => exact hasFiniteValue_enum_iff.2 here
    | const | primitive | anything => rfl

/-- The names of the types are different, there is something to choose from throughout their schemas, and
these name no other types of the same document. -/
structure WellMade (types : List NamedType) : Prop where
  /-- The names. -/
  names : (types.map NamedType.name).Nodup
  /-- The schemas. -/
  schemas : ∀ t ∈ types, t.schema.Everywhere (Schema.IsWellMade (types.map NamedType.name))

/-- A type of the first name has a reference to the type of the second one somewhere in its schema. -/
def Needs (types : List NamedType) (name next : String) : Prop :=
  ∃ t ∈ types, t.name = name ∧ t.schema.Mentions (.inside next)

/-- A type that was not found to have a finite value names another one, and the first such is the one
that is followed. -/
theorem WellMade.exists_next (h : WellMade types) (ht : t ∈ types) (hnew : t.name ∉ finiteTypes types) :
    ∃ next, (t.schema.ownTypes.find? fun name => decide (name ∉ finiteTypes types)) = some next ∧
      Needs types t.name next ∧ next ∉ finiteTypes types ∧ next ∈ types.map NamedType.name := by
  cases hfind : t.schema.ownTypes.find? fun name => decide (name ∉ finiteTypes types) with
  | none =>
    have hall : ∀ name, t.schema.Mentions (.inside name) → name ∈ finiteTypes types := by
      intro name hname
      simpa using List.find?_eq_none.1 hfind name (Schema.mem_ownTypes_iff.2 hname)
    have hchoices : t.schema.Everywhere Schema.HasChoices :=
      (h.schemas t ht).imp fun _ hmade => hmade.1
    exact absurd (closedFor_finiteTypes t ht (Schema.hasFiniteValue_of_mentions hchoices hall)) hnew
  | some next =>
    have hmentions := Schema.mem_ownTypes_iff.1 (List.mem_of_find?_eq_some hfind)
    have hnext : next ∉ finiteTypes types := by simpa using List.find?_some hfind
    exact ⟨next, rfl, ⟨t, ht, rfl, hmentions⟩, hnext, Schema.mem_of_mentions (h.schemas t ht) hmentions⟩

/-- A way from type to type, without one that was found to have a finite value and none twice. -/
structure IsWay (types : List NamedType) (path : List String) : Prop where
  /-- Each type needs the next one. -/
  chain : path.IsChain (Needs types)
  /-- None was found to have a finite value. -/
  endless : ∀ name ∈ path, name ∉ finiteTypes types
  /-- There are such types. -/
  declared : ∀ name ∈ path, name ∈ types.map NamedType.name
  /-- None comes twice. -/
  nodup : path.Nodup

theorem IsWay.length_le (h : IsWay types path) : path.length ≤ types.length := by
  have hlength := h.nodup.length_le_of_subset h.declared
  rwa [List.length_map] at hlength

theorem IsWay.snoc (h : IsWay types (path ++ [name])) (hneeds : Needs types name next)
    (hnew : next ∉ path ++ [name]) (hendless : next ∉ finiteTypes types)
    (hdeclared : next ∈ types.map NamedType.name) : IsWay types (path ++ [name] ++ [next]) where
  chain := h.chain.append_overlap (List.isChain_pair.2 hneeds) (List.cons_ne_nil _ _)
  endless := List.forall_mem_append.2 ⟨h.endless, by simpa using hendless⟩
  declared := List.forall_mem_append.2 ⟨h.declared, by simpa using hdeclared⟩
  nodup := List.nodup_append_comm.1 (List.nodup_cons.2 ⟨hnew, h.nodup⟩)

/-- Types that need one another in a circle, without one that was found to have a finite value. -/
structure IsEndlessCircle (types : List NamedType) (first : String) (others : List String) : Prop where
  /-- Each type needs the next one, and the last one the first one. -/
  chain : (first :: others ++ [first]).IsChain (Needs types)
  /-- None was found to have a finite value. -/
  endless : ∀ name ∈ first :: others, name ∉ finiteTypes types
  /-- There are such types. -/
  declared : ∀ name ∈ first :: others, name ∈ types.map NamedType.name
  /-- None comes twice. -/
  nodup : (first :: others).Nodup

/-- A way is closed by a type on it that its last type needs. -/
theorem IsWay.exists_circle (h : IsWay types (path ++ [name])) (hneeds : Needs types name next)
    (hmem : next ∈ path ++ [name]) : ∃ others,
      (path ++ [name]).dropWhile (· ≠ next) ++ [next] = next :: others ++ [next] ∧
        IsEndlessCircle types next others := by
  obtain ⟨before, others, hpath, hcircle⟩ := Source.exists_circle_of_mem hmem
  have hsuffix : next :: others <:+ path ++ [name] := ⟨before, hpath.symm⟩
  have hclosed : (path ++ [name] ++ [next]).IsChain (Needs types) :=
    h.chain.append_overlap (List.isChain_pair.2 hneeds) (List.cons_ne_nil _ _)
  refine ⟨others, by rw [hcircle], ?_, ?_, ?_, ?_⟩
  · refine hclosed.suffix ⟨before, ?_⟩
    rw [hpath, List.append_assoc]
  · exact fun name hname => h.endless name (hsuffix.subset hname)
  · exact fun name hname => h.declared name (hsuffix.subset hname)
  · exact h.nodup.sublist hsuffix.sublist

end Needs

/-! ## The way to a circle -/

section Way

variable {types rest : List NamedType} {locate : String → String} {path : List String} {name : String}
  {t : NamedType} {limit : Nat}

theorem find?_otherTypes {removed : String} (h : name ≠ removed) :
    (otherTypes removed rest).find? (fun t => t.name == name) =
      rest.find? fun t => t.name == name := by
  rw [otherTypes, List.find?_filter]
  congr 1
  funext t
  by_cases hname : t.name = name
  · simp [hname, h]
  · simp [hname]

/-- Following types from the end of a way leads to a circle, and it takes no more turns than there are
types besides the way. -/
theorem WellMade.exists_circle (h : WellMade types) (hway : IsWay types (path ++ [t.name]))
    (ht : t ∈ types) (hrest : ∀ name, name ∉ path ++ [t.name] →
      rest.find? (fun t => t.name == name) = types.find? fun t => t.name == name)
    (hlimit : types.length < limit + (path ++ [t.name]).length) : ∃ first others,
      endlessFrom locate (finiteTypes types) rest (path ++ [t.name]) t =
        endlessCircle locate first (first :: others ++ [first]) ∧
      followUntilCircle locate types (finiteTypes types) limit (path ++ [t.name]) =
        some (endlessCircle locate first (first :: others ++ [first])) ∧
      IsEndlessCircle types first others := by
  induction limit generalizing path t rest with
  | zero =>
    have hlength := hway.length_le
    omega
  | succ limit ih =>
    have hnew := hway.endless t.name (List.mem_append_right _ (List.mem_singleton.2 rfl))
    obtain ⟨next, hfind, hneeds, hendless, hdeclared⟩ := h.exists_next ht hnew
    have hcurrent : (path ++ [t.name]).getLastD "" = t.name := by simp
    have hnamed : types.find? (fun t' => t'.name == t.name) = some t := find?_of_nodup h.names ht
    rw [endlessFrom, followUntilCircle, hcurrent, hnamed, Option.map_some, Option.getD_some, hfind]
    dsimp only
    by_cases hmem : next ∈ path ++ [t.name]
    · obtain ⟨others, hothers, hcircle⟩ := hway.exists_circle hneeds hmem
      rw [if_pos hmem, if_pos hmem, hothers]
      exact ⟨next, others, rfl, rfl, hcircle⟩
    · obtain ⟨t', ht', rfl⟩ := List.mem_map.1 hdeclared
      have hfound : rest.find? (fun t => t.name == t'.name) = some t' := by
        rw [hrest _ hmem, find?_of_nodup h.names ht']
      have hlonger := hway.snoc hneeds hmem hendless hdeclared
      have hothers : ∀ name, name ∉ path ++ [t.name] ++ [t'.name] →
          (otherTypes t'.name rest).find? (fun t => t.name == name) =
            types.find? fun t => t.name == name := by
        intro name hname
        rw [List.mem_append, List.mem_singleton, not_or] at hname
        rw [find?_otherTypes hname.2, hrest name hname.1]
      have hlimit' : types.length < limit + (path ++ [t.name] ++ [t'.name]).length := by
        rw [List.length_append, List.length_singleton]
        omega
      rw [if_neg hmem, if_neg hmem]
      split
      · next hnone =>
        rw [hfound] at hnone
        cases hnone
      · next t'' ht'' =>
        rw [hfound] at ht''
        cases ht''
        exact ih hlonger ht' hothers hlimit'

/-- Types are refused for a circle, that the loops find in as many turns as there are types. -/
theorem WellMade.checkInhabited_error (h : WellMade types) {e : Error}
    (hrefused : checkInhabited locate types = .error e) : ∃ first others,
      e = endlessCircle locate first (first :: others ++ [first]) ∧
      IsEndlessCircle types first others ∧
      ∃ start ∈ types, (types.find? fun t => decide (t.name ∉ finiteTypes types)) = some start ∧
        followUntilCircle locate types (finiteTypes types) types.length [start.name] = some e := by
  unfold checkInhabited at hrefused
  dsimp only at hrefused
  cases hfind : types.find? fun t => decide (t.name ∉ finiteTypes types) with
  | none =>
    rw [hfind] at hrefused
    cases hrefused
  | some start =>
    rw [hfind] at hrefused
    cases hrefused
    have hstart := List.mem_of_find?_eq_some hfind
    have hnew : start.name ∉ finiteTypes types := by simpa using List.find?_some hfind
    have hway : IsWay types ([] ++ [start.name]) :=
      ⟨.singleton _, by simpa using hnew, by simpa using ⟨start, hstart, rfl⟩, List.nodup_singleton _⟩
    have hrest : ∀ name, name ∉ [] ++ [start.name] →
        (otherTypes start.name types).find? (fun t => t.name == name) =
          types.find? fun t => t.name == name :=
      fun name hname => find?_otherTypes (by simpa using hname)
    have hlimit : types.length < types.length + ([] ++ [start.name]).length := Nat.lt_succ_self _
    obtain ⟨first, others, hfrom, hfollow, hcircle⟩ := h.exists_circle hway hstart hrest hlimit
    refine ⟨first, others, hfrom, hcircle, start, hstart, rfl, ?_⟩
    rw [List.nil_append] at hfrom hfollow
    rw [hfollow, hfrom]

end Way

end ServiceContract
