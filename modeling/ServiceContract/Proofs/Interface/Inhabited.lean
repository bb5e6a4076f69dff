import ServiceContract.Interface.Inhabited
import ServiceContract.Proofs.Validation.Admission
import ServiceContract.Proofs.Validation.Lookups

/-!
# Types without values have none

The rounds that look for types with a finite value end with a set that is closed: a type whose schema
has a finite value, given the types of the set, belongs to it. A value that conforms to a schema is
finite, and so are the values in it that conform to the types that are referred to. Hence a schema that
some value conforms to has a finite value, given the types of the set, and a type outside of it has no
value at all.
-/

namespace ServiceContract

open Json (Value Members)

/-! ## Finite values by the form of the schema -/

namespace Schema

variable {finite finite' : List String}

theorem fieldsHaveFiniteValues_iff {fields : List Field} :
    fieldsHaveFiniteValues finite fields = true ↔
      ∀ field ∈ fields, field.required = true → field.schema.hasFiniteValue finite = true := by
  induction fields with
  | nil => simp [fieldsHaveFiniteValues]
  | cons field rest ih =>
    obtain ⟨name, schema, required⟩ := field
    rw [fieldsHaveFiniteValues, Bool.and_eq_true, ih, List.forall_mem_cons]
    cases required <;> simp

theorem allHaveFiniteValues_iff {schemas : List Schema} :
    allHaveFiniteValues finite schemas = true ↔
      ∀ s ∈ schemas, s.hasFiniteValue finite = true := by
  induction schemas with
  | nil => simp [allHaveFiniteValues]
  | cons s rest ih => rw [allHaveFiniteValues, Bool.and_eq_true, ih, List.forall_mem_cons]

theorem anyHasFiniteValue_iff {schemas : List Schema} :
    anyHasFiniteValue finite schemas = true ↔ ∃ s ∈ schemas, s.hasFiniteValue finite = true := by
  induction schemas with
  | nil => simp [anyHasFiniteValue]
  | cons s rest ih => simp [anyHasFiniteValue, ih]

theorem hasFiniteValue_reference_iff {target : TypeRef} :
    (reference target).hasFiniteValue finite = true ↔
      target.document.isSome = true ∨ target.name ∈ finite := by
  rw [hasFiniteValue, Bool.or_eq_true, decide_eq_true_iff]

theorem hasFiniteValue_object_iff {fields : List Field} {closed : Bool} :
    (object fields closed).hasFiniteValue finite = true ↔
      ∀ field ∈ fields, field.required = true → field.schema.hasFiniteValue finite = true := by
  rw [hasFiniteValue, fieldsHaveFiniteValues_iff]

theorem hasFiniteValue_tuple_iff {items : List Schema} :
    (tuple items).hasFiniteValue finite = true ↔ ∀ s ∈ items, s.hasFiniteValue finite = true := by
  rw [hasFiniteValue, allHaveFiniteValues_iff]

theorem hasFiniteValue_array_iff {items : Schema} {minItems maxItems : Option Nat} :
    (array items minItems maxItems).hasFiniteValue finite = true ↔
      minItems.getD 0 = 0 ∨ items.hasFiniteValue finite = true := by
  rw [hasFiniteValue, Bool.or_eq_true, beq_iff_eq]

theorem hasFiniteValue_union_iff {alternatives : List Schema} :
    (union alternatives).hasFiniteValue finite = true ↔
      ∃ s ∈ alternatives, s.hasFiniteValue finite = true := by
  rw [hasFiniteValue, anyHasFiniteValue_iff]

theorem hasFiniteValue_enum_iff {values : List Value} :
    (enum values).hasFiniteValue finite = true ↔ values ≠ [] := by
  rw [hasFiniteValue, Bool.not_eq_true', List.isEmpty_eq_false_iff]

/-- With more types a schema has no fewer values. -/
theorem hasFiniteValue_mono {finite' : List String} {s : Schema}
    (h : ∀ name ∈ finite, name ∈ finite') (hs : s.hasFiniteValue finite = true) :
    s.hasFiniteValue finite' = true := by
  induction s using inductionOnParts with
  | step s ih =>
    cases s with
    | reference target =>
      exact hasFiniteValue_reference_iff.2 ((hasFiniteValue_reference_iff.1 hs).imp_right (h _))
    | object fields closed =>
      rw [hasFiniteValue_object_iff] at hs ⊢
      exact fun field hmem hrequired => ih _ (.field hmem) (hs field hmem hrequired)
    | tuple items =>
      rw [hasFiniteValue_tuple_iff] at hs ⊢
      exact fun item hmem => ih _ (.position hmem) (hs item hmem)
    | array items minItems maxItems =>
      rw [hasFiniteValue_array_iff] at hs ⊢
      exact hs.imp_right (ih _ .item)
    | union alternatives =>
      rw [hasFiniteValue_union_iff] at hs ⊢
      obtain ⟨s, hmem, hs⟩ := hs
      exact ⟨s, hmem, ih _ (.alternative hmem) hs⟩
    | enum values => exact hasFiniteValue_enum_iff.2 (hasFiniteValue_enum_iff.1 hs)
    | const | primitive | anything => rfl

end Schema

/-! ## Rounds -/

section Rounds

variable {types : List NamedType} {t : NamedType} {finite : List String} {rounds : Nat}

/-- Whatever type has a finite value, given the types of the set, belongs to the set. -/
def ClosedFor (types : List NamedType) (finite : List String) : Prop :=
  ∀ t ∈ types, t.schema.hasFiniteValue finite = true → t.name ∈ finite

/-- A type is admitted if it is not there and has a finite value. -/
theorem admitType_eq_self_or : admitType finite t = finite ∧
      (t.schema.hasFiniteValue finite = true → t.name ∈ finite) ∨
    admitType finite t = finite ++ [t.name] ∧ t.name ∉ finite ∧
      t.schema.hasFiniteValue finite = true := by
  unfold admitType
  by_cases hmem : t.name ∈ finite
  · rw [if_pos hmem]
    exact .inl ⟨rfl, fun _ => hmem⟩
  · rw [if_neg hmem]
    by_cases hfinite : t.schema.hasFiniteValue finite = true
    · rw [if_pos hfinite]
      exact .inr ⟨rfl, hmem, hfinite⟩
    · rw [if_neg hfinite]
      exact .inl ⟨rfl, fun h => absurd h hfinite⟩

theorem prefix_admitType : finite <+: admitType finite t := by
  rcases admitType_eq_self_or with ⟨h, -⟩ | ⟨h, -⟩
  · exact ⟨[], by rw [List.append_nil, h]⟩
  · rw [h]
    exact List.prefix_append ..

theorem prefix_admitRound : finite <+: admitRound types finite := by
  unfold admitRound
  induction types generalizing finite with
  | nil => exact List.prefix_rfl
  | cons t rest ih => exact prefix_admitType.trans ih

/-- A round that adds nothing has come to a closed set. -/
theorem closedFor_of_admitRound_eq_self (h : admitRound types finite = finite) :
    ClosedFor types finite := by
  intro t ht
  obtain ⟨before, after, rfl⟩ := List.append_of_mem ht
  -- The set is the same before and after every type of the round.
  have hround : admitRound (before ++ t :: after) finite =
      admitRound after (admitType (admitRound before finite) t) := by
    unfold admitRound
    rw [List.foldl_append, List.foldl_cons]
  rw [hround] at h
  have hfirst : finite <+: admitRound before finite := prefix_admitRound
  have hthis : admitRound before finite <+: admitType (admitRound before finite) t :=
    prefix_admitType
  have hlast : admitType (admitRound before finite) t <+: finite := by
    calc admitType (admitRound before finite) t
        <+: admitRound after (admitType (admitRound before finite) t) := prefix_admitRound
      _ = finite := h
  have hbefore : admitRound before finite = finite :=
    (hfirst.eq_of_length_le (hthis.trans hlast).length_le).symm
  rw [hbefore] at hthis hlast
  have hsame : admitType finite t = finite := (hthis.eq_of_length_le hlast.length_le).symm
  rcases admitType_eq_self_or with ⟨-, hmem⟩ | ⟨hadded, -⟩
  · exact hmem
  · rw [hsame] at hadded
    simp at hadded

/-- A round that changes the set adds a type. -/
theorem exists_mem_admitRound (h : admitRound types finite ≠ finite) :
    ∃ t ∈ types, t.name ∉ finite ∧ t.name ∈ admitRound types finite := by
  induction types with
  | nil => exact absurd rfl h
  | cons t rest ih =>
    have hround : admitRound (t :: rest) finite = admitRound rest (admitType finite t) := rfl
    rw [hround] at h ⊢
    rcases admitType_eq_self_or with ⟨hsame, -⟩ | ⟨hadded, hnew, -⟩
    · rw [hsame] at h ⊢
      obtain ⟨t', ht', hadded⟩ := ih h
      exact ⟨t', List.mem_cons_of_mem _ ht', hadded⟩
    · refine ⟨t, List.mem_cons_self, hnew, prefix_admitRound.subset ?_⟩
      rw [hadded]
      exact List.mem_append_right _ (List.mem_singleton.2 rfl)

/-- The types that are not in the set yet. -/
def remaining (types : List NamedType) (finite : List String) : List NamedType :=
  types.filter fun t => t.name ∉ finite

/-- A round that changes the set leaves fewer types. -/
theorem length_remaining_admitRound_lt (h : admitRound types finite ≠ finite) :
    (remaining types (admitRound types finite)).length < (remaining types finite).length := by
  have hfewer : remaining types (admitRound types finite) =
      (remaining types finite).filter fun t => t.name ∉ admitRound types finite := by
    unfold remaining
    rw [List.filter_filter]
    refine List.filter_congr fun t _ => ?_
    have hsubset : t.name ∈ finite → t.name ∈ admitRound types finite :=
      fun hmem => prefix_admitRound.subset hmem
    by_cases hmem : t.name ∈ admitRound types finite
    · simp [hmem]
    · simp [hmem, mt hsubset hmem]
  obtain ⟨t, ht, hnew, hadded⟩ := exists_mem_admitRound h
  rw [hfewer]
  refine List.length_filter_lt_length_iff_exists.2 ⟨t, List.mem_filter.2 ⟨ht, ?_⟩, ?_⟩
  · simpa using hnew
  · simpa using hadded

theorem admitRounds_of_admitRound_eq_self (h : admitRound types finite = finite) :
    admitRounds types rounds finite = finite := by
  induction rounds with
  | zero => rfl
  | succ rounds ih => rw [admitRounds, h, ih]

/-- After as many rounds as there are types left, the set is closed. -/
theorem closedFor_admitRounds (h : (remaining types finite).length ≤ rounds) :
    ClosedFor types (admitRounds types rounds finite) := by
  induction rounds generalizing finite with
  | zero =>
    intro t ht _
    rw [admitRounds]
    by_contra hnew
    have hmem : t ∈ remaining types finite := List.mem_filter.2 ⟨ht, by simpa using hnew⟩
    exact absurd (List.length_pos_of_mem hmem) (by omega)
  | succ rounds ih =>
    by_cases hsame : admitRound types finite = finite
    · rw [admitRounds_of_admitRound_eq_self hsame]
      exact closedFor_of_admitRound_eq_self hsame
    · have hfewer := length_remaining_admitRound_lt hsame
      rw [admitRounds]
      exact ih (by omega)

/-- The types that were found are all that have a finite value. -/
theorem closedFor_finiteTypes : ClosedFor types (finiteTypes types) :=
  closedFor_admitRounds (List.length_filter_le ..)

theorem forall_mem_admitRound {P : String → Prop}
    (step : ∀ finite, (∀ name ∈ finite, P name) → ∀ t ∈ types,
      t.schema.hasFiniteValue finite = true → P t.name)
    (h : ∀ name ∈ finite, P name) : ∀ name ∈ admitRound types finite, P name := by
  unfold admitRound
  induction types generalizing finite with
  | nil => exact h
  | cons t rest ih =>
    refine ih (fun finite h t ht => step finite h t (List.mem_cons_of_mem _ ht)) ?_
    rcases admitType_eq_self_or with ⟨hsame, -⟩ | ⟨hadded, -, hfinite⟩
    · rw [hsame]
      exact h
    · rw [hadded]
      intro name hname
      rcases List.mem_append.1 hname with hname | hname
      · exact h name hname
      · rw [List.mem_singleton.1 hname]
        exact step finite h t List.mem_cons_self hfinite

/-- What holds of a type that has a finite value, given types that it holds of, holds of all types that
were found. -/
theorem finiteTypes_induction {P : String → Prop}
    (step : ∀ finite, (∀ name ∈ finite, P name) → ∀ t ∈ types,
      t.schema.hasFiniteValue finite = true → P t.name) :
    ∀ name ∈ finiteTypes types, P name := by
  have hrounds : ∀ rounds finite, (∀ name ∈ finite, P name) →
      ∀ name ∈ admitRounds types rounds finite, P name := by
    intro rounds
    induction rounds with
    | zero => exact fun _ h => h
    | succ rounds ih => exact fun finite h => ih _ (forall_mem_admitRound step h)
  exact hrounds types.length [] fun name hname => absurd hname List.not_mem_nil

/-- Only the names and the schemas of types matter, not their order. -/
theorem finiteTypes_mono {types' : List NamedType}
    (h : ∀ t ∈ types, ∃ t' ∈ types', t'.name = t.name ∧ t'.schema = t.schema) :
    ∀ name ∈ finiteTypes types, name ∈ finiteTypes types' := by
  refine finiteTypes_induction fun finite hfinite t ht hvalue => ?_
  obtain ⟨t', ht', hname, hschema⟩ := h t ht
  have hvalue' : t'.schema.hasFiniteValue (finiteTypes types') = true :=
    Schema.hasFiniteValue_mono hfinite (hschema ▸ hvalue)
  exact hname ▸ closedFor_finiteTypes t' ht' hvalue'

/-- Types are all found if others with the same names and schemas are. -/
theorem forall_mem_finiteTypes_of_same {types' : List NamedType}
    (h : ∀ t ∈ types, ∃ t' ∈ types', t'.name = t.name ∧ t'.schema = t.schema)
    (h' : ∀ t' ∈ types', ∃ t ∈ types, t.name = t'.name)
    (hfinite : ∀ t ∈ types, t.name ∈ finiteTypes types) : ∀ t ∈ types', t.name ∈ finiteTypes types' := by
  intro t' ht'
  obtain ⟨t, ht, hname⟩ := h' t' ht'
  exact finiteTypes_mono h _ (hname ▸ hfinite t ht)

end Rounds

/-! ## Values that conform -/

/-- A schema that a value conforms to has a finite value, given the types that were found. -/
theorem Conforms.hasFiniteValue {allowed : Nat → Prop} {depth : Nat} {schema : Schema}
    {registry : Registry} {value : Value} (h : Conforms allowed depth schema registry value) :
    schema.hasFiniteValue (finiteTypes registry.types) = true := by
  induction h with
  | const | primitive | anything => rfl
  | enum _ hmem _ => exact Schema.hasFiniteValue_enum_iff.2 (List.ne_nil_of_mem hmem)
  | object _ hrequired _ _ ih =>
    rw [Schema.hasFiniteValue_object_iff]
    intro field hfield hrequiredField
    obtain ⟨value, hvalue⟩ := Option.isSome_iff_exists.1 (hrequired field hfield hrequiredField)
    exact ih field hfield value hvalue
  | tuple _ hlen _ ih =>
    rw [Schema.hasFiniteValue_tuple_iff]
    intro schema hschema
    obtain ⟨index, hindex, rfl⟩ := List.mem_iff_getElem.1 hschema
    exact ih _ _ (List.mem_iff_getElem.2 ⟨index, by simp [hlen, hindex], List.getElem_zip⟩)
  | @array _ _ _ minItems _ items _ hmin _ _ ih =>
    rw [Schema.hasFiniteValue_array_iff]
    cases minItems with
    | none => exact .inl rfl
    | some least =>
      have hleast := hmin least rfl
      cases items with
      | nil => exact .inl (Nat.le_zero.1 hleast)
      | cons item rest => exact .inr (ih item List.mem_cons_self)
  | union _ hmem _ ih => exact Schema.hasFiniteValue_union_iff.2 ⟨_, hmem, ih⟩
  | reference _ hlookup _ ih =>
    rw [Schema.hasFiniteValue_reference_iff]
    obtain ⟨hlocal, ⟨-, rfl⟩ | ⟨key, hdocument, -⟩⟩ := Registry.lookup_eq_some hlookup
    · obtain ⟨hnamed, hname⟩ := Registry.mem_of_local? hlocal
      exact .inr (hname ▸ closedFor_finiteTypes _ hnamed ih)
    · exact .inl (hdocument ▸ rfl)

/-- The check accepts types that were all found. -/
theorem checkInhabited_ok_iff {locate : String → String} {types : List NamedType} :
    checkInhabited locate types = .ok () ↔ ∀ t ∈ types, t.name ∈ finiteTypes types := by
  have hnone : types.find? (fun t => decide (t.name ∉ finiteTypes types)) = none ↔
      ∀ t ∈ types, t.name ∈ finiteTypes types := by simp
  unfold checkInhabited
  dsimp only
  rw [← hnone]
  split
  · next h => exact iff_of_true rfl h
  · next first h =>
    rw [h]
    exact iff_of_false (by simp) (by simp)

/-- Types are refused only if one of them was not found, and no value whatsoever is accepted for a type
that was not found: not at any depth, and whatever other documents there are. -/
theorem checkInhabited_error_justified {locate : String → String} {types : List NamedType}
    {e : Error} (h : checkInhabited locate types = .error e) :
    (∃ t ∈ types, t.name ∉ finiteTypes types) ∧
      ∀ t ∈ types, t.name ∉ finiteTypes types → ∀ externals maxDepth value,
        Validator.check ⟨.reference (.inside t.name), ⟨types, externals⟩, maxDepth⟩ value ≠
          .ok () := by
  constructor
  · by_contra hall
    have hfound : ∀ t ∈ types, t.name ∈ finiteTypes types := fun t ht =>
      by_contra fun hnew => hall ⟨t, ht, hnew⟩
    rw [checkInhabited_ok_iff.2 hfound] at h
    cases h
  · intro t _ hnew externals maxDepth value hok
    have hfinite := ((check_ok_iff_conforms _ _).1 hok).hasFiniteValue
    rw [Schema.hasFiniteValue_reference_iff] at hfinite
    rcases hfinite with hdocument | hmem
    · cases hdocument
    · exact hnew hmem

namespace Sample

/-- Nodes that need a further node, through a pair, and a type that needs such a node. -/
def endless : List NamedType :=
  [⟨"node", "", .tuple [.anything, .reference (.inside "node")]⟩,
    ⟨"holder", "", .object [⟨"node", .reference (.inside "node"), true⟩] false⟩,
    ⟨"leaf", "", .union [.reference (.inside "node"), .const .null]⟩]

end Sample

/-- Of these types only the leaves have values. -/
theorem checkInhabited_endless : ∃ e, checkInhabited id Sample.endless = .error e ∧
    ∀ name, name = "node" ∨ name = "holder" → ∀ externals maxDepth value,
      Validator.check ⟨.reference (.inside name), ⟨Sample.endless, externals⟩, maxDepth⟩ value ≠
        .ok () := by
  cases hcheck : checkInhabited id Sample.endless with
  | ok =>
    rw [checkInhabited_ok_iff] at hcheck
    exact absurd hcheck (by decide)
  | error e =>
    refine ⟨e, rfl, fun name hname => ?_⟩
    have hnone := (checkInhabited_error_justified hcheck).2
    rcases hname with rfl | rfl
    · exact hnone _ (List.mem_cons_self) (by decide)
    · exact hnone _ (List.mem_cons_of_mem _ List.mem_cons_self) (by decide)

end ServiceContract
