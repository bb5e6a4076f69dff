import ServiceContract.Proofs.Document.Wiring

/-!
# What borrowed schemas accept

A fragment that is borrowed from another document is checked over the registry of the borrower. The
walk over it asks that registry for other references than the walk at home does, but the same types
are found, at home in the same registries. From the first reference on both walks are one; up to
there they differ in nothing that a violation tells: the forms of schemas, the names of fields and
the numbers of alternatives are kept.
-/

namespace ServiceContract

open Json (Value Members)

/-! ## The form of a borrowed schema -/

namespace Schema

variable {document : String} {s part whole : Schema} {target : TypeRef}

@[simp] theorem kindName_rebase : (s.rebase document).kindName = s.kindName := by
  cases s with
  | reference target => rw [rebase_reference]; rfl
  | object fields closed => rw [rebase_object]; rfl
  | tuple items => rw [rebase_tuple]; rfl
  | array items minItems maxItems => rw [rebase_array]; rfl
  | union alternatives => rw [rebase_union]; rfl
  | const | enum | primitive | anything => rfl

@[simp] theorem isNull_rebase : (s.rebase document).isNull = s.isNull := by
  cases s with
  | reference target => rw [rebase_reference]; rfl
  | object fields closed => rw [rebase_object]; rfl
  | tuple items => rw [rebase_tuple]; rfl
  | array items minItems maxItems => rw [rebase_array]; rfl
  | union alternatives => rw [rebase_union]; rfl
  | const | enum | primitive | anything => rfl

theorem isNullableUnion_map_rebase {alternatives : List Schema} :
    (union (alternatives.map (rebase document))).isNullableUnion =
      (union alternatives).isNullableUnion := by
  have hnull : (isNull ∘ rebase document) = isNull := funext fun s => isNull_rebase
  rw [isNullableUnion, isNullableUnion, List.length_map, List.any_map, hnull]

/-- What stands in parts of parts of a schema stands in the schema. -/
theorem Mentions.of_parts (hparts : Relation.ReflTransGen IsPart part whole)
    (h : part.Mentions target) : whole.Mentions target := by
  induction hparts with
  | refl => exact h
  | tail _ hpart ih => exact .part hpart ih

end Schema

/-! ## Checks of borrowed parts -/

section Parts

variable {document : String} {check check' : Schema → Value → Checked}

theorem checkFields_rebase {members : Members} {fields : List Field}
    (h : ∀ field ∈ fields, check (field.schema.rebase document) = check' field.schema) :
    checkFields check members (fields.map (Schema.rebaseField document)) =
      checkFields check' members fields := by
  induction fields with
  | nil => rfl
  | cons field rest ih =>
    obtain ⟨name, schema, required⟩ := field
    have hhead : check (schema.rebase document) = check' schema := h _ (List.mem_cons_self ..)
    have hrest := ih fun field hfield => h field (List.mem_cons_of_mem _ hfield)
    rw [List.map_cons, Schema.rebaseField]
    unfold checkFields
    rw [hhead, hrest]

theorem checkClosed_rebase {members : Members} {fields : List Field} :
    checkClosed (fields.map (Schema.rebaseField document)) members =
      checkClosed fields members := by
  have hany : ∀ key : String, (fields.map (Schema.rebaseField document)).any (·.name == key) =
      fields.any (·.name == key) := fun key => List.any_map ..
  unfold checkClosed
  simp only [hany]

theorem checkPositions_rebase {index : Nat} {schemas : List Schema} {values : List Value}
    (h : ∀ schema ∈ schemas, check (schema.rebase document) = check' schema) :
    checkPositions check index (schemas.map (Schema.rebase document)) values =
      checkPositions check' index schemas values := by
  induction schemas generalizing index values with
  | nil => cases values <;> rfl
  | cons schema rest ih =>
    cases values with
    | nil => rfl
    | cons value values =>
      rw [List.map_cons, checkPositions, checkPositions, h _ (List.mem_cons_self ..),
        ih fun schema hschema => h schema (List.mem_cons_of_mem _ hschema)]

theorem firstAccepting_rebase {accepts accepts' : Schema → Checked} {index : Nat}
    {alternatives : List Schema}
    (h : ∀ schema ∈ alternatives, accepts (schema.rebase document) = accepts' schema) :
    firstAccepting accepts index (alternatives.map (Schema.rebase document)) =
      firstAccepting accepts' index alternatives := by
  induction alternatives generalizing index with
  | nil => rfl
  | cons schema rest ih =>
    rw [List.map_cons, firstAccepting, firstAccepting, h _ (List.mem_cons_self ..),
      ih fun schema hschema => h schema (List.mem_cons_of_mem _ hschema)]

theorem alternativeDetails_rebase {nullable : Bool} {index : Nat} {alternatives : List Schema}
    {reasons : List Violation} :
    alternativeDetails nullable index (alternatives.map (Schema.rebase document)) reasons =
      alternativeDetails nullable index alternatives reasons := by
  induction alternatives generalizing index reasons with
  | nil => rfl
  | cons schema rest ih =>
    cases reasons with
    | nil => rfl
    | cons reason reasons =>
      rw [List.map_cons, alternativeDetails, alternativeDetails, Schema.isNull_rebase,
        Schema.kindName_rebase, ih]

theorem noAlternative_rebase {alternatives : List Schema} {reasons : List Violation} :
    noAlternative (alternatives.map (Schema.rebase document)) reasons =
      noAlternative alternatives reasons := by
  rw [noAlternative, noAlternative, alternativeDetails_rebase, Schema.isNullableUnion_map_rebase]

end Parts

/-! ## The walk over a borrowed schema -/

/-- The registry has what another one has, seen from outside its document. -/
structure Registry.Imports (importer : Registry) (document : String) (registry : Registry) :
    Prop where
  /-- The registry itself is under the key of the document. -/
  own : importer.externals.lookup document = some registry
  /-- The registries that it reaches are under the same keys. -/
  reached : Extends registry.externals importer.externals

namespace Registry

variable {importer registry : Registry} {document : String} {target : TypeRef}

/-- A reference that is found at home is found outside, as the same type of the same registry. -/
theorem Imports.lookup_outside (h : importer.Imports document registry)
    (hfound : (registry.lookup target).isSome) :
    importer.lookup (target.outside document) = registry.lookup target := by
  obtain ⟨other, name⟩ := target
  cases other with
  | none =>
    have hdocument : (TypeRef.outside document ⟨none, name⟩).document = some document := rfl
    rw [lookup_other hdocument h.own, lookup_own rfl]
    rfl
  | some key =>
    obtain ⟨⟨named, home⟩, hlookup⟩ := Option.isSome_iff_exists.1 hfound
    obtain ⟨-, ⟨hdocument, -⟩ | ⟨_, hdocument, hhome⟩⟩ := lookup_eq_some hlookup
    · cases hdocument
    · cases hdocument
      rw [lookup_other rfl hhome, lookup_other rfl (h.reached key home hhome)]
      rfl

end Registry

section Walk

variable {importer registry : Registry} {document : String} {schema : Schema} {value : Value}
  {maxDepth levels : Nat}

/-- The walk over a borrowed schema is the walk over the schema, if the registry of the borrower has
what the registry at home has and all references of the schema are found there. -/
theorem walk_rebase (himports : importer.Imports document registry)
    (hfound : ∀ target, schema.Mentions target → (registry.lookup target).isSome) :
    walk maxDepth levels (schema.rebase document) importer value =
      walk maxDepth levels schema registry value := by
  induction levels generalizing schema value with
  | zero => rw [walk_no_levels, walk_no_levels]
  | succ levels ih =>
    have hpart : ∀ part, Schema.IsPart part schema →
        walk maxDepth levels (part.rebase document) importer =
          walk maxDepth levels part registry :=
      fun part hpart => funext fun value => ih fun target hm => hfound target (.part hpart hm)
    cases schema with
    | const | enum | primitive | anything => rfl
    | object fields closed =>
      rw [Schema.rebase_object]
      cases value with
      | object members =>
        have hfields : checkFields (fun part value => walk maxDepth levels part importer value)
              members (fields.map (Schema.rebaseField document)) =
            checkFields (fun part value => walk maxDepth levels part registry value) members
              fields :=
          checkFields_rebase fun field hfield => hpart field.schema (.field hfield)
        unfold walk
        dsimp only
        rw [hfields, checkClosed_rebase]
      | null | bool | number | string | array => rfl
    | tuple schemas =>
      rw [Schema.rebase_tuple]
      cases value with
      | array items =>
        have hitems : checkPositions (fun part value => walk maxDepth levels part importer value) 0
              (schemas.map (Schema.rebase document)) items =
            checkPositions (fun part value => walk maxDepth levels part registry value) 0 schemas
              items :=
          checkPositions_rebase fun part hmem => hpart part (.position hmem)
        unfold walk
        dsimp only
        rw [hitems, List.length_map]
      | null | bool | number | string | object => rfl
    | array item minItems maxItems =>
      rw [Schema.rebase_array]
      cases value with
      | array items =>
        unfold walk
        dsimp only
        rw [hpart item .item]
      | null | bool | number | string | object => rfl
    | union alternatives =>
      have hfirst : firstAccepting (fun part => walk maxDepth levels part importer value) 0
            (alternatives.map (Schema.rebase document)) =
          firstAccepting (fun part => walk maxDepth levels part registry value) 0 alternatives :=
        firstAccepting_rebase fun part hmem => congrFun (hpart part (.alternative hmem)) value
      rw [Schema.rebase_union]
      unfold walk
      dsimp only
      rw [hfirst]
      simp only [noAlternative_rebase]
    | reference target =>
      have htarget := hfound target .reference
      obtain ⟨⟨named, home⟩, hlookup⟩ := Option.isSome_iff_exists.1 htarget
      -- The type behind the reference is the same, and so is the registry that it is at home in.
      have hsame := (himports.lookup_outside htarget).trans hlookup
      rw [Schema.rebase_reference]
      unfold walk
      dsimp only
      rw [hsame, hlookup]

end Walk

/-! ## Schemas of stored interfaces -/

/-- In the stores that operations lead to all references are known. -/
theorem Store.Reachable.wired {s : Store} (hs : s.Reachable fun _ => True) : s.Sound wiring :=
  hs.sound (fun source _ => wiring_respects source.loader) ⟨Loader.ofDocuments [], wiring_respects _⟩

/-- Borrowing keeps what a schema accepts. Whatever a store went through before, a schema that stands
somewhere in an interface that was asked for, borrowed by a document whose registry has that of the
interface under its key and those that it reaches, is checked with the same result as at home:
the same values are accepted, and others are refused at the same place for the same reason. -/
theorem Registry.Imports.walk_rebase_eq {importer : Registry} {key : String} {i : Interface}
    (himports : importer.Imports key i.registry) {source : Source} {name : String} {s s' : Store}
    (hs : s.Reachable fun _ => True) (h : source.interface name s = .ok i s')
    {whole schema : Schema} (hwhole : i.HasSchema whole)
    (hparts : Relation.ReflTransGen Schema.IsPart schema whole) (maxDepth levels : Nat)
    (value : Value) :
    walk maxDepth levels (schema.rebase key) importer value =
      walk maxDepth levels schema i.registry value := by
  obtain ⟨hs', -, _, -, hi⟩ := (Source.interface_runs (wiring_respects source.loader) hs.wired).ok h
  have hattached : i.AttachedTo s' := attachedTo_of_lookup hs' hi
  exact walk_rebase himports fun target hm =>
    hattached.isSome_lookup hs' hwhole (hm.of_parts hparts)

/-- A node that leads to a text. -/
def Sample.strayNode : Value := .object [("next", .string "end")]

/-- The fragment for nodes refuses a node that leads to a text, in the document for lists as at home,
since the registry of the lists has that of the nodes. -/
theorem Registry.Imports.walk_rebase_eq_nodes :
    ∃ l s i s' schema, Sample.source.interface "lists.json" .empty = .ok l s ∧
      Sample.source.interface "nodes.json" s = .ok i s' ∧
      l.registry.Imports "nodes.json" i.registry ∧ i.HasSchema schema ∧
      walk 7 8 schema i.registry Sample.strayNode =
        .error ⟨[.field "next"], "expected object, found string"⟩ ∧
      walk 7 8 (schema.rebase "nodes.json") l.registry Sample.strayNode =
        walk 7 8 schema i.registry Sample.strayNode := by
  have hlists : ((result? (Sample.source.interface "lists.json") .empty).bind
      fun l => l.registry.externals.lookup "nodes.json").isSome := by decide +kernel
  have hnodes : ((result? (Sample.source.interface "nodes.json")
      (stateAfter (Sample.source.interface "lists.json") .empty)).bind fun i =>
        if i.registry.externals.isEmpty then
          (i.fragment? "any-node").map fun schema => walk 7 8 schema i.registry Sample.strayNode
        else none) = some (.error ⟨[.field "next"], "expected object, found string"⟩) := by
    decide +kernel
  obtain ⟨home, hhome⟩ := Option.isSome_iff_exists.1 hlists
  obtain ⟨l, hl, hhome⟩ := Option.bind_eq_some_iff.1 hhome
  obtain ⟨s, hlists⟩ := result?_eq_some.1 hl
  have hafter : stateAfter (Sample.source.interface "lists.json") .empty = s := by
    unfold stateAfter
    rw [hlists]
  rw [hafter] at hnodes
  obtain ⟨i, hi, hnodes⟩ := Option.bind_eq_some_iff.1 hnodes
  obtain ⟨s', hnodes'⟩ := result?_eq_some.1 hi
  obtain ⟨hexternals, hnodes⟩ := Option.ite_none_right_eq_some.1 hnodes
  obtain ⟨schema, hschema, hwalk⟩ := Option.map_eq_some_iff.1 hnodes
  have hreachable : s.Reachable fun _ => True := hafter ▸ .interface "lists.json" trivial .empty
  have himports : l.registry.Imports "nodes.json" i.registry := by
    have hempty : Store.Reachable (fun _ => True) .empty := .empty
    have hsound := hreachable.wired
    obtain ⟨-, -, _, -, hl⟩ := (Source.interface_runs (wiring_respects _) hempty.wired).ok hlists
    obtain ⟨-, hgrows, key, hkey, hi⟩ := (Source.interface_runs (wiring_respects _) hsound).ok hnodes'
    have hnormal : Sample.source.loader.resolveKey none "nodes.json" = .ok "nodes.json" := by
      decide +kernel
    cases hnormal.symm.trans hkey
    -- The registry that the lists reach is the one that the store had when they were resolved.
    obtain ⟨j, hj, rfl⟩ := (attachedTo_of_lookup hsound hl).coherent hsound (mem_of_lookup hhome)
    cases (hgrows.resolved _ _ hj).symm.trans hi
    refine ⟨hhome, fun other far hfar => ?_⟩
    rw [List.isEmpty_iff.1 hexternals] at hfar
    cases hfar
  have hwhole : i.HasSchema schema := .fragment (mem_of_lookup hschema)
  exact ⟨l, s, i, s', schema, hlists, hnodes', himports, hwhole, hwalk,
    walk_rebase_eq himports hreachable hnodes' hwhole .refl 7 8 Sample.strayNode⟩

end ServiceContract
