import Mathlib.Data.List.Perm.Basic
import ServiceContract.Proofs.Document.Resolvable

/-!
# The order of declarations

The declarations of a document, the arguments of its functions and its reusable fragments may stand in
another order. Resolution goes through them in order and remembers on its way, but where no other
document is named, what it comes to is told of each declaration by itself.
-/

namespace ServiceContract

open Json (Value Members)

/-! ## Documents in another order -/

namespace RawDocument

/-- The second value is the first one, or both are lists, with the same items in another order up to how
each item is related to what it was. -/
inductive ListRearranged (related : Value → Value → Prop) : Value → Value → Prop where
  /-- Nothing is rearranged. -/
  | same (raw : Value) : ListRearranged related raw raw
  /-- Two lists. -/
  | list {items between items' : List Value} (horder : items.Perm between)
      (hitems : List.Forall₂ related between items') :
      ListRearranged related (.array items) (.array items')

/-- The second value is the first one, or both are mappings, with the same members in another order. -/
inductive MappingRearranged : Value → Value → Prop where
  /-- Nothing is rearranged. -/
  | same (raw : Value) : MappingRearranged raw raw
  /-- Two mappings, in which no key comes twice. -/
  | mapping {members members' : Members} (hkeys : (members.map Prod.fst).Nodup)
      (horder : members.Perm members') : MappingRearranged (.object members) (.object members')

/-- The second value is the first one, or both are mappings, with members that are related key by key. -/
inductive MembersRearranged (related : (key : String) → Value → Value → Prop) : Value → Value → Prop where
  /-- Nothing is rearranged. -/
  | same (raw : Value) : MembersRearranged related raw raw
  /-- Two mappings. -/
  | mapping {members members' : Members}
      (hmembers : ∀ key, Option.Rel (related key) (members.lookup key) (members'.lookup key)) :
      MembersRearranged related (.object members) (.object members')

/-- How a member of a function may be rearranged. -/
def FunctionMember (key : String) : Value → Value → Prop :=
  if key = "arguments" then ListRearranged Eq else Eq

/-- A function with its arguments in another order. -/
abbrev FunctionRearranged : Value → Value → Prop := MembersRearranged FunctionMember

/-- How a member of a document may be rearranged. -/
def DocumentMember (key : String) : Value → Value → Prop :=
  if key = "types" ∨ key = "messages" then ListRearranged Eq
  else if key = "functions" then ListRearranged FunctionRearranged
  else if key = "schemas" then MappingRearranged
  else Eq

/-- A document with its types, functions, messages and fragments and the arguments of its functions in
another order. -/
abbrev Rearranged : Value → Value → Prop := MembersRearranged DocumentMember

/-! What is rearranged can be put back. -/

section Symm

variable {raw raw' : Value}

theorem ListRearranged.symm {related : Value → Value → Prop}
    (hsymm : ∀ {a b}, related a b → related b a) (h : ListRearranged related raw raw') :
    ListRearranged related raw' raw := by
  cases h with
  | same => exact .same _
  | list horder hitems =>
    obtain ⟨between, hitems, horder⟩ := List.perm_comp_forall₂ horder hitems
    exact .list horder.symm (hitems.flip.imp fun _ _ => hsymm)

theorem MappingRearranged.symm (h : MappingRearranged raw raw') : MappingRearranged raw' raw := by
  cases h with
  | same => exact .same _
  | mapping hkeys horder => exact .mapping ((horder.map Prod.fst).nodup_iff.1 hkeys) horder.symm

theorem MembersRearranged.symm {related : (key : String) → Value → Value → Prop}
    (hsymm : ∀ {key a b}, related key a b → related key b a) (h : MembersRearranged related raw raw') :
    MembersRearranged related raw' raw := by
  cases h with
  | same => exact .same _
  | mapping hmembers => exact .mapping fun key => rel_flip (hmembers key) hsymm

theorem FunctionRearranged.symm (h : FunctionRearranged raw raw') : FunctionRearranged raw' raw := by
  refine MembersRearranged.symm (fun {key _ _} h => ?_) h
  unfold FunctionMember at h ⊢
  split_ifs at h ⊢
  · exact h.symm Eq.symm
  · exact h.symm

theorem Rearranged.symm (h : Rearranged raw raw') : Rearranged raw' raw := by
  refine MembersRearranged.symm (fun {key _ _} h => ?_) h
  unfold DocumentMember at h ⊢
  split_ifs at h ⊢
  · exact h.symm Eq.symm
  · exact h.symm FunctionRearranged.symm
  · exact MappingRearranged.symm h
  · exact h.symm

end Symm

/-! ## What the order is not part of -/

section Members

variable {raw raw' : Value} {related : Value → Value → Prop} {found found' : Option Value}

theorem MembersRearranged.of_forall₂ {related : (key : String) → Value → Value → Prop}
    {members members' : Members}
    (h : List.Forall₂ (fun entry entry' => entry'.1 = entry.1 ∧ related entry.1 entry.2 entry'.2) members
      members') : MembersRearranged related (.object members) (.object members') :=
  .mapping (rel_lookup h)

theorem MembersRearranged.member? {related : (key : String) → Value → Value → Prop}
    (hself : ∀ key raw, related key raw raw) (h : MembersRearranged related raw raw') (key : String) :
    Option.Rel (related key) (raw.member? key) (raw'.member? key) := by
  cases h with
  | same => exact rel_self (hself key) _
  | mapping hmembers => exact hmembers key

/-- The items of lists that are rearranged. -/
theorem exists_between (hself : ∀ a, related a a) (h : Option.Rel (ListRearranged related) found found') :
    ∃ between, ((found.bind Value.array?).getD []).Perm between ∧
      List.Forall₂ related between ((found'.bind Value.array?).getD []) := by
  have hsame : ∀ items : List Value, List.Forall₂ related items items :=
    fun _ => List.forall₂_same.2 fun a _ => hself a
  cases h with
  | none => exact ⟨[], .refl _, .nil⟩
  | some h =>
    cases h with
    | same => exact ⟨_, .refl _, hsame _⟩
    | list horder hitems => exact ⟨_, horder, hitems⟩

theorem perm_of_rearranged (h : Option.Rel (ListRearranged Eq) found found') :
    ((found.bind Value.array?).getD []).Perm ((found'.bind Value.array?).getD []) := by
  obtain ⟨between, horder, hitems⟩ := exists_between (fun _ => rfl) h
  rw [List.forall₂_eq_eq_eq] at hitems
  exact hitems ▸ horder

theorem IsSection.of_rearranged (h : Option.Rel (ListRearranged related) found found')
    (hrelated : ∀ {item item'}, related item item' → (∃ members, item = .object members ∧
      IsDeclaration members) → ∃ members, item' = .object members ∧ IsDeclaration members)
    (hsection : IsSection found) : IsSection found' := by
  cases h with
  | none => exact .inl rfl
  | some h =>
    cases h with
    | same => exact hsection
    | list horder hitems =>
      obtain ⟨items, ⟨⟩, hdeclarations⟩ := hsection.resolve_left (by simp)
      refine .inr ⟨_, rfl, fun item' hitem' => ?_⟩
      obtain ⟨item, hitem, hrel⟩ := exists_of_forall₂_right hitems hitem'
      exact hrelated hrel (hdeclarations item (horder.mem_iff.2 hitem))

theorem member?_of_mappingRearranged {a b : Value} (h : MappingRearranged a b) (key : String) :
    b.member? key = a.member? key := by
  cases h with
  | same => rfl
  | mapping hkeys horder => exact lookup_of_perm hkeys horder

theorem declaration?_of_perm {declarations declarations' : List Value} {name : String}
    (hnames : (declarations.map name?).Nodup) (horder : declarations.Perm declarations') :
    declaration? declarations' name = declaration? declarations name :=
  find?_of_perm hnames horder

end Members

namespace FunctionRearranged

variable {f f' : Value} (h : FunctionRearranged f f')

include h

theorem member (key : String) : Option.Rel (FunctionMember key) (f.member? key) (f'.member? key) := by
  refine MembersRearranged.member? (fun key raw => ?_) h key
  unfold FunctionMember
  split
  · exact .same raw
  · rfl

theorem sections : Option.Rel (ListRearranged Eq) (f.member? "arguments") (f'.member? "arguments") :=
  h.member "arguments"

/-- The arguments are the same up to their order. -/
theorem arguments : (list "arguments" f).Perm (list "arguments" f') :=
  perm_of_rearranged h.sections

/-- Nothing else is rearranged. -/
theorem other {key : String} (hkey : key ≠ "arguments") : f'.member? key = f.member? key := by
  have hmember := h.member key
  unfold FunctionMember at hmember
  rw [if_neg hkey] at hmember
  exact eq_of_rel_eq hmember

theorem name : name? f' = name? f := by
  unfold name?
  rw [h.other (by decide)]

theorem isDeclaration (hdeclared : ∃ members, f = .object members ∧ IsDeclaration members) :
    ∃ members, f' = .object members ∧ IsDeclaration members := by
  have hname : f'.member? "name" = f.member? "name" := h.other (by decide)
  have hdescription : f'.member? "description" = f.member? "description" := h.other (by decide)
  obtain ⟨members, rfl, hdeclaration⟩ := hdeclared
  cases h with
  | same => exact ⟨members, rfl, hdeclaration⟩
  | @mapping _ members' _ =>
    rw [member?_object, member?_object] at hname hdescription
    exact ⟨members', rfl, hname ▸ hdeclaration.name, hdescription ▸ hdeclaration.description⟩

end FunctionRearranged

namespace Rearranged

variable {raw raw' : Value} (h : Rearranged raw raw')

include h

theorem member (key : String) : Option.Rel (DocumentMember key) (raw.member? key) (raw'.member? key) := by
  refine MembersRearranged.member? (fun key raw => ?_) h key
  unfold DocumentMember
  split_ifs
  · exact .same raw
  · exact .same raw
  · exact .same raw
  · rfl

theorem service : raw'.member? "service" = raw.member? "service" :=
  eq_of_rel_eq (h.member "service")

/-- The types are the same up to their order. -/
theorem types : (list "types" raw).Perm (list "types" raw') :=
  perm_of_rearranged (h.member "types")

/-- So are the messages. -/
theorem messages : (list "messages" raw).Perm (list "messages" raw') :=
  perm_of_rearranged (h.member "messages")

/-- The functions are the same up to their order and that of their arguments. -/
theorem functions : ∃ between, (list "functions" raw).Perm between ∧
    List.Forall₂ FunctionRearranged between (list "functions" raw') :=
  exists_between MembersRearranged.same (h.member "functions")

theorem exists_function {f' : Value} (hf' : f' ∈ list "functions" raw') :
    ∃ f ∈ list "functions" raw, FunctionRearranged f f' := by
  obtain ⟨between, horder, hitems⟩ := h.functions
  obtain ⟨f, hf, hrel⟩ := exists_of_forall₂_right hitems hf'
  exact ⟨f, horder.mem_iff.2 hf, hrel⟩

/-- The fragments are the same. -/
theorem fragment (key : String) : schemaAt? raw' (.fragment key) = schemaAt? raw (.fragment key) := by
  have hschemas : Option.Rel MappingRearranged (raw.member? "schemas") (raw'.member? "schemas") :=
    h.member "schemas"
  unfold schemaAt?
  generalize raw.member? "schemas" = found at hschemas ⊢
  generalize raw'.member? "schemas" = found' at hschemas ⊢
  cases hschemas with
  | none => rfl
  | some hmapping => exact member?_of_mappingRearranged hmapping key

/-! Documents are well formed together. -/

theorem isFormed (hformed : IsFormed raw) : IsFormed raw' where
  service := by
    rw [h.service]
    exact hformed.service
  types := hformed.types.of_rearranged (h.member "types") fun heq hdeclared => heq ▸ hdeclared
  functions := hformed.functions.of_rearranged (h.member "functions") FunctionRearranged.isDeclaration
  messages := hformed.messages.of_rearranged (h.member "messages") fun heq hdeclared => heq ▸ hdeclared
  arguments f' hf' := by
    obtain ⟨f, hf, hrel⟩ := h.exists_function hf'
    exact (hformed.arguments f hf).of_rearranged hrel.sections fun heq hdeclared => heq ▸ hdeclared
  fragments := by
    have hschemas : Option.Rel MappingRearranged (raw.member? "schemas") (raw'.member? "schemas") :=
      h.member "schemas"
    have hfragments := hformed.fragments
    generalize raw.member? "schemas" = found at hschemas hfragments
    generalize raw'.member? "schemas" = found' at hschemas ⊢
    cases hschemas with
    | none => exact .inl rfl
    | some hmapping =>
      cases hmapping with
      | same => exact hfragments
      | mapping => exact .inr ⟨_, rfl⟩

theorem separates {rules : IdentifierRules} (hapart : rules.Separates (listing raw)) :
    rules.Separates (listing raw') where
  callables := by
    obtain ⟨between, horder, hitems⟩ := h.functions
    have hdeclared : ∀ functions : List Value, (functions.map fun f => (declared .function f,
        (list "arguments" f).map (declared .field))).map Prod.fst = functions.map (declared .function) :=
      fun functions => by rw [List.map_map]; rfl
    have hsame : between.map (declared .function) = (list "functions" raw').map (declared .function) :=
      map_eq_map_of_forall₂ hitems fun _ _ hrel => by rw [declared, declared, hrel.name]
    refine hapart.callables.perm ?_
    unfold Listing.callables listing
    dsimp only
    rw [hdeclared, hdeclared, ← hsame]
    exact ((h.types.map _).append (horder.map _)).append (h.messages.map _)
  arguments := by
    intro g hg
    obtain ⟨f', hf', rfl⟩ := List.mem_map.1 hg
    obtain ⟨f, hf, hrel⟩ := h.exists_function hf'
    exact (hapart.arguments _ (List.mem_map_of_mem hf)).perm (hrel.arguments.map _)

/-! The same schemas stand in them, with the same meaning. -/

theorem hasSchema {fragment : Option String} {schema : Value} (hschema : HasSchema raw' fragment schema) :
    HasSchema raw fragment schema := by
  cases hschema with
  | type ht hmember => exact .type (h.types.mem_iff.2 ht) hmember
  | argument hf' ha hmember =>
    obtain ⟨f, hf, hrel⟩ := h.exists_function hf'
    exact .argument hf (hrel.arguments.mem_iff.2 ha) hmember
  | returns hf' hr hmember =>
    obtain ⟨f, hf, hrel⟩ := h.exists_function hf'
    exact .returns hf ((hrel.other (by decide)).symm.trans hr) hmember
  | message hm hmember => exact .message (h.messages.mem_iff.2 hm) hmember
  | fragment hat => exact .fragment ((h.fragment _).symm.trans hat)

theorem namesOnly {named : String → Prop} (hnames : NamesOnly named raw) : NamesOnly named raw' :=
  fun name ⟨fragment, schema, hschema, hentered, hname⟩ =>
    hnames name ⟨fragment, schema, h.hasSchema hschema, hentered, hname⟩

theorem read?_eq : (glossary raw').read? = (glossary raw).read? :=
  Glossary.read?_congr (fun _ => (h.types.filterMap name?).mem_iff.symm) h.fragment

theorem readsDocument {read? : (raw : Value) → Option Schema} (hreads : ReadsDocument read? raw) :
    ReadsDocument read? raw' where
  types := by
    obtain ⟨types, hfinite, htypes⟩ := hreads.types
    obtain ⟨types', htypes', horder⟩ := List.perm_comp_forall₂ h.types.symm htypes
    exact ⟨types', forall_mem_finiteTypes_of_same (fun t ht => ⟨t, horder.mem_iff.2 ht, rfl, rfl⟩)
      (fun t ht => ⟨t, horder.mem_iff.1 ht, rfl⟩) hfinite, htypes'⟩
  functions f' hf' := by
    obtain ⟨f, hf, hrel⟩ := h.exists_function hf'
    obtain ⟨harguments, hreturns⟩ := hreads.functions f hf
    exact ⟨fun a ha => harguments a (hrel.arguments.mem_iff.2 ha),
      fun r hr => hreturns r ((hrel.other (by decide)).symm.trans hr)⟩
  messages m hm := hreads.messages m (h.messages.mem_iff.2 hm)
  fragments key rawSchema hat := hreads.fragments key rawSchema ((h.fragment key).symm.trans hat)

/-- Where names are different, the same raw schema stands at each site. -/
theorem schemaAt?_eq (hdiffer : NamesDiffer raw) (site : Site) :
    schemaAt? raw' site = schemaAt? raw site := by
  have hfunction : ∀ name, Option.Rel (fun f f' => f ∈ list "functions" raw ∧ FunctionRearranged f f')
      (declaration? (list "functions" raw) name) (declaration? (list "functions" raw') name) := by
    intro name
    obtain ⟨between, horder, hitems⟩ := h.functions
    have hfound : declaration? between name = declaration? (list "functions" raw) name :=
      declaration?_of_perm hdiffer.functions horder
    have hrel : Option.Rel FunctionRearranged (declaration? between name)
        (declaration? (list "functions" raw') name) := rel_find? hitems fun hrel => by rw [hrel.name]
    exact rel_mono_of_some (hfound ▸ hrel) fun hf _ hrel => ⟨List.mem_of_find?_eq_some hf, hrel⟩
  cases site with
  | type name =>
    exact congrArg (Option.bind · (Value.member? "schema")) (declaration?_of_perm hdiffer.types h.types)
  | argument function name =>
    refine eq_of_rel_eq (rel_bind (hfunction function) fun ⟨hf, hrel⟩ => ?_)
    rw [declaration?_of_perm (hdiffer.arguments _ hf) hrel.arguments]
    exact rel_self (fun _ => rfl) _
  | returns function =>
    refine eq_of_rel_eq (rel_bind (hfunction function) fun ⟨hf, hrel⟩ => ?_)
    rw [hrel.other (by decide)]
    exact rel_self (fun _ => rfl) _
  | message name =>
    exact congrArg (Option.bind · (Value.member? "schema"))
      (declaration?_of_perm hdiffer.messages h.messages)
  | fragment key => exact h.fragment key

end Rearranged

end RawDocument

/-! ## Resolution -/

section Resolution

variable {σ : Type} {rules : IdentifierRules} {document : Option String} {library : Option (Library σ)}
  {raw raw' : Value} {i i' : Interface} {s s' t t' : σ}

open RawDocument (Rearranged NamesOnly)

theorem exists_resolveDocument_of_rearranged (h : Rearranged raw raw')
    (hlocal : NamesOnly (fun _ => False) raw)
    (hresolved : ∃ i s', resolveDocument rules document library raw s = .ok i s') :
    ∃ i t', resolveDocument rules document library raw' t = .ok i t' := by
  rw [exists_resolveDocument_iff hlocal] at hresolved
  rw [exists_resolveDocument_iff (h.namesOnly hlocal), h.read?_eq]
  obtain ⟨hformed, hapart, hreads⟩ := hresolved
  exact ⟨h.isFormed hformed, h.separates hapart, h.readsDocument hreads⟩

theorem schemaAt?_of_rearranged (h : Rearranged raw raw') (hlocal : NamesOnly (fun _ => False) raw)
    (hi : resolveDocument rules document library raw s = .ok i s')
    (hi' : resolveDocument rules document library raw' t = .ok i' t') (site : Site) :
    i'.schemaAt? site = i.schemaAt? site := by
  obtain ⟨-, hapart, -⟩ := (exists_resolveDocument_iff hlocal).1 ⟨i, s', hi⟩
  have hdiffer := RawDocument.namesDiffer_of_separates hapart
  rw [schemaAt?_of_resolveDocument hlocal hi, schemaAt?_of_resolveDocument (h.namesOnly hlocal) hi',
    h.read?_eq, h.schemaAt?_eq hdiffer]

/-- A site with a reference to a fragment has the schema of the fragment. -/
theorem exists_fragment_of_reference (hlocal : NamesOnly (fun _ => False) raw)
    (hi : resolveDocument rules document library raw s = .ok i s') {site : Site} {members : Members}
    {text key : String} (hsite : RawDocument.schemaAt? raw site = some (.object members))
    (href : members.lookup "$ref" = some (.string text))
    (htext : Reference.ofText text = .ok ⟨none, .fragment key⟩) :
    ∃ schema, i.fragment? key = some schema ∧ i.schemaAt? site = some schema := by
  have hrel := rel_schemaAt?_of_resolveDocument hlocal hi site
  rw [hsite] at hrel
  generalize hfound : i.schemaAt? site = found at hrel ⊢
  cases hrel with
  | @some _ schema hread =>
    have hkey : i.fragment? key = some schema := calc
      i.fragment? key = (RawDocument.glossary raw).schema? key :=
        schemaAt?_of_resolveDocument hlocal hi (.fragment key)
      _ = (RawDocument.glossary raw).read? (.object members) :=
        (Glossary.read?_reference href htext).symm
      _ = some schema := hread
    exact ⟨schema, hkey, rfl⟩

end Resolution

/-- Resolution does not depend on the order of declarations. If a document refers to no other one, it
and any rearrangement of it are resolved both or none, from whatever states. When they are, the same
schema stands at each site, and wherever the raw schema is a reference to a fragment of the document,
this is the schema that the interface has for the fragment. -/
theorem resolveDocument_of_rearranged {σ : Type} (rules : IdentifierRules) (document : Option String)
    (library : Option (Library σ)) (raw raw' : Value) (h : RawDocument.Rearranged raw raw')
    (hlocal : RawDocument.NamesOnly (fun _ => False) raw) (s t : σ) :
    ((∃ i, outcome (resolveDocument rules document library raw) s = .ok i) ↔
      ∃ i', outcome (resolveDocument rules document library raw') t = .ok i') ∧
    ∀ i i', outcome (resolveDocument rules document library raw) s = .ok i →
      outcome (resolveDocument rules document library raw') t = .ok i' →
      (∀ site, i'.schemaAt? site = i.schemaAt? site) ∧
      ∀ site members text key, RawDocument.schemaAt? raw site = some (.object members) →
        members.lookup "$ref" = some (.string text) →
        Reference.ofText text = .ok ⟨none, .fragment key⟩ →
        ∃ schema, i.fragment? key = some schema ∧ i.schemaAt? site = some schema := by
  refine ⟨?_, fun i i' hi hi' => ?_⟩
  · simp only [outcome_eq_ok]
    exact ⟨exists_resolveDocument_of_rearranged h hlocal,
      exists_resolveDocument_of_rearranged h.symm (h.namesOnly hlocal)⟩
  · obtain ⟨s', hi⟩ := outcome_eq_ok.1 hi
    obtain ⟨t', hi'⟩ := outcome_eq_ok.1 hi'
    exact ⟨schemaAt?_of_rearranged h hlocal hi hi', fun _ _ _ _ => exists_fragment_of_reference hlocal hi⟩

namespace Sample

/-- A declaration whose schema is the fragment for addresses. -/
def addressed (name : String) : Value :=
  .object (declaration name [("schema", reference "#/schemas/address")])

/-- Fragments for addresses. -/
def addresses : Members :=
  [("address", .object [("type", .string "array"), ("items", reference "#/schemas/line")]),
   ("line", .object [("type", .string "string")])]

/-- A document for parcels, with some arguments and fragments. -/
def parcels (arguments : List Value) (fragments : Members) : Value :=
  document [
    ("functions", .array [.object (declaration "send" [("arguments", .array arguments)])]),
    ("messages", .array [addressed "sent"]),
    ("schemas", .object fragments)]

theorem parcels_rearranged : RawDocument.Rearranged (parcels [addressed "from", addressed "to"] addresses)
    (parcels [addressed "to", addressed "from"] addresses.reverse) := by
  have harguments : RawDocument.ListRearranged Eq (.array [addressed "from", addressed "to"])
      (.array [addressed "to", addressed "from"]) :=
    .list (.swap ..) (List.forall₂_same.2 fun _ _ => rfl)
  have hfunction : RawDocument.FunctionRearranged
      (.object (declaration "send" [("arguments", .array [addressed "from", addressed "to"])]))
      (.object (declaration "send" [("arguments", .array [addressed "to", addressed "from"])])) :=
    .of_forall₂ (.cons ⟨rfl, rfl⟩ (.cons ⟨rfl, rfl⟩ (.cons ⟨rfl, harguments⟩ .nil)))
  have hfragments : RawDocument.MappingRearranged (.object addresses) (.object addresses.reverse) :=
    .mapping (by decide) (List.reverse_perm _).symm
  refine .of_forall₂ (.cons ⟨rfl, rfl⟩ (.cons ⟨rfl, ?_⟩ (.cons ⟨rfl, .same _⟩ (.cons ⟨rfl, ?_⟩ .nil))))
  · exact RawDocument.ListRearranged.list (.refl _) (.cons hfunction .nil)
  · exact hfragments

theorem parcels_refersInside : (parcels [addressed "from", addressed "to"] addresses).RefersInside := by
  have haddress : Reference.documentOf? "#/schemas/address" = none := by decide +kernel
  have hline : Reference.documentOf? "#/schemas/line" = none := by decide +kernel
  simp [parcels, addresses, addressed, document, declaration, reference, haddress, hline]

end Sample

open Sample in
/-- Both orders of the arguments and fragments of the parcels lead to the same schemas, and the argument
for the sender has that of addresses. -/
theorem resolveDocument_of_rearranged_parcels : ∃ i i',
    outcome (resolveDocument .none none (none : Option (Library Unit))
      (parcels [addressed "from", addressed "to"] addresses)) () = .ok i ∧
    outcome (resolveDocument .none none (none : Option (Library Unit))
      (parcels [addressed "to", addressed "from"] addresses.reverse)) () = .ok i' ∧
    (∀ site, i'.schemaAt? site = i.schemaAt? site) ∧
    ∃ schema, i.fragment? "address" = some schema ∧
      i.schemaAt? (.argument "send" "from") = some schema := by
  obtain ⟨hiff, hsites⟩ := resolveDocument_of_rearranged .none none (none : Option (Library Unit)) _ _
    parcels_rearranged parcels_refersInside.namesOnly () ()
  have hresolved : (result? (resolveDocument .none none (none : Option (Library Unit))
      (parcels [addressed "from", addressed "to"] addresses)) ()).isSome := by decide +kernel
  obtain ⟨i, hi⟩ := Option.isSome_iff_exists.1 hresolved
  have hi := outcome_eq_ok.2 (result?_eq_some.1 hi)
  obtain ⟨i', hi'⟩ := hiff.1 ⟨i, hi⟩
  obtain ⟨hsame, hreferences⟩ := hsites i i' hi hi'
  exact ⟨i, i', hi, hi', hsame, hreferences (.argument "send" "from") _ "#/schemas/address" "address" rfl
    rfl (by decide +kernel)⟩

end ServiceContract
