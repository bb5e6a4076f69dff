import Mathlib.Data.List.Nodup
import ServiceContract.Proofs.Document.Identifiers
import ServiceContract.Proofs.Document.Stateless

/-!
# Documents that can be resolved

A document that names no other one is resolved exactly if its declarations are well formed, their
identifiers are told apart, every raw schema can be read, and every type has a value. Each of these
is said of the declarations one by one or of all of them together, not of one after the other.
-/

namespace ServiceContract

open Json (Value Members)

/-! ## Schemas that can be read -/

namespace RawDocument

section Reads

variable (read? : (raw : Value) → Option Schema)

/-- The declaration has a schema that can be read. -/
def Reads (declaration : Value) : Prop :=
  ∃ rawSchema schema, declaration.member? "schema" = some rawSchema ∧ read? rawSchema = some schema

/-- The declaration is read as the type. -/
def ReadsType (declaration : Value) (t : NamedType) : Prop :=
  DeclarationStands (fun rawSchema schema => read? rawSchema = some schema) declaration t.name t.schema

/-- The arguments of a function have schemas that can be read. So does its result, which has a
description as well. -/
structure ReadsFunction (f : Value) : Prop where
  /-- The arguments. -/
  arguments : ∀ a ∈ list "arguments" f, Reads read? a
  /-- The result. -/
  returns : ∀ r, f.member? "returns" = some r → ∃ members text, r = .object members ∧
    members.lookup "description" = some (.string text) ∧ Text.isBlank text = false ∧ Reads read? r

/-- Everything that a document declares has a schema that can be read. -/
structure ReadsDocument (raw : Value) : Prop where
  /-- The types, which have values. -/
  types : ∃ types : List NamedType, (∀ t ∈ types, t.name ∈ finiteTypes types) ∧
    List.Forall₂ (ReadsType read?) (list "types" raw) types
  /-- The functions. -/
  functions : ∀ f ∈ list "functions" raw, ReadsFunction read? f
  /-- The messages. -/
  messages : ∀ m ∈ list "messages" raw, Reads read? m
  /-- The fragments. -/
  fragments : ∀ key rawSchema, schemaAt? raw (.fragment key) = some rawSchema →
    ∃ schema, read? rawSchema = some schema

end Reads

/-- Two types that a declaration is read as have the same name and schema. -/
theorem ReadsType.same {read? : (raw : Value) → Option Schema} {declaration : Value} {t t' : NamedType}
    (h : ReadsType read? declaration t) (h' : ReadsType read? declaration t') :
    t'.name = t.name ∧ t'.schema = t.schema := by
  obtain ⟨hname, rawSchema, hmember, hread⟩ := h
  obtain ⟨hname', rawSchema', hmember', hread'⟩ := h'
  cases hmember.symm.trans hmember'
  exact ⟨Option.some.inj (hname'.symm.trans hname), Option.some.inj (hread'.symm.trans hread)⟩

/-- If the types that declarations are read as have values, they have them however they are told. -/
theorem forall_mem_finiteTypes_of_reads {read? : (raw : Value) → Option Schema}
    {declarations : List Value} {types types' : List NamedType}
    (h : List.Forall₂ (ReadsType read?) declarations types)
    (h' : List.Forall₂ (ReadsType read?) declarations types')
    (hfinite : ∀ t ∈ types, t.name ∈ finiteTypes types) : ∀ t ∈ types', t.name ∈ finiteTypes types' := by
  have hsame := (forall₂_comp h.flip h').imp fun _ _ ⟨_, h, h'⟩ => ReadsType.same h h'
  refine forall_mem_finiteTypes_of_same (fun t ht => ?_) (fun t' ht' => ?_) hfinite
  · obtain ⟨t', ht', hboth⟩ := exists_of_forall₂_right hsame.flip ht
    exact ⟨t', ht', hboth⟩
  · obtain ⟨t, ht, hname, -⟩ := exists_of_forall₂_right hsame ht'
    exact ⟨t, ht, hname.symm⟩

end RawDocument

namespace Glossary

open RawDocument (Reads ReadsType ReadsFunction ReadsDocument)

variable {glossary : Glossary} {raw : Value} {header : Header} {outline : Outline}

theorem exists_declared_iff {members : Members} :
    (∃ schema, glossary.declared members = some schema) ↔ Reads glossary.read? (.object members) := by
  unfold declared Reads
  constructor
  · rintro ⟨schema, h⟩
    obtain ⟨rawSchema, hschema, hread⟩ := Option.bind_eq_some_iff.1 h
    exact ⟨rawSchema, schema, hschema, hread⟩
  · rintro ⟨rawSchema, schema, hschema, hread⟩
    exact ⟨schema, Option.bind_eq_some_iff.2 ⟨rawSchema, hschema, hread⟩⟩

theorem exists_returns_iff {members : Members} : (∃ returns, glossary.returns members = some returns) ↔
    ∀ r, members.lookup "returns" = some r → ∃ declared text, r = .object declared ∧
      declared.lookup "description" = some (.string text) ∧ Text.isBlank text = false ∧
      Reads glossary.read? r := by
  unfold returns
  cases members.lookup "returns" with
  | none => exact ⟨fun _ _ h => (by cases h), fun _ => ⟨none, rfl⟩⟩
  | some r =>
    constructor
    · rintro ⟨returns, h⟩ _ ⟨⟩
      cases r with
      | object declared =>
        obtain ⟨text, htext, h⟩ := Option.bind_eq_some_iff.1 h
        obtain ⟨schema, hschema, -⟩ := Option.bind_eq_some_iff.1 h
        obtain ⟨hdescription, hblank⟩ := descriptionMember_eq_ok.1 (eq_ok_of_toOption htext)
        exact ⟨declared, text, rfl, hdescription, hblank, exists_declared_iff.1 ⟨schema, hschema⟩⟩
      | null | bool | number | string | array => cases h
    · intro h
      obtain ⟨declared, text, rfl, hdescription, hblank, hreads⟩ := h r rfl
      obtain ⟨schema, hschema⟩ := exists_declared_iff.2 hreads
      have htext : (Outline.descriptionMember declared "").toOption = some text := by
        rw [descriptionMember_eq_ok.2 ⟨hdescription, hblank⟩]
        rfl
      exact ⟨some ⟨text, schema⟩, Option.bind_eq_some_iff.2 ⟨text, htext,
        Option.bind_eq_some_iff.2 ⟨schema, hschema, rfl⟩⟩⟩

theorem exists_function_iff {f : FunctionHeader} (hof : f.IsOf raw) :
    (∃ function, glossary.function f = some function) ↔ ReadsFunction glossary.read? raw := by
  obtain ⟨⟨rfl, -⟩, harguments⟩ := hof
  constructor
  · rintro ⟨function, h⟩
    obtain ⟨arguments, hmapM, h⟩ := Option.bind_eq_some_iff.1 h
    obtain ⟨returns, hreturns, -⟩ := Option.bind_eq_some_iff.1 h
    refine ⟨fun a ha => ?_, exists_returns_iff.1 ⟨returns, hreturns⟩⟩
    obtain ⟨header, _, ⟨rfl, -⟩, hargument⟩ := exists_of_mapM_eq_some harguments hmapM ha
    obtain ⟨schema, hschema, -⟩ := Option.bind_eq_some_iff.1 hargument
    exact exists_declared_iff.1 ⟨schema, hschema⟩
  · rintro ⟨hread, hreturns⟩
    have heach : ∀ a ∈ RawDocument.list "arguments" (.object f.header.raw), ∀ header : Header,
        header.IsOf a → ∃ argument, glossary.argument header = some argument := by
      rintro a ha header ⟨rfl, -⟩
      obtain ⟨schema, hschema⟩ := exists_declared_iff.2 (hread _ ha)
      exact ⟨_, Option.bind_eq_some_iff.2 ⟨schema, hschema, rfl⟩⟩
    obtain ⟨arguments, hmapM⟩ := exists_mapM_eq_some harguments heach
    obtain ⟨returns, hreturns⟩ := exists_returns_iff.2 hreturns
    exact ⟨_, Option.bind_eq_some_iff.2 ⟨arguments, hmapM,
      Option.bind_eq_some_iff.2 ⟨returns, hreturns, rfl⟩⟩⟩

theorem forall₂_of_types {types : List NamedType} (hof : outline.IsOf raw)
    (h : outline.types.mapM glossary.namedType = some types) :
    List.Forall₂ (ReadsType glossary.read?) (RawDocument.list "types" raw) types := by
  have hstands : List.Forall₂ (fun header (t : NamedType) => Resolves.NamedStands
      (glossary.stands Unit) header t.name t.schema ⟨[], [], ()⟩) outline.types types :=
    (mapM_eq_some.1 h).imp fun _ _ => namedStands_of_namedType
  exact forall₂_declarationStands hof.types hstands

theorem readsDocument_of_parts {parts : Interface.Parts} (hof : outline.IsOf raw)
    (h : (RawDocument.glossary raw).parts outline = some parts) :
    ReadsDocument (RawDocument.glossary raw).read? raw := by
  obtain ⟨htypes, hfunctions, hmessages, hfragments, hinhabited⟩ := parts_eq_some.1 h
  refine ⟨⟨parts.types, hinhabited, forall₂_of_types hof htypes⟩, fun f hf => ?_, fun m hm => ?_,
    fun key rawSchema hat => ?_⟩
  · obtain ⟨header, function, hheader, hfunction⟩ :=
      exists_of_mapM_eq_some hof.functions hfunctions hf
    exact (exists_function_iff hheader).1 ⟨function, hfunction⟩
  · obtain ⟨header, _, ⟨rfl, -⟩, hmessage⟩ := exists_of_mapM_eq_some hof.messages hmessages hm
    obtain ⟨schema, hschema, -⟩ := Option.bind_eq_some_iff.1 hmessage
    exact exists_declared_iff.1 ⟨schema, hschema⟩
  · obtain ⟨schema, hschema⟩ := hfragments _ (mem_of_lookup ((hof.fragments key).symm.trans hat))
    obtain ⟨rawSchema', hat', hread⟩ := Option.bind_eq_some_iff.1 hschema
    cases hat.symm.trans hat'
    exact ⟨schema, hread⟩

theorem exists_parts (hof : outline.IsOf raw)
    (h : ReadsDocument (RawDocument.glossary raw).read? raw) :
    ∃ parts, (RawDocument.glossary raw).parts outline = some parts := by
  obtain ⟨⟨types, hinhabited, htypes⟩, hfunctions, hmessages, hfragments⟩ := h
  have htype : ∀ t ∈ RawDocument.list "types" raw, ∀ header : Header, header.IsOf t →
      ∃ named, (RawDocument.glossary raw).namedType header = some named := by
    rintro t ht header ⟨rfl, -⟩
    obtain ⟨named, -, -, rawSchema, hmember, hread⟩ := exists_of_forall₂_right htypes.flip ht
    obtain ⟨schema, hschema⟩ := exists_declared_iff.2 ⟨rawSchema, _, hmember, hread⟩
    exact ⟨_, Option.bind_eq_some_iff.2 ⟨schema, hschema, rfl⟩⟩
  have hmessage : ∀ m ∈ RawDocument.list "messages" raw, ∀ header : Header, header.IsOf m →
      ∃ message, (RawDocument.glossary raw).message header = some message := by
    rintro m hm header ⟨rfl, -⟩
    obtain ⟨schema, hschema⟩ := exists_declared_iff.2 (hmessages _ hm)
    exact ⟨_, Option.bind_eq_some_iff.2 ⟨schema, hschema, rfl⟩⟩
  obtain ⟨types', htypes'⟩ := exists_mapM_eq_some hof.types htype
  obtain ⟨functions, hfunctions'⟩ := exists_mapM_eq_some hof.functions
    fun f hf header hheader => (exists_function_iff hheader).2 (hfunctions f hf)
  obtain ⟨messages, hmessages'⟩ := exists_mapM_eq_some hof.messages hmessage
  have hinhabited' :=
    RawDocument.forall_mem_finiteTypes_of_reads htypes (forall₂_of_types hof htypes') hinhabited
  refine ⟨⟨types', functions, messages⟩, parts_eq_some.2 ⟨htypes', hfunctions', hmessages',
    fun entry hmem => ?_, hinhabited'⟩⟩
  cases hlookup : outline.fragments.lookup entry.1 with
  | none => exact absurd (List.mem_map_of_mem hmem) (lookup_eq_none.1 hlookup)
  | some rawSchema =>
    have hat := (hof.fragments entry.1).trans hlookup
    obtain ⟨schema, hread⟩ := hfragments entry.1 rawSchema hat
    exact ⟨schema, Option.bind_eq_some_iff.2 ⟨rawSchema, hat, hread⟩⟩

end Glossary

/-! ## Outlines that can be read -/

namespace RawDocument

variable {rules : IdentifierRules} {raw : Value} {role : Role}

/-- Declarations that are told apart have different names. -/
theorem nodup_of_tellsApart {declarations : List Value}
    (h : rules.TellsApart (declarations.map (declared role))) : (declarations.map name?).Nodup := by
  have hnames := (NamesApart.of_tellsApart h).2
  refine List.Nodup.of_map (fun name => name.getD "") ?_
  rw [List.map_map]
  exact hnames

/-- Declarations of one kind have different names. -/
structure NamesDiffer (raw : Value) : Prop where
  /-- The types. -/
  types : ((list "types" raw).map name?).Nodup
  /-- The functions. -/
  functions : ((list "functions" raw).map name?).Nodup
  /-- The messages. -/
  messages : ((list "messages" raw).map name?).Nodup
  /-- The arguments of each function. -/
  arguments : ∀ f ∈ list "functions" raw, ((list "arguments" f).map name?).Nodup

theorem namesDiffer_of_separates (h : rules.Separates (listing raw)) : NamesDiffer raw := by
  have hcallables : rules.TellsApart ((list "types" raw).map (declared .type) ++
      (list "functions" raw).map (declared .function) ++
      (list "messages" raw).map (declared .message)) := by
    have hcallables := h.callables
    unfold Listing.callables listing at hcallables
    rwa [List.map_map] at hcallables
  exact
    { types := nodup_of_tellsApart (hcallables.sublist
        ((List.sublist_append_left ..).trans (List.sublist_append_left ..)))
      functions := nodup_of_tellsApart (hcallables.sublist
        ((List.sublist_append_right ..).trans (List.sublist_append_left ..)))
      messages := nodup_of_tellsApart (hcallables.sublist (List.sublist_append_right ..))
      arguments := fun f hf => nodup_of_tellsApart (h.arguments _ (List.mem_map_of_mem hf)) }

end RawDocument

namespace Outline

open RawDocument (IsDeclaration IsSection IsFormed name?)

variable {rules : IdentifierRules} {document : Option String} {raw : Value} {members root : Members}
  {location : String} {role : Role}

theorem isFormed_of_ofValue {outline : Outline} (h : ofValue rules document raw = .ok outline) :
    IsFormed raw := by
  have hmirrors := mirrors_of_ofValue h
  obtain ⟨item, hservice, hdeclares, written, hwritten, hversion⟩ := hmirrors.service
  obtain ⟨members, rfl, hdeclaration⟩ := hdeclares.isDeclaration
  have hheader : ∀ (item : Value) (h : Header), h.Mirrors item →
      ∃ members, item = .object members ∧ IsDeclaration members :=
    fun _ _ hheader => hheader.2.isDeclaration
  exact
    { service := ⟨members, hservice, hdeclaration, written, hwritten, by rw [hversion]; rfl⟩
      types := hmirrors.types.isSection hheader
      functions := hmirrors.functions.isSection fun item f hf => hheader item f.header hf.1
      messages := hmirrors.messages.isSection hheader
      arguments := fun f hf => by
        obtain ⟨_, -, hfunction⟩ := exists_of_forall₂_right hmirrors.functions.items.flip hf
        exact hfunction.2.isSection hheader
      fragments := hmirrors.isMapping }

/-! The other way round, declarations that are well formed can be read if no name comes twice. -/

theorem exists_readHeaders {locate : Nat → String} {repeated : String → String → Error} {index : Nat}
    {earlier : List String} {items : List Value}
    (hitems : ∀ item ∈ items, ∃ members, item = .object members ∧ IsDeclaration members)
    (hnames : (items.map name?).Nodup) (hnew : ∀ item ∈ items, ∀ name ∈ earlier, name? item ≠ some name) :
    ∃ headers, readHeaders role locate repeated index earlier items = .ok headers := by
  induction items generalizing index earlier with
  | nil => exact ⟨[], rfl⟩
  | cons item rest ih =>
    obtain ⟨⟨members, rfl, hdeclaration⟩, hrest⟩ := List.forall_mem_cons.1 hitems
    obtain ⟨hother, hnames⟩ := List.nodup_cons.1 hnames
    obtain ⟨name, text, -, hread⟩ := readHeader_eq role (locate index) hdeclaration
    have hname : name? (.object members) = some name := (readHeader_ok hread).name?
    have hnew' : ∀ item ∈ rest, ∀ earlierName ∈ name :: earlier, name? item ≠ some earlierName := by
      intro item hmem earlierName hearlier heq
      rcases List.mem_cons.1 hearlier with rfl | hearlier
      · exact hother (List.mem_map.2 ⟨item, hmem, heq.trans hname.symm⟩)
      · exact hnew item (List.mem_cons_of_mem _ hmem) earlierName hearlier heq
    obtain ⟨headers, hheaders⟩ := @ih (index + 1) (name :: earlier) hrest hnames hnew'
    have hfresh : name ∉ earlier := fun hmem => hnew _ (List.mem_cons_self ..) name hmem hname
    refine ⟨⟨name, text, members⟩ :: headers, ?_⟩
    rw [readHeaders]
    refine bind_eq_ok.2 ⟨_, hread, ?_⟩
    rw [if_neg hfresh]
    exact bind_eq_ok.2 ⟨headers, hheaders, rfl⟩

theorem exists_readSection {locate : String → String} {name : String}
    (h : IsSection (root.lookup name))
    (hnames : ((RawDocument.list name (.object root)).map name?).Nodup) :
    ∃ headers, readSection locate root name role = .ok headers := by
  rw [RawDocument.list_object] at hnames
  unfold readSection
  rcases h with h | ⟨items, h, hitems⟩
  · rw [h]
    exact ⟨[], rfl⟩
  · rw [h] at hnames ⊢
    exact exists_readHeaders hitems hnames fun _ _ _ hmem => absurd hmem List.not_mem_nil

theorem exists_readArguments {locate : String → String} {header : Header}
    (h : IsSection (header.raw.lookup "arguments"))
    (hnames : ((RawDocument.list "arguments" (.object header.raw)).map name?).Nodup) :
    ∃ f, readArguments locate header = .ok f := by
  rw [RawDocument.list_object] at hnames
  unfold readArguments
  rcases h with h | ⟨items, h, hitems⟩
  · rw [h]
    exact ⟨⟨header, []⟩, rfl⟩
  · rw [h] at hnames ⊢
    obtain ⟨arguments, harguments⟩ := exists_readHeaders hitems hnames
      fun _ _ _ hmem => absurd hmem List.not_mem_nil
    exact ⟨⟨header, arguments⟩, bind_eq_ok.2 ⟨arguments, harguments, rfl⟩⟩

theorem exists_readFragments {locate : String → String}
    (h : root.lookup "schemas" = none ∨ ∃ members, root.lookup "schemas" = some (.object members)) :
    ∃ fragments, readFragments locate root = .ok fragments := by
  unfold readFragments
  rcases h with h | ⟨members, h⟩
  · rw [h]
    exact ⟨[], rfl⟩
  · rw [h]
    exact ⟨members, rfl⟩

theorem exists_mapM_eq_ok {ε α β : Type} {f : α → Except ε β} {l : List α}
    (h : ∀ a ∈ l, ∃ b, f a = .ok b) : ∃ bs, l.mapM f = .ok bs := by
  induction l with
  | nil => exact ⟨[], rfl⟩
  | cons a rest ih =>
    obtain ⟨⟨b, hb⟩, hrest⟩ := List.forall_mem_cons.1 h
    obtain ⟨bs, hbs⟩ := ih hrest
    rw [List.mapM_cons]
    exact ⟨b :: bs, bind_eq_ok.2 ⟨b, hb, bind_eq_ok.2 ⟨bs, hbs, rfl⟩⟩⟩

theorem exists_ofValue (hformed : IsFormed raw)
    (hapart : rules.Separates (RawDocument.listing raw)) :
    ∃ outline, ofValue rules document raw = .ok outline := by
  have hdiffer := RawDocument.namesDiffer_of_separates hapart
  cases raw with
  | null | bool | number | string | array =>
    obtain ⟨_, hservice, -⟩ := hformed.service
    cases hservice
  | object root =>
  let locate := ServiceContract.locate document
  obtain ⟨service, hservice⟩ := readService_eq locate hformed
  obtain ⟨types, htypes⟩ : ∃ headers, readSection locate root "types" .type = .ok headers :=
    exists_readSection hformed.types hdiffer.types
  obtain ⟨headers, hheaders⟩ : ∃ headers, readSection locate root "functions" .function = .ok headers :=
    exists_readSection hformed.functions hdiffer.functions
  obtain ⟨messages, hmessages⟩ : ∃ headers, readSection locate root "messages" .message = .ok headers :=
    exists_readSection hformed.messages hdiffer.messages
  obtain ⟨fragments, hfragments⟩ : ∃ fragments, readFragments locate root = .ok fragments :=
    exists_readFragments hformed.fragments
  have hofHeaders := readSection_ok hheaders
  obtain ⟨functions, hfunctions⟩ : ∃ functions, headers.mapM (readArguments locate) = .ok functions := by
    refine exists_mapM_eq_ok fun header hmem => ?_
    obtain ⟨_, hf, rfl, -⟩ := exists_of_forall₂_right hofHeaders hmem
    exact exists_readArguments (hformed.arguments _ hf) (hdiffer.arguments _ hf)
  have hofFunctions := (forall₂_comp hofHeaders (mapM_eq_ok.1 hfunctions)).imp
    fun _ _ ⟨_, hof, hread⟩ => readArguments_ok hof hread
  let outline : Outline := ⟨service, types, functions, messages, fragments⟩
  have hlisting : outline.listing = RawDocument.listing (.object root) :=
    listing_eq (readService_name hservice).2 (readSection_ok htypes) hofFunctions
      (readSection_ok hmessages)
  have hcheck : outline.checkIdentifiers rules = .ok () :=
    checkIdentifiers_eq_ok.2 (hlisting ▸ hapart)
  refine ⟨outline, ?_⟩
  unfold ofValue
  simp only [bind_eq_ok]
  exact ⟨service, hservice, types, htypes, headers, hheaders, messages, hmessages, fragments, hfragments,
    functions, hfunctions, (), hcheck, rfl⟩

/-- A document has an outline exactly if its declarations are well formed and their identifiers are
told apart. -/
theorem exists_ofValue_iff : (∃ outline, ofValue rules document raw = .ok outline) ↔
    IsFormed raw ∧ rules.Separates (RawDocument.listing raw) := by
  constructor
  · rintro ⟨outline, h⟩
    obtain ⟨-, hlisting, hapart⟩ := listing_of_ofValue h
    exact ⟨isFormed_of_ofValue h, hlisting ▸ hapart⟩
  · rintro ⟨hformed, hapart⟩
    exact exists_ofValue hformed hapart

end Outline

/-! ## Documents that can be resolved -/

/-- A document that names no other one is resolved exactly if its declarations are well formed, their
identifiers are told apart and their schemas can be read. -/
theorem exists_resolveDocument_iff {σ : Type} {rules : IdentifierRules} {document : Option String}
    {library : Option (Library σ)} {raw : Value} {s : σ}
    (hlocal : RawDocument.NamesOnly (fun _ => False) raw) :
    (∃ i s', resolveDocument rules document library raw s = .ok i s') ↔
      RawDocument.IsFormed raw ∧ rules.Separates (RawDocument.listing raw) ∧
        RawDocument.ReadsDocument (RawDocument.glossary raw).read? raw := by
  rw [← and_assoc, ← Outline.exists_ofValue_iff]
  constructor
  · rintro ⟨i, s', h⟩
    obtain ⟨outline, p, houtline, hresolve, -⟩ := exists_of_resolveDocument_ok h
    have hof := Outline.isOf_of_ofValue houtline
    obtain ⟨parts, hparts, -⟩ := parts_of_resolve hof hlocal hresolve
    exact ⟨⟨outline, houtline⟩, Glossary.readsDocument_of_parts hof hparts⟩
  · rintro ⟨⟨outline, houtline⟩, hreads⟩
    have hof := Outline.isOf_of_ofValue houtline
    obtain ⟨parts, hparts⟩ := Glossary.exists_parts hof hreads
    obtain ⟨i, p, hresolve⟩ := exists_resolve hof hlocal hparts
    refine ⟨i, p.library, ?_⟩
    unfold resolveDocument
    rw [houtline]
    dsimp only
    rw [hresolve]

end ServiceContract
