import ServiceContract.Document.Store
import ServiceContract.Proofs.Document.Resolution
import ServiceContract.Proofs.Interface.Identifiers

/-!
# Resolved interfaces have no colliding identifiers

A document whose outline is read declares the names that its interface has, in the same order, and
their identifiers are told apart. The other way round, nothing else can be wrong with the outline of
a document whose declarations are well formed: it is refused for a collision or for nothing, before
any of its schemas is looked at.
-/

namespace ServiceContract

open Json (Value Members)

/-! ## Raw documents -/

namespace RawDocument

/-- The declared name, with its role. -/
def declared (role : Role) (raw : Value) : Role × String := (role, (name? raw).getD "")

/-- The names that a raw document declares, with their roles. -/
def listing (raw : Value) : Listing (Role × String) :=
  ⟨declared .service ((raw.member? "service").getD .null), (list "types" raw).map (declared .type),
    (list "functions" raw).map fun f =>
      (declared .function f, (list "arguments" f).map (declared .field)),
    (list "messages" raw).map (declared .message)⟩

/-- There are a name in kebab case and a description that is not blank. -/
structure IsDeclaration (members : Members) : Prop where
  /-- The name. -/
  name : ∃ name, members.lookup "name" = some (.string name) ∧ isKebabCase name
  /-- The description. -/
  description : ∃ text, members.lookup "description" = some (.string text) ∧
    Text.isBlank text = false

/-- There is no such section, or a list of mappings that are declarations. -/
def IsSection (found : Option Value) : Prop :=
  found = none ∨ ∃ items, found = some (.array items) ∧
    ∀ item ∈ items, ∃ members, item = .object members ∧ IsDeclaration members

/-- The service, the declarations and the arguments of functions are well formed, and reusable
fragments stand in a mapping. Nothing is said of any schema. -/
structure IsFormed (raw : Value) : Prop where
  /-- The service is a declaration with a version. -/
  service : ∃ members, raw.member? "service" = some (.object members) ∧ IsDeclaration members ∧
    ∃ written, members.lookup "version" = some (.string written) ∧
      (Version.ofText? written).isSome
  /-- The types. -/
  types : IsSection (raw.member? "types")
  /-- The functions. -/
  functions : IsSection (raw.member? "functions")
  /-- The messages. -/
  messages : IsSection (raw.member? "messages")
  /-- The arguments of each function. -/
  arguments : ∀ f ∈ list "functions" raw, IsSection (f.member? "arguments")
  /-- The reusable fragments. -/
  fragments : raw.member? "schemas" = none ∨ ∃ members, raw.member? "schemas" = some (.object members)

/-- Two of the types, functions and messages derive the same identifier. -/
def Collides (rules : IdentifierRules) (raw : Value) : Prop :=
  ∃ d e identifier, List.Sublist [d, e] (listing raw).callables ∧
    rules.derive d.1 d.2 = .ok identifier ∧ rules.derive e.1 e.2 = .ok identifier

end RawDocument

/-! ## Outlines that are read -/

namespace Outline

open RawDocument (IsDeclaration IsSection IsFormed)

variable {rules : IdentifierRules} {document : Option String} {raw : Value} {outline : Outline}
  {members root : Members} {location : String}

theorem checkKebabCase_ok {role : Role} {name : String} :
    checkKebabCase role name = .ok () ↔ isKebabCase name := by
  unfold checkKebabCase
  by_cases h : isKebabCase name <;> simp [h]

theorem readService_name {locate : String → String} {service : Service}
    (h : readService locate root = .ok service) : isKebabCase service.name ∧
      ((root.lookup "service").bind RawDocument.name?) = some service.name := by
  unfold readService at h
  split at h
  · next members hmembers =>
    simp only [bind_eq_ok] at h
    obtain ⟨name, hname, ⟨⟩, hkebab, written, -, h⟩ := h
    split at h
    · cases h
    · obtain ⟨description, -, hpure⟩ := bind_eq_ok.1 h
      cases hpure
      refine ⟨checkKebabCase_ok.1 hkebab, ?_⟩
      rw [hmembers, Option.bind_some, RawDocument.name?, RawDocument.member?_object,
        stringMember_ok hname]
      rfl
  · cases h

theorem declared_eq (role : Role) {raw : Value} {h : Header} (hof : h.IsOf raw) :
    RawDocument.declared role raw = (role, h.name) := by
  rw [RawDocument.declared, hof.name?]
  rfl

/-- An outline declares what the raw document declares if the declarations are those of the document,
one by one. -/
theorem listing_eq
    (hname : (raw.member? "service").bind RawDocument.name? = some outline.service.name)
    (htypes : List.Forall₂ (fun raw h => Header.IsOf h raw) (RawDocument.list "types" raw)
      outline.types)
    (hfunctions : List.Forall₂ (fun raw f => FunctionHeader.IsOf f raw)
      (RawDocument.list "functions" raw) outline.functions)
    (hmessages : List.Forall₂ (fun raw h => Header.IsOf h raw) (RawDocument.list "messages" raw)
      outline.messages) : outline.listing = RawDocument.listing raw := by
  have hdeclared : RawDocument.declared .service ((raw.member? "service").getD .null) =
      (.service, outline.service.name) := by
    obtain ⟨service, hmember, hname⟩ := Option.bind_eq_some_iff.1 hname
    rw [hmember, RawDocument.declared, Option.getD_some, hname]
    rfl
  have htypes := map_eq_map_of_forall₂ htypes fun _ _ => declared_eq .type
  have hmessages := map_eq_map_of_forall₂ hmessages fun _ _ => declared_eq .message
  have hfunctions : ((RawDocument.list "functions" raw).map fun f =>
        (RawDocument.declared .function f,
          (RawDocument.list "arguments" f).map (RawDocument.declared .field))) =
      outline.functions.map fun f =>
        ((.function, f.header.name), f.arguments.map fun h => (.field, h.name)) := by
    refine map_eq_map_of_forall₂ hfunctions fun raw f hf => ?_
    rw [declared_eq .function hf.1, map_eq_map_of_forall₂ hf.2 fun _ _ => declared_eq .field]
  rw [RawDocument.listing, listing, hdeclared, htypes, hfunctions, hmessages]

/-- The outline that is read from a raw document declares what the document declares, and passed the
check of its identifiers. -/
theorem listing_of_ofValue (h : ofValue rules document raw = .ok outline) :
    isKebabCase outline.service.name ∧ outline.listing = RawDocument.listing raw ∧
      rules.Separates outline.listing := by
  have hof := isOf_of_ofValue h
  have hservice : isKebabCase outline.service.name ∧
      (raw.member? "service").bind RawDocument.name? = some outline.service.name ∧
      outline.checkIdentifiers rules = .ok () := by
    unfold ofValue at h
    split at h
    · next root =>
      simp only [bind_eq_ok] at h
      obtain ⟨service, hservice, types, -, headers, -, messages, -, fragments, -, functions, -, ⟨⟩,
        hcheck, hpure⟩ := h
      cases hpure
      obtain ⟨hkebab, hname⟩ := readService_name hservice
      exact ⟨hkebab, hname, hcheck⟩
    · cases h
  obtain ⟨hkebab, hname, hcheck⟩ := hservice
  exact ⟨hkebab, listing_eq hname hof.types hof.functions hof.messages, checkIdentifiers_eq_ok.1 hcheck⟩

/-! ## Outlines that are well formed -/

theorem stringMember_eq {key text : String} (h : members.lookup key = some (.string text)) :
    stringMember members key location = .ok text := by
  rw [stringMember, h]

theorem descriptionMember_eq (location : String) (h : IsDeclaration members) :
    ∃ text, descriptionMember members location = .ok text := by
  obtain ⟨text, hlookup, hblank⟩ := h.description
  refine ⟨text, ?_⟩
  rw [descriptionMember, stringMember_eq hlookup]
  simp [hblank, bind, Except.bind, pure, Except.pure]

theorem readService_eq (locate : String → String) (h : IsFormed (.object root)) :
    ∃ service, readService locate root = .ok service := by
  obtain ⟨members, hservice, hdeclaration, written, hwritten, hversion⟩ := h.service
  obtain ⟨name, hname, hkebab⟩ := hdeclaration.name
  obtain ⟨text, hdescription⟩ := descriptionMember_eq (locate "/service") hdeclaration
  obtain ⟨version, hversion⟩ := Option.isSome_iff_exists.1 hversion
  rw [RawDocument.member?_object] at hservice
  refine ⟨⟨name, version, text⟩, ?_⟩
  rw [readService, hservice]
  refine bind_eq_ok.2 ⟨name, stringMember_eq hname, bind_eq_ok.2 ⟨(), checkKebabCase_ok.2 hkebab, ?_⟩⟩
  refine bind_eq_ok.2 ⟨written, stringMember_eq hwritten, ?_⟩
  rw [hversion]
  exact bind_eq_ok.2 ⟨text, hdescription, rfl⟩

theorem readHeader_eq (role : Role) (location : String) (h : IsDeclaration members) :
    ∃ name text, isKebabCase name ∧
      readHeader role location (.object members) = .ok ⟨name, text, members⟩ := by
  obtain ⟨name, hname, hkebab⟩ := h.name
  obtain ⟨text, hdescription⟩ := descriptionMember_eq location h
  refine ⟨name, text, hkebab, ?_⟩
  rw [readHeader]
  exact bind_eq_ok.2 ⟨name, stringMember_eq hname, bind_eq_ok.2 ⟨(), checkKebabCase_ok.2 hkebab,
    bind_eq_ok.2 ⟨text, hdescription, rfl⟩⟩⟩

theorem readHeaders_onlyCollides {role : Role} {locate : Nat → String}
    (message : String → String → String) {index : Nat} {earlier : List String}
    {items : List Value} (h : ∀ item ∈ items, ∃ members, item = .object members ∧
      IsDeclaration members) :
    OnlyCollides (readHeaders role locate
      (fun declared location => .identifierCollision (message declared location)) index earlier
      items) := by
  induction items generalizing index earlier with
  | nil => exact .ok
  | cons item rest ih =>
    obtain ⟨members, rfl, hdeclaration⟩ := h item (List.mem_cons_self ..)
    obtain ⟨name, text, -, hread⟩ := readHeader_eq role (locate index) hdeclaration
    rw [readHeaders, hread]
    refine OnlyCollides.ok.bind fun header _ => ?_
    have hrest : OnlyCollides (readHeaders role locate
        (fun declared location => .identifierCollision (message declared location)) (index + 1)
        (header.name :: earlier) rest) := ih fun item hitem => h item (List.mem_cons_of_mem _ hitem)
    by_cases hrepeated : header.name ∈ earlier
    · simp only [hrepeated, if_true]
      exact OnlyCollides.collision.bind fun _ _ => hrest.bind fun _ _ => .ok
    · simp only [hrepeated, if_false]
      exact hrest.bind fun _ _ => .ok

theorem readSection_onlyCollides {locate : String → String} {name : String} {role : Role}
    (h : IsSection (root.lookup name)) : OnlyCollides (readSection locate root name role) := by
  unfold readSection
  rcases h with h | ⟨items, h, hitems⟩
  · rw [h]
    exact .ok
  · rw [h]
    exact readHeaders_onlyCollides _ hitems

theorem readArguments_onlyCollides {locate : String → String} {function : Header}
    (h : IsSection (function.raw.lookup "arguments")) :
    OnlyCollides (readArguments locate function) := by
  unfold readArguments
  rcases h with h | ⟨items, h, hitems⟩
  · rw [h]
    exact .ok
  · rw [h]
    exact (readHeaders_onlyCollides (fun declared _ =>
      s!"argument '{declared}' declared more than once for function '" ++ function.name ++ "'")
      hitems).bind fun _ _ => .ok

/-- What is listed in a section is a declaration. -/
theorem isDeclaration_of_mem_list {key : String} {item : Value} (h : IsSection (raw.member? key))
    (hitem : item ∈ RawDocument.list key raw) :
    ∃ members, item = .object members ∧ IsDeclaration members := by
  unfold RawDocument.list at hitem
  rcases h with h | ⟨items, h, hitems⟩
  · rw [h] at hitem
    cases hitem
  · rw [h] at hitem
    exact hitems item hitem

theorem isKebabCase_of_isOf {item : Value} {header : Header} (hof : header.IsOf item)
    (hitem : ∃ members, item = .object members ∧ IsDeclaration members) :
    isKebabCase header.name := by
  obtain ⟨members, rfl, hdeclaration⟩ := hitem
  obtain ⟨name, hname, hkebab⟩ := hdeclaration.name
  cases hof.1
  cases hname.symm.trans hof.2
  exact hkebab

theorem isKebabCase_of_forall₂ {key : String} {headers : List Header}
    (h : IsSection (raw.member? key))
    (hof : List.Forall₂ (fun raw header => Header.IsOf header raw) (RawDocument.list key raw)
      headers) : ∀ header ∈ headers, isKebabCase header.name := by
  intro header hmem
  obtain ⟨item, hitem, hheader⟩ := exists_of_forall₂_right hof hmem
  exact isKebabCase_of_isOf hheader (isDeclaration_of_mem_list h hitem)

/-- The check of identifiers finds nothing else wrong with declarations that are well formed. -/
theorem checkIdentifiers_onlyCollides (h : IsFormed raw)
    (htypes : List.Forall₂ (fun raw h => Header.IsOf h raw) (RawDocument.list "types" raw)
      outline.types)
    (hfunctions : List.Forall₂ (fun raw f => FunctionHeader.IsOf f raw)
      (RawDocument.list "functions" raw) outline.functions)
    (hmessages : List.Forall₂ (fun raw h => Header.IsOf h raw) (RawDocument.list "messages" raw)
      outline.messages) :
    OnlyCollides (outline.checkIdentifiers rules) := by
  have hkebab : ∀ f ∈ outline.functions, isKebabCase f.header.name ∧
      ∀ argument ∈ f.arguments, isKebabCase argument.name := by
    intro f hf
    obtain ⟨item, hitem, hheader, harguments⟩ := exists_of_forall₂_right hfunctions hf
    exact ⟨isKebabCase_of_isOf hheader (isDeclaration_of_mem_list h.functions hitem),
      isKebabCase_of_forall₂ (h.arguments item hitem) harguments⟩
  have hcallables : ∀ d ∈ outline.callables, isKebabCase d.2 := by
    intro d hd
    simp only [callables, List.mem_append, List.mem_map] at hd
    rcases hd with (⟨header, hmem, rfl⟩ | ⟨f, hmem, rfl⟩) | ⟨header, hmem, rfl⟩
    · exact isKebabCase_of_forall₂ h.types htypes header hmem
    · exact (hkebab f hmem).1
    · exact isKebabCase_of_forall₂ h.messages hmessages header hmem
  unfold checkIdentifiers
  rw [checkCallables_eq]
  refine (checkApart_onlyCollides hcallables).bind fun _ _ => .forM fun f hf => ?_
  rw [checkArguments_eq]
  exact checkApart_onlyCollides (hkebab f hf).2

/-- The outline of a well formed document is refused for a collision or for nothing. -/
theorem ofValue_onlyCollides (h : IsFormed raw) : OnlyCollides (ofValue rules document raw) := by
  unfold ofValue
  split
  · next root =>
    obtain ⟨service, hservice⟩ := readService_eq (ServiceContract.locate document) h
    dsimp only
    rw [hservice]
    refine OnlyCollides.ok.bind fun service _ => ?_
    refine (readSection_onlyCollides h.types).bind fun types htypes => ?_
    refine (readSection_onlyCollides h.functions).bind fun headers hheaders => ?_
    refine (readSection_onlyCollides h.messages).bind fun messages hmessages => ?_
    have hfragments : OnlyCollides (readFragments (ServiceContract.locate document) root) := by
      unfold readFragments
      rcases h.fragments with hnone | ⟨members, hmembers⟩
      · rw [← RawDocument.member?_object, hnone]
        exact .ok
      · rw [← RawDocument.member?_object, hmembers]
        exact .ok
    refine hfragments.bind fun fragments _ => ?_
    have hof := readSection_ok hheaders
    have harguments : ∀ header ∈ headers,
        OnlyCollides (readArguments (ServiceContract.locate document) header) := by
      intro header hmem
      obtain ⟨item, hitem, rfl, -⟩ := exists_of_forall₂_right hof hmem
      exact readArguments_onlyCollides (h.arguments _ hitem)
    refine (OnlyCollides.mapM harguments).bind fun functions hfunctions => ?_
    have hread := (forall₂_comp hof (mapM_eq_ok.1 hfunctions)).imp
      fun _ _ ⟨_, hof, hread⟩ => readArguments_ok hof hread
    exact (checkIdentifiers_onlyCollides h (readSection_ok htypes) hread
      (readSection_ok hmessages)).bind fun _ _ => .ok
  · next hother =>
    obtain ⟨members, hmember, -⟩ := h.service
    cases raw with
    | object root => exact absurd rfl (hother root)
    | null | bool | number | string | array => cases hmember

end Outline

/-! ## Resolved interfaces -/

section Resolved

variable {σ : Type} {rules : IdentifierRules} {document : Option String}
  {library : Option (Library σ)} {raw : Value} {s s' : σ} {i : Interface}

/-- Resolution keeps whatever its library keeps, if every fault may occur. -/
theorem Resolves.of_library {D : Discipline Error σ} {outline : Outline} (hof : outline.IsOf raw)
    (hfault : ∀ e s, D.fault e s)
    (hlibrary : ∀ l key s, library = some l → D.inv s →
      D.Runs (l.interfaceAt key) s fun _ _ => True) :
    Resolves D ⟨document, outline.types.map Header.name, library⟩ outline.fragments
      (RawDocument.Names (fun _ => True) raw) (fun _ _ _ => True) (fun _ _ _ _ => True) where
  fault e s _ _ := hfault e s
  key _ _ e s _ _ _ := hfault e s
  library l _ key s hl _ _ _ hs := hlibrary l key s hl hs
  namesOnly := namesOnly_of_lookup_fragments hof fun _ hname => hname
  linkStable _ _ := trivial
  standsStable _ _ _ := trivial
  form _ _ _ _ := trivial

/-- The discipline that every run keeps. -/
def anything (ε σ : Type) : Discipline ε σ where
  inv _ := True
  le _ _ := True
  fault _ _ := True
  refl _ := trivial
  trans _ _ := trivial

theorem anything_runs {ε σ α : Type} {x : EStateM ε σ α} {s : σ} :
    (anything ε σ).Runs x s fun _ _ => True := by
  unfold Discipline.Runs
  cases x s <;> exact ⟨trivial, trivial, trivial⟩

theorem listing_of_outlineStands {stands : Standing σ} {outline : Outline} {p : Progress σ}
    (h : Resolves.OutlineStands stands outline i p) : i.listing = outline.listing := by
  have htypes : outline.types.map (fun h => (Role.type, h.name)) =
      i.types.map fun t => (Role.type, t.name) :=
    map_eq_map_of_forall₂ h.types fun _ _ ht => by rw [ht.1]
  have hmessages : outline.messages.map (fun h => (Role.message, h.name)) =
      i.messages.map fun m => (Role.message, m.name) :=
    map_eq_map_of_forall₂ h.messages fun _ _ hm => by rw [hm.1]
  have hfunctions : (outline.functions.map fun f =>
        ((Role.function, f.header.name), f.arguments.map fun h => (Role.field, h.name))) =
      i.functions.map fun f =>
        ((Role.function, f.name), f.arguments.map fun a => (Role.field, a.name)) := by
    refine map_eq_map_of_forall₂ h.functions fun header f ⟨hname, harguments, _⟩ => ?_
    have hfields : header.arguments.map (fun h => (Role.field, h.name)) =
        f.arguments.map fun a => (Role.field, a.name) :=
      map_eq_map_of_forall₂ harguments fun _ _ ha => by rw [ha.1]
    rw [hname, hfields]
  have hservice : i.service = outline.service := h.service
  rw [Interface.listing, Outline.listing, htypes, hfunctions, hmessages, hservice]

/-- An interface has the names that the outline of its document declares. -/
theorem exists_outline_of_resolveDocument
    (h : resolveDocument rules document library raw s = .ok i s') :
    ∃ outline, Outline.ofValue rules document raw = .ok outline ∧
      i.listing = outline.listing := by
  obtain ⟨outline, p, houtline, hresolve, -⟩ := exists_of_resolveDocument_ok h
  have hof := Outline.isOf_of_ofValue houtline
  have hresolves : Resolves (anything Error σ)
      ⟨document, outline.types.map Header.name, library⟩ outline.fragments _ _ _ :=
    .of_library hof (fun _ _ => trivial) fun _ _ _ _ _ => anything_runs
  have hruns :=
    hresolves.resolve_runs hof (fun _ hname => hname) (hresolves.progress_start s trivial)
  exact ⟨outline, houtline, listing_of_outlineStands (hruns.ok hresolve).2.2.2⟩

/-- An interface has the names that its document declares, and the rules that it was resolved under
tell them apart. -/
theorem listing_of_resolveDocument
    (h : resolveDocument rules document library raw s = .ok i s') :
    isKebabCase i.service.name ∧ i.listing = RawDocument.listing raw ∧ rules.Separates i.listing := by
  obtain ⟨outline, houtline, hlisting⟩ := exists_outline_of_resolveDocument h
  obtain ⟨hkebab, hraw, hseparates⟩ := Outline.listing_of_ofValue houtline
  have hservice : i.service.name = outline.service.name := congrArg (·.service.2) hlisting
  rw [hlisting, hservice]
  exact ⟨hkebab, hraw, hseparates⟩

end Resolved

/-- Identifiers do not collide. If a resolver returns an interface, its identifiers under the rules
of the resolver are listed, for the declarations of the document in their order; none of them is
reserved for its role, those of types, functions and messages are different from one another, and so
are those of the arguments of each function. If the declarations of a document are well formed and
two of its types, functions or messages derive the same identifier, it is refused for a collision,
whatever is wrong with its schemas. -/
theorem Resolver.identifiers_apart (resolver : Resolver) (raw : Value) (s : Store) :
    (∀ i s', resolver.resolve raw s = .ok i s' → ∃ listing : Listing Identifier,
      i.identifiers resolver.rules = .ok listing.all ∧
      listing.map (fun id => (id.role, id.name)) = RawDocument.listing raw ∧
      (∀ id ∈ listing.all, resolver.rules.derive id.role id.name = .ok id.identifier ∧
        id.identifier ∉ resolver.rules.reserved id.role) ∧
      (listing.callables.map Identifier.identifier).Nodup ∧
      ∀ f ∈ listing.functions, (f.2.map Identifier.identifier).Nodup) ∧
    (RawDocument.IsFormed raw → RawDocument.Collides resolver.rules raw →
      ∃ message, resolver.resolve raw s = .error (.identifierCollision message) s) := by
  constructor
  · intro i s' h
    obtain ⟨hservice, hraw, hseparates⟩ := listing_of_resolveDocument h
    have hidentifiers := Interface.identifiers_eq hservice hseparates
    refine ⟨i.listing.map resolver.rules.identified, hidentifiers, ?_, fun id hid => ?_, ?_, ?_⟩
    · rw [Listing.map_map]
      exact Listing.map_id.trans hraw
    · rw [Listing.all_map] at hid
      obtain ⟨d, hd, rfl⟩ := List.mem_map.1 hid
      have hkebab := Interface.isKebabCase_of_mem_all hservice hseparates d hd
      exact ⟨IdentifierRules.derive_of_isKebabCase hkebab, IdentifierRules.identifier_not_reserved⟩
    · rw [Listing.callables_map, List.map_map]
      exact (IdentifierRules.tellsApart_iff.1 hseparates.callables).2
    · intro f hf
      obtain ⟨g, hg, rfl⟩ := List.mem_map.1 hf
      rw [List.map_map]
      exact (IdentifierRules.tellsApart_iff.1 (hseparates.arguments g hg)).2
  · rintro hformed ⟨d, e, identifier, hsublist, hd, he⟩
    unfold resolve resolveDocument
    cases houtline : Outline.ofValue resolver.rules none raw with
    | error fault =>
      obtain ⟨message, rfl⟩ := Outline.ofValue_onlyCollides hformed fault houtline
      exact ⟨message, rfl⟩
    | ok outline =>
      obtain ⟨-, hlisting, hseparates⟩ := Outline.listing_of_ofValue houtline
      have hcallables := hseparates.callables
      rw [hlisting] at hcallables
      exact absurd rfl (hcallables.ne_of_sublist hsublist hd he)

namespace Sample

/-- A declaration with the empty schema, which is that of every value. -/
def declaredAnything (name : String) : Value := .object (declaration name [("schema", .object [])])

/-- A document for letters. -/
def letters : Value :=
  document [
    ("types", .array [declaredAnything "air-mail"]),
    ("functions", .array [.object (declaration "send-it" [
      ("arguments", .array [declaredAnything "from", declaredAnything "to"])])]),
    ("messages", .array [declaredAnything "sent"])]

/-- A document with a function and a message of the same name. Its type has no schema. -/
def ambiguous : Value :=
  document [
    ("types", .array [.object (declaration "air-mail" [("schema", .null)])]),
    ("functions", .array [.object (declaration "send" [])]),
    ("messages", .array [declaredAnything "send"])]

/-- A resolver that keeps away from a keyword. -/
def careful : Resolver := .new (IdentifierRules.none.reserve .field ["from"]) none

theorem ambiguous_isFormed : RawDocument.IsFormed ambiguous := by
  have hdeclaration : ∀ name members, isKebabCase name →
      RawDocument.IsDeclaration (declaration name members) :=
    fun name members hname => ⟨⟨name, rfl, hname⟩, ⟨"A sample.", rfl, by decide⟩⟩
  have hsingle : ∀ name members, isKebabCase name →
      RawDocument.IsSection (some (.array [.object (declaration name members)])) := by
    intro name members hname
    refine .inr ⟨_, rfl, fun item hitem => ?_⟩
    rw [List.mem_singleton.1 hitem]
    exact ⟨_, rfl, hdeclaration name members hname⟩
  exact
    { service := ⟨_, rfl, hdeclaration "sample" _ (by decide), "1.0.0", rfl, by decide⟩
      types := hsingle "air-mail" _ (by decide)
      functions := hsingle "send" _ (by decide)
      messages := hsingle "send" _ (by decide)
      arguments := by
        intro f hf
        rw [List.mem_singleton.1 hf]
        exact .inl rfl
      fragments := .inl rfl }

end Sample

/-- The identifiers of the letters, one of which keeps away from a keyword, and the refusal of two
declarations with the same identifier, in spite of the faulty schema of another one. -/
theorem Resolver.identifiers_apart_letters :
    (∃ i s', ∃ listing : Listing Identifier, Sample.careful.resolve Sample.letters .empty = .ok i s' ∧
      i.identifiers Sample.careful.rules = .ok listing.all ∧ listing.all =
        [⟨.service, "sample", "sample"⟩, ⟨.type, "air-mail", "AirMail"⟩,
          ⟨.function, "send-it", "send_it"⟩, ⟨.field, "from", "from_"⟩, ⟨.field, "to", "to"⟩,
          ⟨.message, "sent", "sent"⟩] ∧
      (listing.callables.map Identifier.identifier).Nodup) ∧
    ∃ message, Sample.careful.resolve Sample.ambiguous .empty =
      .error (.identifierCollision message) .empty := by
  have hresolves : ((result? (Sample.careful.resolve Sample.letters) .empty).bind
      fun i => (i.identifiers Sample.careful.rules).toOption) = some
        [⟨.service, "sample", "sample"⟩, ⟨.type, "air-mail", "AirMail"⟩,
          ⟨.function, "send-it", "send_it"⟩, ⟨.field, "from", "from_"⟩, ⟨.field, "to", "to"⟩,
          ⟨.message, "sent", "sent"⟩] := by decide +kernel
  have hcollides : RawDocument.Collides Sample.careful.rules Sample.ambiguous :=
    ⟨(.function, "send"), (.message, "send"), "send", by decide, by decide +kernel, by decide +kernel⟩
  obtain ⟨i, hi, hidentifiers⟩ := Option.bind_eq_some_iff.1 hresolves
  obtain ⟨s', h⟩ := result?_eq_some.1 hi
  obtain ⟨listing, hlisting, -, -, hnodup, -⟩ := (identifiers_apart _ _ _).1 i s' h
  rw [hlisting] at hidentifiers
  exact ⟨⟨i, s', listing, h, hlisting, Option.some.inj hidentifiers, hnodup⟩,
    (identifiers_apart _ _ _).2 Sample.ambiguous_isFormed hcollides⟩

end ServiceContract
