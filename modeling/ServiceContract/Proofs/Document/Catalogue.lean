import ServiceContract.Proofs.Document.Circles
import ServiceContract.Proofs.Document.Headers
import ServiceContract.Proofs.Document.Identity
import ServiceContract.Proofs.Document.Origins

/-!
# Interfaces mirror their documents

A document that resolves has an interface that lists what the document declares: each list of
declarations has the interface's own counterpart, one by one and in the same order, with the same names
and descriptions, and each with what its own raw schema was resolved to. Fragments are kept by key, so of
them the keys are the same. A contract has one entry for each function and each message of the interface,
which checks by the schemas of that declaration.
-/

namespace ServiceContract

open Json (Value Members)

variable {σ : Type}

/-! ## Mirroring -/

/-- The schema is what the raw schema of the raw declaration was resolved to. -/
def RawDocument.HasOwnSchema (resolved : Value → Schema → Prop) (raw : Value) (schema : Schema) : Prop :=
  ∃ rawSchema, raw.member? "schema" = some rawSchema ∧ resolved rawSchema schema

open RawDocument (Describes Declares HasOwnSchema Lists)

/-- The function is the one that is declared, with its arguments in order, and it has a result exactly if
one is declared. -/
structure Function.Mirrors (resolved : Value → Schema → Prop) (raw : Value) (f : Function) : Prop where
  /-- Its name and description. -/
  declared : Declares raw f.name f.description
  /-- Its arguments. -/
  arguments : Lists "arguments" raw
    (fun item a => Declares item a.name a.description ∧ HasOwnSchema resolved item a.schema) f.arguments
  /-- There is no result. -/
  noReturns : f.returns = none ↔ raw.member? "returns" = none
  /-- Its result. -/
  returns : ∀ r, f.returns = some r → ∃ item, raw.member? "returns" = some item ∧
    Describes item r.description ∧ HasOwnSchema resolved item r.schema

/-- The interface lists what the raw document declares. -/
structure Interface.Mirrors (resolved : Value → Schema → Prop) (raw : Value) (i : Interface) : Prop where
  /-- The service. -/
  service : ∃ item, raw.member? "service" = some item ∧
    Declares item i.service.name i.service.description ∧
    ∃ written, item.member? "version" = some (.string written) ∧
      Version.ofText? written = some i.service.version
  /-- The types. -/
  types : Lists "types" raw
    (fun item t => Declares item t.name t.description ∧ HasOwnSchema resolved item t.schema) i.types
  /-- The functions. -/
  functions : Lists "functions" raw (Function.Mirrors resolved) i.functions
  /-- The messages. -/
  messages : Lists "messages" raw
    (fun item m => Declares item m.name m.description ∧ HasOwnSchema resolved item m.schema) i.messages
  /-- Raw fragments stand in a mapping. -/
  isMapping : raw.member? "schemas" = none ∨ ∃ members, raw.member? "schemas" = some (.object members)
  /-- No fragment is kept twice. -/
  fragmentKeys : (i.fragments.map Prod.fst).Nodup
  /-- The fragments are those of the document. -/
  sameKeys : ∀ key, key ∈ i.fragments.map Prod.fst ↔ key ∈ (RawDocument.fragments raw).map Prod.fst
  /-- Each is what its own raw fragment was resolved to. -/
  fragments : ∀ key schema, (key, schema) ∈ i.fragments →
    ∃ rawSchema, (RawDocument.fragments raw).lookup key = some rawSchema ∧ resolved rawSchema schema

/-- The contract has one entry for each function and each message of the interface, and no other, which
checks by the schemas of that declaration. -/
structure Contract.CompiledFrom (contract : Contract) (i : Interface) (maxDepth : Nat) : Prop where
  /-- The entries of functions. -/
  functions : contract.functions.map FunctionContract.name = i.functions.map Function.name
  /-- The entries of messages. -/
  messages : contract.messages.map Prod.fst = i.messages.map Message.name
  /-- The entry of a function. -/
  function : ∀ f ∈ i.functions, contract.function f.name = .ok
    ⟨f.name, f.arguments.map fun a => (a.name, ⟨a.schema, i.registry, maxDepth⟩),
      f.returns.map fun r => ⟨r.schema, i.registry, maxDepth⟩⟩
  /-- The entry of a message. -/
  message : ∀ m ∈ i.messages, contract.message m.name = .ok ⟨m.schema, i.registry, maxDepth⟩
  /-- There are no other functions. -/
  noFunction : ∀ name, name ∉ i.functions.map Function.name →
    contract.function name = .error (.unknownFunction name)
  /-- There are no other messages. -/
  noMessage : ∀ name, name ∉ i.messages.map Message.name →
    contract.message name = .error (.unknownMessage name)

/-! ## Names and descriptions -/

/-- The function has the names and descriptions of its header. -/
structure FunctionHeader.Heads (header : FunctionHeader) (f : Function) : Prop where
  /-- Its own name. -/
  name : f.name = header.header.name
  /-- Its own description. -/
  description : f.description = header.header.description
  /-- Those of its arguments. -/
  arguments : List.Forall₂ (fun h (a : Argument) => a.name = h.name ∧ a.description = h.description)
    header.arguments f.arguments
  /-- The description of its result. -/
  returns : ∀ r, f.returns = some r → ∃ members,
    header.header.raw.lookup "returns" = some (.object members) ∧
      Describes (.object members) r.description

/-- The interface has the names and descriptions of the outline. -/
structure Outline.Heads (outline : Outline) (i : Interface) : Prop where
  /-- The types. -/
  types : List.Forall₂ (fun h (t : NamedType) => t.name = h.name ∧ t.description = h.description)
    outline.types i.types
  /-- The functions. -/
  functions : List.Forall₂ FunctionHeader.Heads outline.functions i.functions
  /-- The messages. -/
  messages : List.Forall₂ (fun h (m : Message) => m.name = h.name ∧ m.description = h.description)
    outline.messages i.messages

section Heads

variable {here : Surroundings σ} {fragments : Members} {p : Progress σ}

theorem Surroundings.returns_headed {h : Header} :
    (anything Error (Progress σ)).Runs (here.returns fragments h) p fun returns _ =>
      ∀ r, returns = some r → ∃ members, h.raw.lookup "returns" = some (.object members) ∧
        Describes (.object members) r.description := by
  unfold returns
  dsimp only
  split
  · exact .pure trivial nofun
  · next members hmembers =>
    have hdescription : (anything Error (Progress σ)).Runs (Resolving.ofExcept
        (Outline.descriptionMember members (here.locate ("/functions/" ++ h.name ++ "/returns")))) p
        fun description _ => Describes (.object members) description := by
      cases hread : Outline.descriptionMember members
          (here.locate ("/functions/" ++ h.name ++ "/returns")) with
      | error e => exact .throw trivial trivial
      | ok description => exact .pure trivial (descriptionMember_eq_ok.1 hread)
    refine hdescription.bind fun description p₁ _ _ hdescribes => ?_
    refine anything_runs.map fun schema p₂ _ _ _ r hr => ?_
    cases hr
    exact ⟨members, hmembers, hdescribes⟩
  · exact .throw trivial trivial

theorem Surroundings.function_headed {header : FunctionHeader} :
    (anything Error (Progress σ)).Runs (here.function fragments header) p fun f _ =>
      header.Heads f := by
  unfold function
  have harguments := Discipline.Runs.mapM (D := anything Error (Progress σ)) (s := p)
    (f := here.argument fragments header.header.name) (l := header.arguments)
    (Q := fun h (a : Argument) _ => a.name = h.name ∧ a.description = h.description) trivial
    (fun _ hheads => hheads) fun h _ p' _ _ => anything_runs.map fun _ _ _ _ _ => ⟨rfl, rfl⟩
  refine harguments.bind fun arguments p₁ _ _ harguments => ?_
  exact Surroundings.returns_headed.map fun returns p₂ _ _ hreturns =>
    ⟨rfl, rfl, harguments, hreturns⟩

/-- Resolving an outline keeps its names and descriptions. -/
theorem Outline.resolve_headed {outline : Outline} {document : Option String}
    {library : Option (Library σ)} :
    (anything Error (Progress σ)).Runs (outline.resolve document library) p fun i _ =>
      outline.Heads i := by
  unfold resolve
  have htypes := Discipline.Runs.mapM (D := anything Error (Progress σ)) (s := p) (l := outline.types)
    (f := (Surroundings.mk document (outline.types.map Header.name) library).namedType
      outline.fragments)
    (Q := fun h (t : NamedType) _ => t.name = h.name ∧ t.description = h.description) trivial
    (fun _ hheads => hheads) fun h _ p' _ _ => anything_runs.map fun _ _ _ _ _ => ⟨rfl, rfl⟩
  refine htypes.bind fun types p₁ _ _ htypes => ?_
  have hfunctions := Discipline.Runs.mapM (D := anything Error (Progress σ)) (s := p₁)
    (l := outline.functions)
    (f := (Surroundings.mk document (outline.types.map Header.name) library).function
      outline.fragments)
    (Q := fun header f _ => header.Heads f) trivial
    (fun _ hheads => hheads) fun h _ p' _ _ => Surroundings.function_headed
  refine hfunctions.bind fun functions p₂ _ _ hfunctions => ?_
  have hmessages := Discipline.Runs.mapM (D := anything Error (Progress σ)) (s := p₂)
    (l := outline.messages)
    (f := (Surroundings.mk document (outline.types.map Header.name) library).message
      outline.fragments)
    (Q := fun h (m : Message) _ => m.name = h.name ∧ m.description = h.description) trivial
    (fun _ hheads => hheads) fun h _ p' _ _ => anything_runs.map fun _ _ _ _ _ => ⟨rfl, rfl⟩
  refine hmessages.bind fun messages p₃ _ _ hmessages => ?_
  refine anything_runs.bind fun _ p₄ _ _ _ => anything_runs.bind fun _ p₅ _ _ _ => ?_
  exact .afterGet (.pure trivial ⟨htypes, hfunctions, hmessages⟩)

end Heads

/-! ## Fragments by key -/

section Ordered

/-- Fragments are kept in the order of their keys, each once. -/
def Progress.ordered (σ : Type) : Discipline Error (Progress σ) where
  inv p := Ascending (p.fragments.map Prod.fst)
  le _ _ := True
  fault _ _ := True
  refl _ := trivial
  trans _ _ := trivial

variable {here : Surroundings σ} {p : Progress σ}

theorem external_ordered (hp : (Progress.ordered σ).inv p) (document location : String) :
    (Progress.ordered σ).Runs (here.external document location) p fun _ _ => True := by
  unfold Surroundings.external
  refine .afterGet ?_
  split
  · exact .pure hp trivial
  · split
    · exact .throw hp trivial
    · next library _ =>
      have hlibrary : (Progress.ordered σ).Runs
          (Resolving.inLibrary (library.interfaceAt document)) p fun _ _ => True := by
        unfold Discipline.Runs Resolving.inLibrary
        cases library.interfaceAt document p.library <;> exact ⟨hp, trivial, trivial⟩
      refine hlibrary.bind fun found p₁ hp₁ _ _ => ?_
      exact .afterModify hp₁ trivial (.pure hp₁ trivial)

theorem resolveReference_ordered (hp : (Progress.ordered σ).inv p)
    {fragment : (key location : String) → Resolving σ Schema}
    (hfragment : ∀ key location p, (Progress.ordered σ).inv p →
      (Progress.ordered σ).Runs (fragment key location) p fun _ _ => True) (text location : String) :
    (Progress.ordered σ).Runs (here.resolveReference fragment text location) p fun _ _ => True := by
  unfold Surroundings.resolveReference
  split
  · exact .throw hp trivial
  · next r _ =>
    have hkey : (Progress.ordered σ).Runs (Resolving.ofExcept (here.documentKey r)) p
        fun _ _ => True := by
      cases here.documentKey r with
      | ok document => exact .pure hp trivial
      | error e => exact .throw hp trivial
    refine hkey.bind fun document p₁ hp₁ _ _ => ?_
    split
    · split
      · split
        · exact .pure hp₁ trivial
        · exact .throw hp₁ trivial
      · next key _ => exact hfragment key location p₁ hp₁
    · refine (external_ordered hp₁ _ location).bind fun i p₂ hp₂ _ _ => ?_
      split <;> split
      · exact .pure hp₂ trivial
      · exact .throw hp₂ trivial
      · exact .pure hp₂ trivial
      · exact .throw hp₂ trivial

theorem ofValue_ordered (hp : (Progress.ordered σ).inv p)
    {fragment : (key location : String) → Resolving σ Schema}
    (hfragment : ∀ key location p, (Progress.ordered σ).inv p →
      (Progress.ordered σ).Runs (fragment key location) p fun _ _ => True) (raw : Value)
    (location : String) :
    (Progress.ordered σ).Runs (Schema.ofValue (here.resolveReference fragment) raw location) p
      fun _ _ => True := by
  have hkeeps : Schema.Keeps (Progress.ordered σ) (fun _ => True) (here.resolveReference fragment)
      (fun _ _ _ => True) (fun _ _ _ => True) :=
    { fault := fun _ _ _ _ => trivial
      refs := fun text location p _ hp => resolveReference_ordered hp hfragment text location
      stable := fun _ _ => trivial
      form := fun _ _ _ => trivial }
  exact Schema.ofValue_runs hkeeps raw (fun _ _ => trivial) location p hp

/-- A fragment is put in its place. -/
theorem fragment_ordered (hp : (Progress.ordered σ).inv p) (free : Members) (stack : List String)
    (key location : String) :
    (Progress.ordered σ).Runs (here.fragment free stack key location) p fun _ _ => True := by
  induction hlength : free.length using Nat.strong_induction_on
    generalizing free stack key location p with
  | _ n ih =>
    subst hlength
    rw [Surroundings.fragment]
    refine .afterGet ?_
    split
    · exact .pure hp trivial
    · split
      · next raw hraw =>
        refine (ofValue_ordered hp (fun key' location' p hp =>
          ih _ (length_withoutKey_lt hraw) hp _ _ _ _ rfl) raw _).bind fun schema p₁ hp₁ _ _ => ?_
        exact .afterModify (ascending_putEntry hp₁) trivial (.pure (ascending_putEntry hp₁) trivial)
      · split
        · exact .throw hp trivial
        · exact .throw hp trivial

theorem Outline.resolve_ordered {outline : Outline} {document : Option String}
    {library : Option (Library σ)} (hp : (Progress.ordered σ).inv p) :
    (Progress.ordered σ).Runs (outline.resolve document library) p fun _ _ => True := by
  have hfragment : ∀ key location p, (Progress.ordered σ).inv p → (Progress.ordered σ).Runs
      ((Surroundings.mk document (outline.types.map Header.name) library).fragment
        outline.fragments [] key location) p fun _ _ => True :=
    fun key location p hp => fragment_ordered hp _ _ key location
  exact resolve_keeps (fun _ _ _ _ => trivial)
    (fun raw path p hp => ofValue_ordered hp hfragment raw _) hfragment hp

end Ordered

/-! ## Interfaces -/

/-- The interface is one that the library gives for the key. -/
def Library.Gives (library : Option (Library σ)) (key : String) (i : Interface) : Prop :=
  ∃ l s s', library = some l ∧ l.interfaceAt key s = .ok i s'

/-- The interface mirrors the document with the key, where raw schemas are resolved completely with
interfaces that the library gives for other keys, and its declarations can be told by their names. -/
def Interface.MirrorsDocument (library : Option (Library σ)) (document : Option String) (raw : Value)
    (i : Interface) : Prop :=
  ∃ externals, (∀ key j, (key, j) ∈ externals → some key ≠ document ∧ Library.Gives library key j) ∧
    i.Mirrors ((Surroundings.mk document (i.types.map NamedType.name) library).Resolved
      (RawDocument.fragments raw) externals) raw ∧ i.WellNamed

/-- Complete resolution can be told from the outside, and so can the interfaces of a library. -/
theorem Surroundings.resolves_given (here : Surroundings σ) (fragments : Members) :
    Resolves (anything Error σ) here fragments (fun _ => True)
      (fun _ key i => Library.Gives here.library key i)
      (fun _ externals => here.Resolved fragments externals) where
  fault _ _ _ _ := trivial
  key _ _ _ _ _ _ _ := trivial
  library l _ _ s hl _ _ _ _ :=
    anything_runs.result.imp fun _ s' _ _ hi => ⟨l, s, s', hl, hi.1⟩
  namesOnly _ _ _ := trivial
  linkStable _ hlink := hlink
  standsStable _ hextends h := h.extends hextends
  form _ _ h _ := .of_hasForm h

section Mirrors

open Resolves (OutlineStands NamedStands DeclaredStands)

variable {stands : Standing σ} {p : Progress σ} {outline : Outline} {raw : Value} {i : Interface}

/-- The schema of a declaration is what its own raw schema stands for. -/
theorem hasOwnSchema_of_declaredStands {members : Members} {schema : Schema}
    (h : DeclaredStands stands members schema p) :
    HasOwnSchema (stands p.library p.externals) (.object members) schema := h

/-- What has the name, the description and the schema of a header mirrors its raw declaration. -/
theorem declares_of_header {h : Header} {item : Value} {name description : String} {schema : Schema}
    (hheader : h.Mirrors item) (hheads : name = h.name ∧ description = h.description)
    (hstands : NamedStands stands h name schema p) :
    Declares item name description ∧ HasOwnSchema (stands p.library p.externals) item schema := by
  obtain ⟨rfl, hdeclares⟩ := hheader
  obtain ⟨rfl, rfl⟩ := hheads
  exact ⟨hdeclares, hasOwnSchema_of_declaredStands hstands.2⟩

/-- A function that stands for its header, with its names and descriptions, mirrors the raw function. -/
theorem Function.mirrors_of_header {header : FunctionHeader} {item : Value} {f : Function}
    (hheader : header.Mirrors item) (hheads : header.Heads f)
    (hstands : Resolves.FunctionStands stands header f p) :
    f.Mirrors (stands p.library p.externals) item := by
  obtain ⟨⟨rfl, hdeclares⟩, harguments⟩ := hheader
  obtain ⟨-, hstandArguments, hstandReturns⟩ := hstands
  have hboth := List.Forall₂.mp (fun _ _ hheads hstands => And.intro hheads hstands) hheads.arguments
    hstandArguments
  unfold Resolves.ReturnsStand at hstandReturns
  refine ⟨?_, harguments.imp hboth fun item h a hitem ha => declares_of_header hitem ha.1 ha.2, ?_, ?_⟩
  · rw [hheads.name, hheads.description]
    exact hdeclares
  · rw [RawDocument.member?_object]
    cases hreturns : f.returns with
    | none =>
      rw [hreturns] at hstandReturns
      exact ⟨fun _ => hstandReturns, fun _ => rfl⟩
    | some r =>
      rw [hreturns] at hstandReturns
      obtain ⟨members, hmembers, -⟩ := hstandReturns
      rw [hmembers]
      exact ⟨nofun, nofun⟩
  · intro r hreturns
    rw [hreturns] at hstandReturns
    obtain ⟨members, hmembers, hschema⟩ := hstandReturns
    obtain ⟨members', hmembers', hdescribes⟩ := hheads.returns r hreturns
    cases hmembers.symm.trans hmembers'
    exact ⟨.object members, hmembers, hdescribes, hasOwnSchema_of_declaredStands hschema⟩

/-- An interface that stands for an outline, with its names and descriptions, mirrors the document of the
outline. -/
theorem Interface.mirrors_of_outline (houtline : outline.Mirrors raw) (hheads : outline.Heads i)
    (hstands : OutlineStands stands outline i p) (hordered : (Progress.ordered σ).inv p)
    (hfragments : ∀ key schema, (key, schema) ∈ p.fragments → ∃ rawSchema,
      outline.fragments.lookup key = some rawSchema ∧
        stands p.library p.externals rawSchema schema) :
    i.Mirrors (stands p.library p.externals) raw := by
  have htypes := List.Forall₂.mp (fun _ _ hheads hstands => And.intro hheads hstands) hheads.types
    hstands.types
  have hfunctions := List.Forall₂.mp (fun _ _ hheads hstands => And.intro hheads hstands)
    hheads.functions hstands.functions
  have hmessages := List.Forall₂.mp (fun _ _ hheads hstands => And.intro hheads hstands)
    hheads.messages hstands.messages
  exact
    { service := hstands.service ▸ houtline.service
      types := houtline.types.imp htypes fun _ _ _ hitem ht => declares_of_header hitem ht.1 ht.2
      functions := houtline.functions.imp hfunctions fun _ _ _ hitem hf =>
        Function.mirrors_of_header hitem hf.1 hf.2
      messages := houtline.messages.imp hmessages fun _ _ _ hitem hm => declares_of_header hitem hm.1 hm.2
      isMapping := houtline.isMapping
      fragmentKeys := by
        rw [hstands.fragments]
        refine hordered.imp fun {a b} hlt heq => ?_
        rw [heq] at hlt
        exact String.lt_irrefl b hlt
      sameKeys := by
        intro key
        rw [hstands.fragments, ← houtline.fragments]
        constructor
        · intro hmem
          obtain ⟨⟨_, schema⟩, hentry, rfl⟩ := List.mem_map.1 hmem
          obtain ⟨rawSchema, hraw, -⟩ := hfragments _ schema hentry
          exact List.mem_map_of_mem (mem_of_lookup hraw)
        · intro hmem
          obtain ⟨entry, hentry, rfl⟩ := List.mem_map.1 hmem
          obtain ⟨schema, hschema⟩ := Option.isSome_iff_exists.1 (hstands.allFragments entry hentry)
          exact List.mem_map_of_mem (mem_of_lookup hschema)
      fragments := by
        rw [hstands.fragments, ← houtline.fragments]
        exact hfragments }

end Mirrors

/-- The contract of an interface whose declarations can be told by their names is compiled from them. -/
theorem Interface.WellNamed.compiledFrom {i : Interface} (h : i.WellNamed) (maxDepth : Nat) :
    (Contract.ofInterface i maxDepth).CompiledFrom i maxDepth where
  functions := by
    unfold Contract.ofInterface
    rw [List.map_map]
    rfl
  messages := by
    unfold Contract.ofInterface
    rw [List.map_map]
    rfl
  function f hf := by
    have hfind : i.function? f.name = some f := find?_of_nodup h.functions.2 hf
    rw [Contract.function_ofInterface, hfind]
    rfl
  message m hm := by
    have hfind : i.message? m.name = some m := find?_of_nodup h.messages.2 hm
    rw [Contract.message_ofInterface, hfind]
  noFunction name hname := by
    have hfind : i.function? name = none := find?_name_eq_none.2 hname
    rw [Contract.function_ofInterface, hfind]
  noMessage name hname := by
    have hfind : i.message? name = none := find?_name_eq_none.2 hname
    rw [Contract.message_ofInterface, hfind]

/-- A document that resolves has an interface that mirrors it. -/
theorem Interface.mirrorsDocument_of_ok {rules : IdentifierRules} {document : Option String}
    {library : Option (Library σ)} {raw : Value} {s s' : σ} {i : Interface}
    (h : resolveDocument rules document library raw s = .ok i s') :
    i.MirrorsDocument library document raw := by
  obtain ⟨outline, p, houtline, hresolve, -⟩ := exists_of_resolveDocument_ok h
  have hof := Outline.isOf_of_ofValue houtline
  have hmirrors := Outline.mirrors_of_ofValue houtline
  have hheads : outline.Heads i := (Outline.resolve_headed.ok hresolve).2.2
  have hstart : (Progress.ordered σ).inv ⟨[], [], s⟩ := List.Pairwise.nil
  have hordered : (Progress.ordered σ).inv p := ((Outline.resolve_ordered hstart).ok hresolve).1
  have hresolves := Surroundings.resolves_given
    ⟨document, outline.types.map Header.name, library⟩ outline.fragments
  have hruns := hresolves.resolve_runs hof (fun _ _ => trivial) (hresolves.progress_start s trivial)
  obtain ⟨⟨-, hexternals, hfragments⟩, -, -, hstands⟩ := hruns.ok hresolve
  have hinterface := Interface.mirrors_of_outline hmirrors hheads hstands hordered hfragments
  have htypes : i.types.map NamedType.name = outline.types.map Header.name :=
    (map_eq_map_of_forall₂ hheads.types fun _ _ ht => ht.1.symm).symm
  rw [← htypes, hmirrors.fragments] at hinterface
  exact ⟨p.externals, hexternals, hinterface, Interface.wellNamed_of_resolveDocument h⟩

/-- So has every interface that a resolver loads: it mirrors a document in the store. -/
theorem Resolver.load_mirrors {resolver : Resolver} {s s' : Store} {i : Interface} {name : String}
    (hs : s.Reachable fun _ => True) (h : resolver.load name s = .ok i s') :
    ∃ key raw library, s'.raws.lookup key = some raw ∧
      i.MirrorsDocument (σ := Store) library (some key) raw := by
  have hP : ∀ rules : IdentifierRules, rules.Ensures fun document raw i =>
      ∃ library : Option (Library Store), i.MirrorsDocument library document raw :=
    fun _ _ library _ _ _ _ h => ⟨library, Interface.mirrorsDocument_of_ok h⟩
  obtain ⟨key, raw, hraw, library, hmirrors⟩ := (Resolver.returns_described hP hs).2 h
  exact ⟨key, raw, library, hraw, hmirrors⟩

/-- Nothing that a document declares is lost, repeated or put in another place: a document that resolves
has an interface that mirrors it, and the contract of the interface has one entry for each of its
functions and messages, compiled from the schemas of that declaration. -/
theorem Interface.mirrors_of_resolveDocument {rules : IdentifierRules} {document : Option String}
    {library : Option (Library σ)} {raw : Value} {s s' : σ} {i : Interface}
    (h : resolveDocument rules document library raw s = .ok i s') (maxDepth : Nat) :
    i.MirrorsDocument library document raw ∧
      (Contract.ofInterface i maxDepth).CompiledFrom i maxDepth :=
  ⟨Interface.mirrorsDocument_of_ok h,
    (Interface.wellNamed_of_resolveDocument h).compiledFrom maxDepth⟩

/-- The interface of the letters mirrors them. -/
theorem Interface.mirrors_of_resolveDocument_letters :
    ∃ i s', resolveDocument (σ := Unit) Sample.careful.rules none none Sample.letters () = .ok i s' ∧
      i.functions.map (fun f => (f.name, f.arguments.map Argument.name)) =
        [("send-it", ["from", "to"])] ∧
      i.MirrorsDocument (σ := Unit) none none Sample.letters ∧
      (Contract.ofInterface i 256).CompiledFrom i 256 := by
  have hresolves : (result? (resolveDocument (σ := Unit) Sample.careful.rules none none
      Sample.letters) ()).map (fun i => i.functions.map fun f =>
        (f.name, f.arguments.map Argument.name)) = some [("send-it", ["from", "to"])] := by
    decide +kernel
  obtain ⟨i, hi, hfunctions⟩ := Option.map_eq_some_iff.1 hresolves
  obtain ⟨s', h⟩ := result?_eq_some.1 hi
  obtain ⟨hmirrors, hcompiled⟩ := Interface.mirrors_of_resolveDocument h 256
  exact ⟨i, s', h, hfunctions, hmirrors, hcompiled⟩

end ServiceContract
