import ServiceContract.Document.Outline
import ServiceContract.Proofs.Runs
import ServiceContract.Proofs.Schema.Following

/-!
# Sites of schemas

The places of an interface that a schema stands at, with the schema there and the raw schema at the
same place of the raw document. The outline of a document lists the declarations of the raw
document, so that both can be found in it.
-/

namespace ServiceContract

open Json (Value Members)

/-- A place that a schema stands at. -/
inductive Site where
  /-- A named type. -/
  | type (name : String)
  /-- An argument of a function. -/
  | argument (function name : String)
  /-- The result of a function. -/
  | returns (function : String)
  /-- The payload of a message. -/
  | message (name : String)
  /-- A reusable fragment. -/
  | fragment (key : String)
deriving DecidableEq, Repr

namespace RawDocument

/-- The list under a key, empty if there is none. -/
def list (key : String) (raw : Value) : List Value := ((raw.member? key).bind Value.array?).getD []

theorem member?_object {key : String} {members : Members} :
    (Value.object members).member? key = members.lookup key := rfl

theorem list_object {key : String} {members : Members} :
    list key (.object members) = ((members.lookup key).bind Value.array?).getD [] := rfl

/-- The name of a raw declaration. -/
def name? (raw : Value) : Option String := (raw.member? "name").bind Value.string?

/-- The first of some raw declarations that has a name. -/
def declaration? (declarations : List Value) (name : String) : Option Value :=
  declarations.find? fun raw => name? raw == some name

/-- The raw schema at a site of a raw document. -/
def schemaAt? (raw : Value) : Site → Option Value
  | .type name => (declaration? (list "types" raw) name).bind (Value.member? "schema")
  | .argument function name =>
    (declaration? (list "functions" raw) function).bind fun f =>
      (declaration? (list "arguments" f) name).bind (Value.member? "schema")
  | .returns function =>
    (declaration? (list "functions" raw) function).bind fun f =>
      (f.member? "returns").bind (Value.member? "schema")
  | .message name => (declaration? (list "messages" raw) name).bind (Value.member? "schema")
  | .fragment key => (raw.member? "schemas").bind (Value.member? key)

/-- The raw schema stands somewhere in the raw document; a fragment comes with its key. -/
inductive HasSchema (raw : Value) : (fragment : Option String) → Value → Prop where
  /-- It is that of a type. -/
  | type {t schema : Value} (ht : t ∈ list "types" raw) (hschema : t.member? "schema" = some schema) :
      HasSchema raw none schema
  /-- It is that of an argument. -/
  | argument {f a schema : Value} (hf : f ∈ list "functions" raw) (ha : a ∈ list "arguments" f)
      (hschema : a.member? "schema" = some schema) : HasSchema raw none schema
  /-- It is that of a result. -/
  | returns {f r schema : Value} (hf : f ∈ list "functions" raw) (hr : f.member? "returns" = some r)
      (hschema : r.member? "schema" = some schema) : HasSchema raw none schema
  /-- It is that of a message. -/
  | message {m schema : Value} (hm : m ∈ list "messages" raw)
      (hschema : m.member? "schema" = some schema) : HasSchema raw none schema
  /-- It is a fragment. -/
  | fragment {key : String} {schema : Value} (h : schemaAt? raw (.fragment key) = some schema) :
      HasSchema raw (some key) schema

/-- Resolving the raw document may follow a reference to the named document while only fragments and
properties with some names are entered. -/
def Names (enters : (key : String) → Prop) (raw : Value) (name : String) : Prop :=
  ∃ fragment schema, HasSchema raw fragment schema ∧ (∀ key, fragment = some key → enters key) ∧
    RawSchema.Names enters schema name

/-- Only documents with such names are referred to. -/
def NamesOnly (named : String → Prop) (raw : Value) : Prop :=
  ∀ name, Names (fun _ => True) raw name → named name

theorem NamesOnly.of_hasSchema {named : String → Prop} {raw schema : Value}
    {fragment : Option String} (h : NamesOnly named raw) (hschema : HasSchema raw fragment schema) :
    RawSchema.NamesOnly named schema :=
  fun name hname => h name ⟨fragment, schema, hschema, fun _ _ => trivial, hname⟩

end RawDocument

/-! Small raw documents serve as samples later on. -/

namespace Sample

/-- A declaration with further members. -/
def declaration (name : String) (members : Members) : Members :=
  ("name", .string name) :: ("description", .string "A sample.") :: members

/-- A document with further members. -/
def document (members : Members) : Value :=
  .object (("service", .object (declaration "sample" [("version", .string "1.0.0")])) :: members)

/-- A reference as a raw schema. -/
def reference (text : String) : Value := .object [("$ref", .string text)]

end Sample

/-- The schema at a site. -/
def Interface.schemaAt? (i : Interface) : Site → Option Schema
  | .type name => (i.type? name).map NamedType.schema
  | .argument function name =>
    (i.function? function).bind fun f =>
      (f.arguments.find? fun a => a.name == name).map Argument.schema
  | .returns function => (i.function? function).bind fun f => f.returns.map Returns.schema
  | .message name => (i.message? name).map Message.schema
  | .fragment key => i.fragment? key

theorem Interface.schemaAt?_type {i : Interface} {name : String} {named : NamedType}
    (h : i.type? name = some named) : i.schemaAt? (.type name) = some named.schema := by
  unfold schemaAt?
  dsimp only
  rw [h]
  rfl

/-- The schema stands somewhere in the interface. -/
inductive Interface.HasSchema (i : Interface) : Schema → Prop where
  /-- It is that of a type. -/
  | type {t : NamedType} (h : t ∈ i.types) : HasSchema i t.schema
  /-- It is that of an argument. -/
  | argument {f : Function} {a : Argument} (hf : f ∈ i.functions) (ha : a ∈ f.arguments) :
      HasSchema i a.schema
  /-- It is that of a result. -/
  | returns {f : Function} {r : Returns} (hf : f ∈ i.functions) (hr : f.returns = some r) :
      HasSchema i r.schema
  /-- It is that of a message. -/
  | message {m : Message} (h : m ∈ i.messages) : HasSchema i m.schema
  /-- It is a fragment. -/
  | fragment {key : String} {schema : Schema} (h : (key, schema) ∈ i.fragments) :
      HasSchema i schema

theorem Interface.hasSchema_of_schemaAt? {i : Interface} {site : Site} {schema : Schema}
    (h : i.schemaAt? site = some schema) : i.HasSchema schema := by
  cases site with
  | type name =>
    obtain ⟨t, ht, rfl⟩ := Option.map_eq_some_iff.1 h
    exact .type (List.mem_of_find?_eq_some ht)
  | argument function name =>
    obtain ⟨f, hf, h⟩ := Option.bind_eq_some_iff.1 h
    obtain ⟨a, ha, rfl⟩ := Option.map_eq_some_iff.1 h
    exact .argument (List.mem_of_find?_eq_some hf) (List.mem_of_find?_eq_some ha)
  | returns function =>
    obtain ⟨f, hf, h⟩ := Option.bind_eq_some_iff.1 h
    obtain ⟨r, hr, rfl⟩ := Option.map_eq_some_iff.1 h
    exact .returns (List.mem_of_find?_eq_some hf) hr
  | message name =>
    obtain ⟨m, hm, rfl⟩ := Option.map_eq_some_iff.1 h
    exact .message (List.mem_of_find?_eq_some hm)
  | fragment key => exact .fragment (mem_of_lookup h)

/-! ## Outlines -/

/-- The header of a raw declaration. -/
def Header.IsOf (h : Header) (raw : Value) : Prop :=
  raw = .object h.raw ∧ h.raw.lookup "name" = some (.string h.name)

theorem Header.IsOf.name? {h : Header} {raw : Value} (hof : h.IsOf raw) :
    RawDocument.name? raw = some h.name := by
  obtain ⟨rfl, hname⟩ := hof
  simp [RawDocument.name?, Value.member?, hname, Value.string?]

/-- The header of a raw function with the headers of its arguments. -/
def FunctionHeader.IsOf (f : FunctionHeader) (raw : Value) : Prop :=
  f.header.IsOf raw ∧
    List.Forall₂ (fun raw h => Header.IsOf h raw) (RawDocument.list "arguments" raw) f.arguments

/-- The outline of a raw document. -/
structure Outline.IsOf (outline : Outline) (raw : Value) : Prop where
  /-- The version was read from a text. -/
  version : ∃ written, Version.ofText? written = some outline.service.version
  /-- No two types have the same name. -/
  typeNames : (outline.types.map Header.name).Nodup
  /-- The headers of the types. -/
  types : List.Forall₂ (fun raw h => Header.IsOf h raw) (RawDocument.list "types" raw) outline.types
  /-- The headers of the functions. -/
  functions : List.Forall₂ (fun raw f => FunctionHeader.IsOf f raw)
    (RawDocument.list "functions" raw) outline.functions
  /-- The headers of the messages. -/
  messages : List.Forall₂ (fun raw h => Header.IsOf h raw)
    (RawDocument.list "messages" raw) outline.messages
  /-- The raw fragments. -/
  fragments : ∀ key, RawDocument.schemaAt? raw (.fragment key) = outline.fragments.lookup key

/-- The schema of a raw declaration refers only to documents with such names. -/
def DeclaresOnly (named : String → Prop) (members : Members) : Prop :=
  ∀ schema, members.lookup "schema" = some schema → RawSchema.NamesOnly named schema

/-- So do those of the arguments of a function and of its result. -/
structure FunctionHeader.DeclaresOnly (named : String → Prop) (f : FunctionHeader) : Prop where
  /-- The arguments. -/
  arguments : ∀ a ∈ f.arguments, ServiceContract.DeclaresOnly named a.raw
  /-- The result. -/
  returns : ∀ members, f.header.raw.lookup "returns" = some (.object members) →
    ServiceContract.DeclaresOnly named members

section NamesOnly

variable {named : String → Prop} {raw : Value} {outline : Outline} (hof : outline.IsOf raw)
  (hnamed : RawDocument.NamesOnly named raw)

include hof hnamed

theorem declaresOnly_of_mem_types {h : Header} (hmem : h ∈ outline.types) :
    DeclaresOnly named h.raw := by
  intro schema hschema
  obtain ⟨_, ht, rfl, -⟩ := exists_of_forall₂_right hof.types hmem
  exact hnamed.of_hasSchema (.type ht hschema)

theorem declaresOnly_of_mem_messages {h : Header} (hmem : h ∈ outline.messages) :
    DeclaresOnly named h.raw := by
  intro schema hschema
  obtain ⟨_, hm, rfl, -⟩ := exists_of_forall₂_right hof.messages hmem
  exact hnamed.of_hasSchema (.message hm hschema)

theorem declaresOnly_of_mem_functions {f : FunctionHeader} (hmem : f ∈ outline.functions) :
    f.DeclaresOnly named := by
  obtain ⟨rawFunction, hf, ⟨rfl, -⟩, harguments⟩ := exists_of_forall₂_right hof.functions hmem
  refine ⟨fun a ha schema hschema => ?_, fun members hreturns schema hschema => ?_⟩
  · obtain ⟨_, hrawArgument, rfl, -⟩ := exists_of_forall₂_right harguments ha
    exact hnamed.of_hasSchema (.argument hf hrawArgument hschema)
  · exact hnamed.of_hasSchema (.returns hf hreturns hschema)

theorem namesOnly_of_lookup_fragments {key : String} {schema : Value}
    (h : outline.fragments.lookup key = some schema) : RawSchema.NamesOnly named schema :=
  hnamed.of_hasSchema (.fragment ((hof.fragments key).trans h))

end NamesOnly

namespace Outline

variable {location : String}

theorem stringMember_ok {members : Members} {key text : String}
    (h : stringMember members key location = .ok text) :
    members.lookup key = some (.string text) := by
  unfold stringMember at h
  split at h
  · next text' hlookup =>
    cases h
    exact hlookup
  · cases h

theorem requiredMember_ok {members : Members} {key : String} {value : Value}
    (h : requiredMember members key location = .ok value) : members.lookup key = some value := by
  unfold requiredMember at h
  split at h
  · next value' hlookup =>
    cases h
    exact hlookup
  · cases h

theorem readHeader_ok {role : Role} {raw : Value} {h : Header}
    (hread : readHeader role location raw = .ok h) : h.IsOf raw := by
  unfold readHeader at hread
  split at hread
  · next members =>
    simp only [bind_eq_ok] at hread
    obtain ⟨name, hname, -, -, description, -, hpure⟩ := hread
    cases hpure
    exact ⟨rfl, stringMember_ok hname⟩
  · cases hread

/-- The headers of a list are read one by one, each from its own declaration. -/
theorem readHeaders_each {role : Role} {locate : Nat → String} {repeated : String → String → Error}
    {index : Nat} {earlier : List String} {raws : List Value} {headers : List Header}
    (h : readHeaders role locate repeated index earlier raws = .ok headers) :
    List.Forall₂ (fun raw h => ∃ location, readHeader role location raw = .ok h) raws headers := by
  induction raws generalizing index earlier headers with
  | nil =>
    cases h
    exact .nil
  | cons raw rest ih =>
    unfold readHeaders at h
    obtain ⟨header, hheader, h⟩ := bind_eq_ok.1 h
    by_cases hrepeated : header.name ∈ earlier
    · simp [hrepeated, throw, throwThe, MonadExceptOf.throw, bind, Except.bind] at h
    · simp only [hrepeated, if_false, bind_eq_ok] at h
      obtain ⟨headers', hrest, hpure⟩ := h
      cases hpure
      exact .cons ⟨_, hheader⟩ (ih hrest)

theorem readHeaders_ok {role : Role} {locate : Nat → String} {repeated : String → String → Error}
    {index : Nat} {earlier : List String} {raws : List Value} {headers : List Header}
    (h : readHeaders role locate repeated index earlier raws = .ok headers) :
    List.Forall₂ (fun raw h => Header.IsOf h raw) raws headers :=
  (readHeaders_each h).imp fun _ _ ⟨_, hread⟩ => readHeader_ok hread

/-- No name was read before, and none is read twice. -/
theorem readHeaders_nodup {role : Role} {locate : Nat → String} {repeated : String → String → Error}
    {index : Nat} {earlier : List String} {raws : List Value} {headers : List Header}
    (h : readHeaders role locate repeated index earlier raws = .ok headers) :
    (∀ header ∈ headers, header.name ∉ earlier) ∧ (headers.map Header.name).Nodup := by
  induction raws generalizing index earlier headers with
  | nil =>
    cases h
    exact ⟨fun header hmem => absurd hmem List.not_mem_nil, List.nodup_nil⟩
  | cons raw rest ih =>
    unfold readHeaders at h
    obtain ⟨header, -, h⟩ := bind_eq_ok.1 h
    by_cases hrepeated : header.name ∈ earlier
    · simp [hrepeated, throw, throwThe, MonadExceptOf.throw, bind, Except.bind] at h
    · simp only [hrepeated, if_false, bind_eq_ok] at h
      obtain ⟨headers', hrest, hpure⟩ := h
      cases hpure
      obtain ⟨hnew, hnodup⟩ := ih hrest
      refine ⟨List.forall_mem_cons.2 ⟨hrepeated, fun other hother hmem => ?_⟩, ?_⟩
      · exact hnew other hother (List.mem_cons_of_mem _ hmem)
      · rw [List.map_cons, List.nodup_cons]
        refine ⟨fun hmem => ?_, hnodup⟩
        obtain ⟨other, hother, hname⟩ := List.mem_map.1 hmem
        exact hnew other hother (hname ▸ List.mem_cons_self)

theorem readSection_nodup {locate : String → String} {root : Members} {name : String} {role : Role}
    {headers : List Header} (h : readSection locate root name role = .ok headers) :
    (headers.map Header.name).Nodup := by
  unfold readSection at h
  split at h
  · cases h
    exact List.nodup_nil
  · exact (readHeaders_nodup h).2
  · cases h

theorem readService_version {locate : String → String} {root : Members} {service : Service}
    (h : readService locate root = .ok service) :
    ∃ written, Version.ofText? written = some service.version := by
  unfold readService at h
  split at h
  · simp only [bind_eq_ok] at h
    obtain ⟨name, -, -, -, written, -, h⟩ := h
    split at h
    · cases h
    · next version hversion =>
      obtain ⟨description, -, hpure⟩ := bind_eq_ok.1 h
      cases hpure
      exact ⟨written, hversion⟩
  · cases h

theorem readSection_ok {locate : String → String} {root : Members} {name : String} {role : Role}
    {headers : List Header} (h : readSection locate root name role = .ok headers) :
    List.Forall₂ (fun raw h => Header.IsOf h raw) (RawDocument.list name (.object root)) headers := by
  unfold readSection at h
  rw [RawDocument.list_object]
  split at h
  · next hnone =>
    cases h
    rw [hnone]
    exact .nil
  · next items hitems =>
    rw [hitems]
    exact readHeaders_ok h
  · cases h

theorem readArguments_ok {locate : String → String} {header : Header} {raw : Value}
    {f : FunctionHeader} (hof : header.IsOf raw) (h : readArguments locate header = .ok f) :
    f.IsOf raw := by
  obtain ⟨rfl, hname⟩ := hof
  unfold readArguments at h
  unfold FunctionHeader.IsOf
  rw [RawDocument.list_object]
  split at h
  · next hnone =>
    cases h
    rw [hnone]
    exact ⟨⟨rfl, hname⟩, .nil⟩
  · next items hitems =>
    obtain ⟨arguments, harguments, hpure⟩ := bind_eq_ok.1 h
    cases hpure
    rw [hitems]
    exact ⟨⟨rfl, hname⟩, readHeaders_ok harguments⟩
  · cases h

theorem readFragments_ok {locate : String → String} {root fragments : Members}
    (h : readFragments locate root = .ok fragments) (key : String) :
    RawDocument.schemaAt? (.object root) (.fragment key) = fragments.lookup key := by
  unfold readFragments at h
  unfold RawDocument.schemaAt? Value.member?
  split at h
  · next hnone =>
    cases h
    simp [hnone]
  · next members hmembers =>
    cases h
    simp [hmembers]
  · cases h

/-- The outline that is read from a raw document lists its declarations. -/
theorem isOf_of_ofValue {rules : IdentifierRules} {document : Option String} {raw : Value}
    {outline : Outline} (h : ofValue rules document raw = .ok outline) : outline.IsOf raw := by
  unfold ofValue at h
  split at h
  · next root =>
    simp only [bind_eq_ok] at h
    obtain ⟨service, hservice, types, htypes, headers, hheaders, messages, hmessages, fragments,
      hfragments, functions, hfunctions, -, -, hpure⟩ := h
    cases hpure
    exact
      { version := readService_version hservice
        typeNames := readSection_nodup htypes
        types := readSection_ok htypes
        functions :=
          (forall₂_comp (readSection_ok hheaders) (mapM_eq_ok.1 hfunctions)).imp
            fun _ _ ⟨_, hof, hread⟩ => readArguments_ok hof hread
        messages := readSection_ok hmessages
        fragments := readFragments_ok hfragments }
  · cases h

end Outline

end ServiceContract
