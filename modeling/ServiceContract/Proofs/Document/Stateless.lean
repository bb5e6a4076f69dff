import ServiceContract.Proofs.Document.Declarations
import ServiceContract.Proofs.Document.Headers
import ServiceContract.Proofs.Document.Unfolding

/-!
# Resolution without state

What the declarations of a document that names no other one are resolved to, told from the outline and
from what its raw schemas are read as. No state goes from one declaration to the next, so that it is
seen that none matters.
-/

namespace ServiceContract

open Json (Value Members)

/-! ## Declarations -/

namespace Glossary

variable (glossary : Glossary)

/-- The schema of a declaration. -/
noncomputable def declared (raw : Members) : Option Schema := do
  glossary.read? (← raw.lookup "schema")

/-- A named type. -/
noncomputable def namedType (h : Header) : Option NamedType := do
  return ⟨h.name, h.description, ← glossary.declared h.raw⟩

/-- An argument of a function. -/
noncomputable def argument (h : Header) : Option Argument := do
  return ⟨h.name, h.description, ← glossary.declared h.raw⟩

/-- A message. -/
noncomputable def message (h : Header) : Option Message := do
  return ⟨h.name, h.description, ← glossary.declared h.raw⟩

/-- The result of a function. -/
noncomputable def returns (raw : Members) : Option (Option Returns) :=
  match raw.lookup "returns" with
  | none => some none
  | some (.object members) => do
    let description ← (Outline.descriptionMember members "").toOption
    return some ⟨description, ← glossary.declared members⟩
  | some _ => none

/-- A function. -/
noncomputable def function (f : FunctionHeader) : Option Function := do
  let arguments ← f.arguments.mapM glossary.argument
  return ⟨f.header.name, f.header.description, arguments, ← glossary.returns f.header.raw⟩

/-- Everything that is declared, if all fragments have schemas and all types have values. -/
noncomputable def parts (outline : Outline) : Option Interface.Parts := do
  let types ← outline.types.mapM glossary.namedType
  let functions ← outline.functions.mapM glossary.function
  let messages ← outline.messages.mapM glossary.message
  outline.fragments.forM fun (key, _) => do
    let _ ← glossary.schema? key
    return
  (checkInhabited id types).toOption
  return ⟨types, functions, messages⟩

end Glossary

/-! ## Lists of results -/

theorem mapM_eq_some {α β : Type} {f : α → Option β} {l : List α} {bs : List β} :
    l.mapM f = some bs ↔ List.Forall₂ (fun a b => f a = some b) l bs := by
  induction l generalizing bs with
  | nil =>
    rw [List.forall₂_nil_left_iff]
    exact ⟨fun h => (Option.some.inj h).symm, fun h => congrArg some h.symm⟩
  | cons a rest ih =>
    rw [List.mapM_cons, List.forall₂_cons_left_iff]
    constructor
    · intro h
      obtain ⟨b, hb, h⟩ := Option.bind_eq_some_iff.1 h
      obtain ⟨bs', hbs', h⟩ := Option.bind_eq_some_iff.1 h
      exact ⟨b, bs', hb, ih.1 hbs', (Option.some.inj h).symm⟩
    · rintro ⟨b, bs', hb, hrest, rfl⟩
      exact Option.bind_eq_some_iff.2 ⟨b, hb, Option.bind_eq_some_iff.2 ⟨bs', ih.2 hrest, rfl⟩⟩

/-- Results for each element of a list are results for each element of another one that goes with
it. -/
theorem exists_mapM_eq_some {α β γ : Type} {r : α → β → Prop} {f : β → Option γ} {as : List α}
    {bs : List β} (h : List.Forall₂ r as bs) (hf : ∀ a ∈ as, ∀ b, r a b → ∃ c, f b = some c) :
    ∃ cs, bs.mapM f = some cs := by
  induction h with
  | nil => exact ⟨[], rfl⟩
  | @cons a b _ _ hab _ ih =>
    obtain ⟨c, hc⟩ := hf a (List.mem_cons_self ..) b hab
    obtain ⟨cs, hcs⟩ := ih fun a ha => hf a (List.mem_cons_of_mem _ ha)
    exact ⟨c :: cs, mapM_eq_some.2 (.cons hc (mapM_eq_some.1 hcs))⟩

theorem exists_of_mapM_eq_some {α β γ : Type} {r : α → β → Prop} {f : β → Option γ} {as : List α}
    {bs : List β} {cs : List γ} (h : List.Forall₂ r as bs) (hf : bs.mapM f = some cs) {a : α}
    (ha : a ∈ as) : ∃ b c, r a b ∧ f b = some c := by
  obtain ⟨c, -, b, hab, hc⟩ := exists_of_forall₂_right (forall₂_comp h (mapM_eq_some.1 hf)).flip ha
  exact ⟨b, c, hab, hc⟩

theorem forM_eq_some {α : Type} {f : α → Option PUnit} {l : List α} :
    l.forM f = some ⟨⟩ ↔ ∀ a ∈ l, f a = some ⟨⟩ := by
  induction l with
  | nil => exact ⟨fun _ _ h => absurd h List.not_mem_nil, fun _ => rfl⟩
  | cons a rest ih =>
    rw [List.forall_mem_cons, ← ih]
    exact Option.bind_eq_some_iff.trans ⟨fun ⟨_, ha, h⟩ => ⟨ha, h⟩, fun ⟨ha, h⟩ => ⟨_, ha, h⟩⟩

/-! ## Resolution has these results -/

theorem toOption_congr {ε ε' α : Type} {x : Except ε α} {y : Except ε' α}
    (h : ∀ a, x = .ok a ↔ y = .ok a) : x.toOption = y.toOption := by
  cases x with
  | ok a =>
    rw [(h a).1 rfl]
    rfl
  | error e =>
    cases y with
    | ok a => cases (h a).2 rfl
    | error e' => rfl

section Computes

variable {σ : Type} {here : Surroundings σ} {fragments : Members}

variable (hlocal : ∀ key raw, fragments.lookup key = some raw →
  RawSchema.NamesOnly (fun _ => False) raw)

include hlocal

theorem declaredSchema_computes {raw : Members} {path : String}
    (hraw : DeclaresOnly (fun _ => False) raw) :
    Computes (here.glossary fragments) (here.declaredSchema fragments raw path)
      ((here.glossary fragments).declared raw) := by
  unfold Surroundings.declaredSchema Outline.requiredMember Glossary.declared
  cases hschema : raw.lookup "schema" with
  | none => exact .throw
  | some schema => exact schemaAt_computes hlocal (hraw schema hschema)

theorem namedType_computes {header : Header} (hraw : DeclaresOnly (fun _ => False) header.raw) :
    Computes (here.glossary fragments) (here.namedType fragments header)
      ((here.glossary fragments).namedType header) :=
  (computing σ _).map (declaredSchema_computes hlocal hraw)

theorem argument_computes {function : String} {header : Header}
    (hraw : DeclaresOnly (fun _ => False) header.raw) :
    Computes (here.glossary fragments) (here.argument fragments function header)
      ((here.glossary fragments).argument header) :=
  (computing σ _).map (declaredSchema_computes hlocal hraw)

theorem message_computes {header : Header} (hraw : DeclaresOnly (fun _ => False) header.raw) :
    Computes (here.glossary fragments) (here.message fragments header)
      ((here.glossary fragments).message header) :=
  (computing σ _).map (declaredSchema_computes hlocal hraw)

theorem returns_computes {header : Header}
    (hraw : ∀ members, header.raw.lookup "returns" = some (.object members) →
      DeclaresOnly (fun _ => False) members) :
    Computes (here.glossary fragments) (here.returns fragments header)
      ((here.glossary fragments).returns header.raw) := by
  unfold Surroundings.returns Glossary.returns
  cases hreturns : header.raw.lookup "returns" with
  | none => exact (computing σ _).pure _
  | some raw =>
    cases raw with
    | object members =>
      -- Where the description stands does not matter.
      have hdescription : ∀ location, (Outline.descriptionMember members location).toOption =
          (Outline.descriptionMember members "").toOption :=
        fun _ => toOption_congr fun _ => descriptionMember_eq_ok.trans descriptionMember_eq_ok.symm
      refine (computing σ _).bind (hdescription _ ▸ ofExcept_computes) fun _ => ?_
      exact (computing σ _).map (declaredSchema_computes hlocal (hraw members hreturns))
    | null | bool | number | string | array => exact .throw

theorem function_computes {f : FunctionHeader} (hraw : f.DeclaresOnly fun _ => False) :
    Computes (here.glossary fragments) (here.function fragments f)
      ((here.glossary fragments).function f) := by
  refine (computing σ _).bind ((computing σ _).mapM fun a ha =>
    argument_computes hlocal (hraw.arguments a ha)) fun _ => ?_
  exact (computing σ _).map (returns_computes hlocal hraw.returns)

omit hlocal in
theorem checkInhabited_computes {locate : String → String} {types : List NamedType} :
    Computes (here.glossary fragments) (Resolving.ofExcept (checkInhabited locate types) : Resolving σ _)
      (checkInhabited id types).toOption := by
  have hsame : (checkInhabited id types).toOption = (checkInhabited locate types).toOption :=
    toOption_congr fun _ => checkInhabited_ok_iff.trans checkInhabited_ok_iff.symm
  exact hsame ▸ ofExcept_computes

end Computes

/-- Resolving an outline has the parts that are told without state. -/
theorem Outline.IsOf.resolveParts_computes {σ : Type} {here : Surroundings σ} {raw : Value}
    {outline : Outline} (hof : outline.IsOf raw) (hlocal : RawDocument.NamesOnly (fun _ => False) raw) :
    Computes (here.glossary outline.fragments) (outline.resolveParts here)
      ((here.glossary outline.fragments).parts outline) := by
  let glossary := here.glossary outline.fragments
  let P := computing σ glossary
  have hfragments : ∀ key raw, outline.fragments.lookup key = some raw →
      RawSchema.NamesOnly (fun _ => False) raw :=
    fun _ _ hraw => namesOnly_of_lookup_fragments hof hlocal hraw
  have htypes : P.pairs (outline.types.mapM (here.namedType outline.fragments))
      (outline.types.mapM glossary.namedType) :=
    P.mapM fun _ hmem => namedType_computes hfragments (declaresOnly_of_mem_types hof hlocal hmem)
  have hfunctions : P.pairs (outline.functions.mapM (here.function outline.fragments))
      (outline.functions.mapM glossary.function) :=
    P.mapM fun _ hmem => function_computes hfragments (declaresOnly_of_mem_functions hof hlocal hmem)
  have hmessages : P.pairs (outline.messages.mapM (here.message outline.fragments))
      (outline.messages.mapM glossary.message) :=
    P.mapM fun _ hmem => message_computes hfragments (declaresOnly_of_mem_messages hof hlocal hmem)
  refine P.bind htypes fun types => P.bind hfunctions fun functions => ?_
  refine P.bind hmessages fun messages => P.bind (P.forM fun entry _ => ?_) fun _ => ?_
  · exact P.map (fragment_computes hfragments)
  · exact P.map checkInhabited_computes

/-! ## What a document is resolved to -/

namespace Glossary

variable {glossary : Glossary} {outline : Outline} {parts : Interface.Parts} {header : Header}

theorem parts_eq_some : glossary.parts outline = some parts ↔
    outline.types.mapM glossary.namedType = some parts.types ∧
      outline.functions.mapM glossary.function = some parts.functions ∧
      outline.messages.mapM glossary.message = some parts.messages ∧
      (∀ entry ∈ outline.fragments, ∃ schema, glossary.schema? entry.1 = some schema) ∧
      ∀ t ∈ parts.types, t.name ∈ finiteTypes parts.types := by
  have hfragments : (outline.fragments.forM fun (key, _) => do
        let _ ← glossary.schema? key
        return) = some ⟨⟩ ↔
      ∀ entry ∈ outline.fragments, ∃ schema, glossary.schema? entry.1 = some schema :=
    forM_eq_some.trans (forall₂_congr fun _ _ => Option.bind_eq_some_iff.trans (by simp))
  have hinhabited : ∀ types, (checkInhabited id types).toOption = some () ↔
      ∀ t ∈ types, t.name ∈ finiteTypes types := by
    intro types
    rw [← checkInhabited_ok_iff]
    cases checkInhabited id types <;> simp [Except.toOption]
  constructor
  · intro h
    obtain ⟨types, htypes, h⟩ := Option.bind_eq_some_iff.1 h
    obtain ⟨functions, hfunctions, h⟩ := Option.bind_eq_some_iff.1 h
    obtain ⟨messages, hmessages, h⟩ := Option.bind_eq_some_iff.1 h
    obtain ⟨_, hforM, h⟩ := Option.bind_eq_some_iff.1 h
    obtain ⟨_, hcheck, h⟩ := Option.bind_eq_some_iff.1 h
    cases h
    exact ⟨htypes, hfunctions, hmessages, hfragments.1 hforM, (hinhabited types).1 hcheck⟩
  · rintro ⟨htypes, hfunctions, hmessages, hforM, hcheck⟩
    refine Option.bind_eq_some_iff.2 ⟨_, htypes, Option.bind_eq_some_iff.2 ⟨_, hfunctions, ?_⟩⟩
    refine Option.bind_eq_some_iff.2 ⟨_, hmessages, Option.bind_eq_some_iff.2 ⟨⟨⟩, hfragments.2 hforM, ?_⟩⟩
    exact Option.bind_eq_some_iff.2 ⟨(), (hinhabited _).2 hcheck, rfl⟩

/-! A schema stands for a raw one if this is read as it. -/

/-- What raw schemas are read as. -/
abbrev stands (glossary : Glossary) (σ : Type) : Standing σ :=
  fun _ _ raw schema => glossary.read? raw = some schema

variable {σ : Type} {p : Progress σ}

open Resolves (NamedStands ReturnsStand FunctionStands OutlineStands)

theorem namedStands_of_namedType {t : NamedType} (h : glossary.namedType header = some t) :
    NamedStands (glossary.stands σ) header t.name t.schema p := by
  obtain ⟨schema, hschema, h⟩ := Option.bind_eq_some_iff.1 h
  cases h
  exact ⟨rfl, Option.bind_eq_some_iff.1 hschema⟩

theorem namedStands_of_argument {a : Argument} (h : glossary.argument header = some a) :
    NamedStands (glossary.stands σ) header a.name a.schema p := by
  obtain ⟨schema, hschema, h⟩ := Option.bind_eq_some_iff.1 h
  cases h
  exact ⟨rfl, Option.bind_eq_some_iff.1 hschema⟩

theorem namedStands_of_message {m : Message} (h : glossary.message header = some m) :
    NamedStands (glossary.stands σ) header m.name m.schema p := by
  obtain ⟨schema, hschema, h⟩ := Option.bind_eq_some_iff.1 h
  cases h
  exact ⟨rfl, Option.bind_eq_some_iff.1 hschema⟩

theorem returnsStand_of_returns {raw : Members} {returns : Option Returns}
    (h : glossary.returns raw = some returns) : ReturnsStand (glossary.stands σ) raw returns p := by
  unfold Glossary.returns at h
  split at h
  · next hnone =>
    cases h
    exact hnone
  · next members hmembers =>
    obtain ⟨description, -, h⟩ := Option.bind_eq_some_iff.1 h
    obtain ⟨schema, hschema, h⟩ := Option.bind_eq_some_iff.1 h
    cases h
    exact ⟨members, hmembers, Option.bind_eq_some_iff.1 hschema⟩
  · cases h

theorem functionStands_of_function {header : FunctionHeader} {f : Function}
    (h : glossary.function header = some f) : FunctionStands (glossary.stands σ) header f p := by
  obtain ⟨arguments, harguments, h⟩ := Option.bind_eq_some_iff.1 h
  obtain ⟨returns, hreturns, h⟩ := Option.bind_eq_some_iff.1 h
  cases h
  exact ⟨rfl, (mapM_eq_some.1 harguments).imp fun _ _ => namedStands_of_argument,
    returnsStand_of_returns hreturns⟩

/-- The parts that are told without state stand for their raw declarations. -/
theorem outlineStands_of_parts {document : Option String} (h : glossary.parts outline = some parts)
    (hall : ∀ entry ∈ outline.fragments, (p.fragments.lookup entry.1).isSome) :
    OutlineStands (glossary.stands σ) outline (outline.assemble document parts p) p := by
  obtain ⟨htypes, hfunctions, hmessages, -, hinhabited⟩ := parts_eq_some.1 h
  exact
    { service := rfl
      inhabited := hinhabited
      types := (mapM_eq_some.1 htypes).imp fun _ _ => namedStands_of_namedType
      functions := (mapM_eq_some.1 hfunctions).imp fun _ _ => functionStands_of_function
      messages := (mapM_eq_some.1 hmessages).imp fun _ _ => namedStands_of_message
      allFragments := hall
      fragments := rfl
      externals := rfl }

end Glossary

/-- The types and fragments of a raw document. -/
def RawDocument.glossary (raw : Value) : Glossary :=
  ⟨(list "types" raw).filterMap name?, fun key => schemaAt? raw (.fragment key)⟩

section Documents

variable {σ : Type} {rules : IdentifierRules} {document : Option String} {library : Option (Library σ)}
  {raw : Value} {outline : Outline} {s s' : σ} {i : Interface}

theorem glossary_of_isOf (hof : outline.IsOf raw) :
    (Surroundings.mk document (outline.types.map Header.name) library).glossary outline.fragments =
      RawDocument.glossary raw := by
  have hnames : ∀ {raws headers}, List.Forall₂ (fun raw h => Header.IsOf h raw) raws headers →
      headers.map Header.name = raws.filterMap RawDocument.name? := by
    intro raws headers h
    induction h with
    | nil => rfl
    | cons hheader _ ih => rw [List.map_cons, List.filterMap_cons, hheader.name?, ih]
  unfold Surroundings.glossary RawDocument.glossary
  rw [hnames hof.types]
  exact congrArg _ (funext fun key => (hof.fragments key).symm)

section Resolve

variable (hof : outline.IsOf raw) (hlocal : RawDocument.NamesOnly (fun _ => False) raw)

include hof hlocal

theorem parts_computes : Computes (RawDocument.glossary raw)
    (outline.resolveParts ⟨document, outline.types.map Header.name, library⟩)
    ((RawDocument.glossary raw).parts outline) := by
  have hcomputes := @Outline.IsOf.resolveParts_computes σ
    ⟨document, outline.types.map Header.name, library⟩ raw outline hof hlocal
  rwa [glossary_of_isOf hof] at hcomputes

/-- An outline that has parts without state is resolved. -/
theorem exists_resolve {parts : Interface.Parts}
    (h : (RawDocument.glossary raw).parts outline = some parts) :
    ∃ i p, outline.resolve document library ⟨[], [], s⟩ = .ok i p := by
  obtain ⟨p, hparts⟩ := (parts_computes hof hlocal).complete (p := ⟨[], [], s⟩)
    (fun _ _ hmem => absurd hmem List.not_mem_nil) h
  exact ⟨_, p, by rw [Outline.resolve_eq, bind_of_ok hparts]; rfl⟩

/-- An outline that is resolved has the parts that are told without state. -/
theorem parts_of_resolve {p : Progress σ}
    (h : outline.resolve document library ⟨[], [], s⟩ = .ok i p) :
    ∃ parts, (RawDocument.glossary raw).parts outline = some parts ∧
      i = outline.assemble document parts p ∧ p.Unfolded (RawDocument.glossary raw) := by
  rw [Outline.resolve_eq] at h
  cases hparts : outline.resolveParts ⟨document, outline.types.map Header.name, library⟩
      ⟨[], [], s⟩ with
  | error e p' => cases (bind_of_error hparts).symm.trans h
  | ok parts p' =>
    cases (bind_of_ok hparts).symm.trans h
    obtain ⟨hp, hsome⟩ := (parts_computes hof hlocal).sound
      (fun _ _ hmem => absurd hmem List.not_mem_nil) hparts
    exact ⟨parts, hsome, rfl, hp⟩

end Resolve

/-- An interface that a document without other documents is resolved to has, at each site, what the raw
schema there is read as. -/
theorem rel_schemaAt?_of_resolveDocument (hlocal : RawDocument.NamesOnly (fun _ => False) raw)
    (h : resolveDocument rules document library raw s = .ok i s') (site : Site) :
    Option.Rel (fun rawSchema schema => (RawDocument.glossary raw).read? rawSchema = some schema)
      (RawDocument.schemaAt? raw site) (i.schemaAt? site) := by
  obtain ⟨outline, p, houtline, hresolve, -⟩ := exists_of_resolveDocument_ok h
  have hof := Outline.isOf_of_ofValue houtline
  have hall := (Outline.settled_of_resolve hof hresolve).2
  obtain ⟨parts, hparts, hi, hp⟩ := parts_of_resolve hof hlocal hresolve
  have hfragments : ∀ key schema, (key, schema) ∈ p.fragments → ∃ raw', outline.fragments.lookup key =
      some raw' ∧ (RawDocument.glossary raw).stands σ p.library p.externals raw' schema := by
    intro key schema hmem
    obtain ⟨raw', hraw, hread⟩ := Option.bind_eq_some_iff.1 (hp key schema hmem)
    exact ⟨raw', (hof.fragments key).symm.trans hraw, hread⟩
  exact rel_sites hof (hi ▸ Glossary.outlineStands_of_parts hparts hall) hfragments site

theorem schemaAt?_of_resolveDocument (hlocal : RawDocument.NamesOnly (fun _ => False) raw)
    (h : resolveDocument rules document library raw s = .ok i s') (site : Site) :
    i.schemaAt? site = (RawDocument.schemaAt? raw site).bind (RawDocument.glossary raw).read? := by
  have hsite := rel_schemaAt?_of_resolveDocument hlocal h site
  generalize RawDocument.schemaAt? raw site = found at hsite ⊢
  generalize i.schemaAt? site = schema at hsite ⊢
  cases hsite with
  | some hread => exact hread.symm
  | none => rfl

end Documents

end ServiceContract
