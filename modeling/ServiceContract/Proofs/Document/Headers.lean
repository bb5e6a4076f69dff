import ServiceContract.Proofs.Document.Fragments

/-!
# Outlines mirror their documents

The outline that is read from a raw document lists what the document declares: each list of raw
declarations has the headers of these declarations, one by one and in the same order, with their names
and descriptions.
-/

namespace ServiceContract

open Json (Value Members)

/-! ## Raw declarations -/

namespace RawDocument

/-- The raw declaration is described by the text, which is not blank. -/
def Describes (raw : Value) (description : String) : Prop :=
  raw.member? "description" = some (.string description) ∧ Text.isBlank description = false

/-- The raw declaration has the name and the description. -/
structure Declares (raw : Value) (name description : String) : Prop where
  /-- The name. -/
  named : raw.member? "name" = some (.string name)
  /-- It is in kebab case. -/
  kebab : isKebabCase name
  /-- The description. -/
  described : Describes raw description

/-- There is no such list, or it is a list; what it has is mirrored one by one. -/
structure Lists {α : Type} (key : String) (raw : Value) (mirrors : Value → α → Prop)
    (declared : List α) : Prop where
  /-- The list. -/
  isList : raw.member? key = none ∨ ∃ items, raw.member? key = some (.array items)
  /-- Its items. -/
  items : List.Forall₂ mirrors (list key raw) declared

theorem Lists.imp {α β : Type} {key : String} {raw : Value} {mirrors : Value → α → Prop}
    {mirrors' : Value → β → Prop} {keeps : α → β → Prop} {declared : List α} {declared' : List β}
    (h : Lists key raw mirrors declared) (hkeeps : List.Forall₂ keeps declared declared')
    (himp : ∀ item a b, mirrors item a → keeps a b → mirrors' item b) :
    Lists key raw mirrors' declared' where
  isList := h.isList
  items := (forall₂_comp h.items hkeeps).imp fun item b ⟨a, ha, hab⟩ => himp item a b ha hab

theorem Declares.isDeclaration {raw : Value} {name description : String}
    (h : Declares raw name description) : ∃ members, raw = .object members ∧ IsDeclaration members := by
  cases raw with
  | object members => exact ⟨members, rfl, ⟨name, h.named, h.kebab⟩, description, h.described⟩
  | null | bool | number | string | array => cases h.named

theorem Lists.isSection {α : Type} {key : String} {raw : Value} {mirrors : Value → α → Prop}
    {declared : List α} (h : Lists key raw mirrors declared)
    (hmirrors : ∀ item a, mirrors item a → ∃ members, item = .object members ∧ IsDeclaration members) :
    IsSection (raw.member? key) := by
  rcases h.isList with hnone | ⟨items, hitems⟩
  · exact .inl hnone
  · have hlist : list key raw = items := by rw [list, hitems]; rfl
    refine .inr ⟨items, hitems, fun item hitem => ?_⟩
    obtain ⟨a, -, ha⟩ := exists_of_forall₂_right h.items.flip (hlist ▸ hitem)
    exact hmirrors item a ha

end RawDocument

open RawDocument (Describes Declares Lists)

/-! ## Outlines -/

theorem descriptionMember_eq_ok {members : Members} {location text : String} :
    Outline.descriptionMember members location = .ok text ↔
      members.lookup "description" = some (.string text) ∧ Text.isBlank text = false := by
  constructor
  · intro h
    obtain ⟨found, hfound, h⟩ := bind_eq_ok.1 h
    split at h
    · cases h
    · next hblank =>
      cases h
      exact ⟨Outline.stringMember_ok hfound, by simpa using hblank⟩
  · rintro ⟨hlookup, hblank⟩
    refine bind_eq_ok.2 ⟨text, Outline.stringMember_eq hlookup, ?_⟩
    rw [if_neg (by simp [hblank])]
    rfl

/-- The header of a raw declaration, with its description. -/
def Header.Mirrors (raw : Value) (h : Header) : Prop :=
  raw = .object h.raw ∧ Declares raw h.name h.description

/-- The header of a raw function with those of its arguments. -/
def FunctionHeader.Mirrors (raw : Value) (f : FunctionHeader) : Prop :=
  f.header.Mirrors raw ∧ Lists "arguments" raw (fun item h => Header.Mirrors item h) f.arguments

/-- The outline lists what the raw document declares. -/
structure Outline.Mirrors (raw : Value) (outline : Outline) : Prop where
  /-- The service. -/
  service : ∃ item, raw.member? "service" = some item ∧
    Declares item outline.service.name outline.service.description ∧
    ∃ written, item.member? "version" = some (.string written) ∧
      Version.ofText? written = some outline.service.version
  /-- The types. -/
  types : Lists "types" raw (fun item h => Header.Mirrors item h) outline.types
  /-- The functions. -/
  functions : Lists "functions" raw (fun item f => FunctionHeader.Mirrors item f) outline.functions
  /-- The messages. -/
  messages : Lists "messages" raw (fun item h => Header.Mirrors item h) outline.messages
  /-- Raw fragments stand in a mapping. -/
  isMapping : raw.member? "schemas" = none ∨ ∃ members, raw.member? "schemas" = some (.object members)
  /-- The fragments. -/
  fragments : outline.fragments = RawDocument.fragments raw

namespace Outline

variable {location : String} {locate : String → String} {root members : Members}

theorem readHeader_mirrors {role : Role} {raw : Value} {h : Header}
    (hread : readHeader role location raw = .ok h) : h.Mirrors raw := by
  unfold readHeader at hread
  split at hread
  · simp only [bind_eq_ok] at hread
    obtain ⟨name, hname, ⟨⟩, hkebab, description, hdescription, hpure⟩ := hread
    cases hpure
    exact ⟨rfl, stringMember_ok hname, checkKebabCase_ok.1 hkebab, descriptionMember_eq_ok.1 hdescription⟩
  · cases hread

theorem readSection_lists {name : String} {role : Role} {headers : List Header}
    (h : readSection locate root name role = .ok headers) :
    Lists name (.object root) (fun item h => Header.Mirrors item h) headers := by
  unfold readSection at h
  split at h
  · next hnone =>
    cases h
    refine ⟨.inl hnone, ?_⟩
    rw [RawDocument.list_object, hnone]
    exact .nil
  · next items hitems =>
    refine ⟨.inr ⟨items, hitems⟩, ?_⟩
    rw [RawDocument.list_object, hitems]
    exact (readHeaders_each h).imp fun _ _ ⟨_, hread⟩ => readHeader_mirrors hread
  · cases h

theorem readArguments_lists {header : Header} {raw : Value} {f : FunctionHeader}
    (hheader : header.Mirrors raw) (h : readArguments locate header = .ok f) : f.Mirrors raw := by
  obtain ⟨rfl, hdeclares⟩ := hheader
  unfold readArguments at h
  dsimp only at h
  split at h
  · next hnone =>
    cases h
    refine ⟨⟨rfl, hdeclares⟩, .inl hnone, ?_⟩
    rw [RawDocument.list_object, hnone]
    exact .nil
  · next items hitems =>
    obtain ⟨arguments, harguments, hpure⟩ := bind_eq_ok.1 h
    cases hpure
    refine ⟨⟨rfl, hdeclares⟩, .inr ⟨items, hitems⟩, ?_⟩
    rw [RawDocument.list_object, hitems]
    exact (readHeaders_each harguments).imp fun _ _ ⟨_, hread⟩ => readHeader_mirrors hread
  · cases h

theorem readService_mirrors {service : Service} (h : readService locate root = .ok service) :
    ∃ item, root.lookup "service" = some item ∧ Declares item service.name service.description ∧
      ∃ written, item.member? "version" = some (.string written) ∧
        Version.ofText? written = some service.version := by
  unfold readService at h
  split at h
  · next members hmembers =>
    simp only [bind_eq_ok] at h
    obtain ⟨name, hname, ⟨⟩, hkebab, written, hwritten, h⟩ := h
    split at h
    · cases h
    · next version hversion =>
      obtain ⟨description, hdescription, hpure⟩ := bind_eq_ok.1 h
      cases hpure
      exact ⟨_, hmembers, ⟨stringMember_ok hname, checkKebabCase_ok.1 hkebab,
        descriptionMember_eq_ok.1 hdescription⟩, written, stringMember_ok hwritten, hversion⟩
  · cases h

theorem readFragments_mapping {fragments : Members} (h : readFragments locate root = .ok fragments) :
    (root.lookup "schemas" = none ∨ ∃ members, root.lookup "schemas" = some (.object members)) ∧
      fragments = RawDocument.fragments (.object root) := by
  unfold readFragments at h
  unfold RawDocument.fragments
  rw [RawDocument.member?_object]
  split at h
  · next hnone =>
    cases h
    rw [hnone]
    exact ⟨.inl rfl, rfl⟩
  · next members hmembers =>
    cases h
    rw [hmembers]
    exact ⟨.inr ⟨_, rfl⟩, rfl⟩
  · cases h

theorem mirrors_of_ofValue {rules : IdentifierRules} {document : Option String} {raw : Value}
    {outline : Outline} (h : ofValue rules document raw = .ok outline) : outline.Mirrors raw := by
  unfold ofValue at h
  split at h
  · next root =>
    simp only [bind_eq_ok] at h
    obtain ⟨service, hservice, types, htypes, headers, hheaders, messages, hmessages, fragments,
      hfragments, functions, hfunctions, ⟨⟩, -, hpure⟩ := h
    cases hpure
    exact
      { service := readService_mirrors hservice
        types := readSection_lists htypes
        functions := (readSection_lists hheaders).imp (mapM_eq_ok.1 hfunctions)
          fun _ _ _ hheader hread => readArguments_lists hheader hread
        messages := readSection_lists hmessages
        isMapping := (readFragments_mapping hfragments).1
        fragments := (readFragments_mapping hfragments).2 }
  · cases h

end Outline

end ServiceContract
