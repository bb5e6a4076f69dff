import ServiceContract.Proofs.Document.Resolution

/-!
# Links between documents

The check of the document graph and resolution look at a raw document in two ways. The check goes
through the whole tree, whatever it means, and does not look below members called `$ref`; resolution
follows the references that it reads. Resolution asks its library for no other documents than those
that references it follows may name. The check sees these too, unless a fragment or a property that
is called `$ref` is entered on the way: a name that the check takes for the keyword.
-/

namespace ServiceContract

open Json (Value Members)

/-! ## Names that the check sees -/

namespace Json.Value

/-- The name stands in a reference that is not below a member called `$ref`. -/
inductive Shows (name : String) : Value → Prop where
  /-- The object has the reference. -/
  | reference {members : Members} {value : Value} (hmem : ("$ref", value) ∈ members)
      (hname : value.string?.bind Reference.documentOf? = some name) : Shows name (.object members)
  /-- A member shows it. -/
  | member {members : Members} {key : String} {value : Value} (hmem : (key, value) ∈ members)
      (hkey : key ≠ "$ref") (h : Shows name value) : Shows name (.object members)
  /-- An item shows it. -/
  | item {items : List Value} {item : Value} (hmem : item ∈ items) (h : Shows name item) :
      Shows name (.array items)

variable {name : String}

theorem mem_documentRefsOfItems {items : List Value} :
    name ∈ documentRefsOfItems items ↔ ∃ item ∈ items, name ∈ item.documentRefs := by
  induction items with
  | nil => simp [documentRefsOfItems]
  | cons item rest ih => simp [documentRefsOfItems, ih]

theorem mem_documentRefsOfMembers {members : Members} :
    name ∈ documentRefsOfMembers members ↔
      ∃ key value, (key, value) ∈ members ∧
        if key = "$ref" then value.string?.bind Reference.documentOf? = some name
        else name ∈ value.documentRefs := by
  induction members with
  | nil => simp [documentRefsOfMembers]
  | cons entry rest ih =>
    obtain ⟨key, value⟩ := entry
    have hhead : name ∈ (if key = "$ref" then (value.string?.bind Reference.documentOf?).toList
          else value.documentRefs) ↔
        if key = "$ref" then value.string?.bind Reference.documentOf? = some name
        else name ∈ value.documentRefs := by
      split
      · exact Option.mem_toList
      · rfl
    rw [documentRefsOfMembers, List.mem_append, hhead, ih]
    simp only [List.mem_cons, Prod.mk.injEq]
    constructor
    · rintro (h | ⟨k, v, hmem, h⟩)
      · exact ⟨key, value, .inl ⟨rfl, rfl⟩, h⟩
      · exact ⟨k, v, .inr hmem, h⟩
    · rintro ⟨k, v, ⟨rfl, rfl⟩ | hmem, h⟩
      · exact .inl h
      · exact .inr ⟨k, v, hmem, h⟩

/-- The check sees the names that are shown. -/
theorem mem_documentRefs_iff {raw : Value} : name ∈ raw.documentRefs ↔ raw.Shows name := by
  induction h : sizeOf raw using Nat.strongRecOn generalizing raw with
  | ind n ih =>
    subst h
    cases raw with
    | null | bool | number | string =>
      rw [documentRefs.eq_def]
      constructor <;> (intro h; cases h)
    | array items =>
      rw [documentRefs, mem_documentRefsOfItems]
      constructor
      · rintro ⟨item, hmem, h⟩
        exact .item hmem ((ih _ (sizeOf_item_lt hmem) rfl).1 h)
      · intro h
        cases h with
        | item hmem h => exact ⟨_, hmem, (ih _ (sizeOf_item_lt hmem) rfl).2 h⟩
    | object members =>
      rw [documentRefs, mem_documentRefsOfMembers]
      constructor
      · rintro ⟨key, value, hmem, h⟩
        split at h
        · next hkey =>
          subst hkey
          exact .reference hmem h
        · next hkey => exact .member hmem hkey ((ih _ (sizeOf_member_lt hmem) rfl).1 h)
      · intro h
        cases h with
        | reference hmem hname => exact ⟨"$ref", _, hmem, by rw [if_pos rfl]; exact hname⟩
        | member hmem hkey h =>
          refine ⟨_, _, hmem, ?_⟩
          rw [if_neg hkey]
          exact (ih _ (sizeOf_member_lt hmem) rfl).2 h

theorem mem_documentsNamedIn_iff {raw : Value} : name ∈ documentsNamedIn raw ↔ raw.Shows name :=
  mem_nameSet.trans mem_documentRefs_iff

theorem Shows.of_member? {raw value : Value} {key : String} (h : raw.member? key = some value)
    (hkey : key ≠ "$ref") (hshows : value.Shows name) : raw.Shows name := by
  cases raw with
  | object members => exact .member (mem_of_lookup h) hkey hshows
  | null | bool | number | string | array => cases h

theorem Shows.of_mem_list {raw item : Value} {key : String} (h : item ∈ RawDocument.list key raw)
    (hkey : key ≠ "$ref") (hshows : item.Shows name) : raw.Shows name := by
  unfold RawDocument.list at h
  cases hmember : raw.member? key with
  | none => simp [hmember] at h
  | some value =>
    rw [hmember, Option.bind_some] at h
    cases value with
    | array items => exact .of_member? hmember hkey (.item h hshows)
    | null | bool | number | string | object => cases h

end Json.Value

/-! ## References that are followed openly -/

/-- Parts that are not called `$ref` show what they hold. -/
theorem RawSchema.HasPart.shows {members : Members} {property : Option String} {raw : Value}
    {name : String} (hpart : HasPart members property raw)
    (hopen : ∀ key, property = some key → key ≠ "$ref") (h : raw.Shows name) :
    (Value.object members).Shows name := by
  cases hpart with
  | @alternative keyword _ _ hkeyword _ hitems hmem =>
    have hne : keyword ≠ "$ref" := by
      rintro rfl
      simp at hkeyword
    exact .member (mem_of_lookup hitems) hne (.item hmem h)
  | @property key _ _ hmem =>
    obtain ⟨ps, hps, hmem⟩ := exists_of_mem_properties hmem
    exact .member (mem_of_lookup hps) (by simp) (.member hmem (hopen key rfl) h)
  | position _ hitems hmem => exact .member (mem_of_lookup hitems) (by simp) (.item hmem h)
  | items _ hitems _ => exact .member (mem_of_lookup hitems) (by simp) h

theorem RawSchema.Names.shows {raw : Value} {name : String} (h : Names (· ≠ "$ref") raw name) :
    raw.Shows name := by
  obtain ⟨text, hfollows, hname⟩ := h
  induction hfollows with
  | here _ htext => exact .reference (mem_of_lookup htext) hname
  | part hpart hopen _ ih => exact hpart.shows hopen (ih hname)

/-- The names of the references that are followed without entering a fragment or a property called
`$ref` are shown. -/
theorem RawDocument.Names.shows {raw : Value} {name : String} (h : Names (· ≠ "$ref") raw name) :
    raw.Shows name := by
  obtain ⟨fragment, schema, hschema, hopen, hname⟩ := h
  have hshows := hname.shows
  cases hschema with
  | type hmem hat | message hmem hat =>
    exact .of_mem_list hmem (by simp) (.of_member? hat (by simp) hshows)
  | argument hf ha hat =>
    exact .of_mem_list hf (by simp) (.of_mem_list ha (by simp) (.of_member? hat (by simp) hshows))
  | returns hf hr hat =>
    exact .of_mem_list hf (by simp) (.of_member? hr (by simp) (.of_member? hat (by simp) hshows))
  | @fragment key _ hat =>
    obtain ⟨fragments, hfragments, hfragment⟩ := Option.bind_eq_some_iff.1 hat
    exact .of_member? hfragments (by simp) (.of_member? hfragment (hopen key rfl) hshows)

/-- The check goes to every document that a reference names which may be followed. -/
def SeesAll (raw : Value) : Prop :=
  ∀ name, RawDocument.Names (fun _ => True) raw name → name ∈ documentsNamedIn raw

/-- The check misses a document exactly if all references to it that are followed stand below
fragments or properties called `$ref` and no reference elsewhere shows it. -/
theorem seesAll_iff {raw : Value} :
    SeesAll raw ↔ ∀ name, RawDocument.Names (fun _ => True) raw name →
      ¬ RawDocument.Names (· ≠ "$ref") raw name → raw.Shows name := by
  constructor
  · intro h name hname _
    exact Value.mem_documentsNamedIn_iff.1 (h name hname)
  · intro h name hname
    rw [Value.mem_documentsNamedIn_iff]
    by_cases hopen : RawDocument.Names (· ≠ "$ref") raw name
    · exact hopen.shows
    · exact h name hname hopen

/-! ## Members called `$ref` that hold texts

A property or a fragment called `$ref` is a member called `$ref`. Where all such members hold texts,
it cannot be a raw schema that leads anywhere, and so nothing is hidden from the check. -/

namespace Json.Value

/-- The value is the other one or stands in it. -/
inductive Within (inner : Value) : Value → Prop where
  /-- It is the other one. -/
  | refl : Within inner inner
  /-- It stands in a member. -/
  | member {members : Members} {key : String} {value : Value} (hmem : (key, value) ∈ members)
      (h : Within inner value) : Within inner (.object members)
  /-- It stands in an item. -/
  | item {items : List Value} {item : Value} (hmem : item ∈ items) (h : Within inner item) :
      Within inner (.array items)

/-- No object in the value has anything but a text under `$ref`. -/
def RefsAreTexts (raw : Value) : Prop :=
  ∀ members value, (Value.object members).Within raw → ("$ref", value) ∈ members →
    ∃ text, value = .string text

variable {inner raw value : Value} {key : String}

theorem Within.trans {outer : Value} (h : inner.Within raw) (h' : raw.Within outer) :
    inner.Within outer := by
  induction h' with
  | refl => exact h
  | member hmem _ ih => exact .member hmem ih
  | item hmem _ ih => exact .item hmem ih

theorem RefsAreTexts.of_within (h : raw.RefsAreTexts) (hinner : inner.Within raw) :
    inner.RefsAreTexts :=
  fun members value hmembers => h members value (hmembers.trans hinner)

theorem Within.of_member? (h : raw.member? key = some value) : value.Within raw := by
  cases raw with
  | object members => exact .member (mem_of_lookup h) .refl
  | null | bool | number | string | array => cases h

theorem Within.of_mem_list (h : value ∈ RawDocument.list key raw) : value.Within raw := by
  unfold RawDocument.list at h
  cases hmember : raw.member? key with
  | none => simp [hmember] at h
  | some items =>
    rw [hmember, Option.bind_some] at h
    cases items with
    | array items => exact Within.trans (.item h .refl) (.of_member? hmember)
    | null | bool | number | string | object => cases h

/-- A member called `$ref` holds a text. -/
theorem RefsAreTexts.member? (h : raw.RefsAreTexts) (hvalue : raw.member? "$ref" = some value) :
    ∃ text, value = .string text := by
  cases raw with
  | object members => exact h members value .refl (mem_of_lookup hvalue)
  | null | bool | number | string | array => cases hvalue

@[simp]
theorem refsAreTexts_object {members : Members} : (Value.object members).RefsAreTexts ↔
    (∀ value, ("$ref", value) ∈ members → ∃ text, value = .string text) ∧
      ∀ entry ∈ members, entry.2.RefsAreTexts := by
  constructor
  · intro h
    exact ⟨fun value => h members value .refl,
      fun entry hentry => h.of_within (Within.member hentry .refl)⟩
  · rintro ⟨hrefs, hmembers⟩ inner value hinner hvalue
    cases hinner with
    | refl => exact hrefs value hvalue
    | member hmem h => exact hmembers _ hmem inner value h hvalue

@[simp]
theorem refsAreTexts_array {items : List Value} :
    (Value.array items).RefsAreTexts ↔ ∀ item ∈ items, item.RefsAreTexts := by
  constructor
  · intro h item hitem
    exact h.of_within (.item hitem .refl)
  · intro hitems inner value hinner hvalue
    cases hinner with
    | item hmem h => exact hitems _ hmem inner value h hvalue

@[simp]
theorem refsAreTexts_string {text : String} : (Value.string text).RefsAreTexts :=
  fun _ _ hinner => by cases hinner

end Json.Value

section RefsAreTexts

variable {raw : Value}

theorem RawSchema.HasPart.within {members : Members} {property : Option String}
    (h : HasPart members property raw) : raw.Within (.object members) := by
  cases h with
  | alternative _ _ hitems hmem | position _ hitems hmem =>
    exact .member (mem_of_lookup hitems) (.item hmem .refl)
  | property _ hmem =>
    obtain ⟨ps, hps, hmem⟩ := exists_of_mem_properties hmem
    exact .member (mem_of_lookup hps) (.member hmem .refl)
  | items _ hitems => exact .member (mem_of_lookup hitems) .refl

/-- A reference that is followed is followed without entering a property called `$ref`. -/
theorem RawSchema.Follows.without_refs {text : String} (h : Follows (fun _ => True) raw text)
    (hrefs : raw.RefsAreTexts) : Follows (· ≠ "$ref") raw text := by
  induction h with
  | here hlead htext => exact .here hlead htext
  | @part members property raw text hpart _ h ih =>
    refine .part hpart ?_ (ih (hrefs.of_within hpart.within))
    rintro name rfl rfl
    -- Such a property is a text, and from a text no reference is followed.
    cases hpart with
    | property _ hmem =>
      obtain ⟨ps, hps, hmem⟩ := exists_of_mem_properties hmem
      obtain ⟨_, rfl⟩ := hrefs ps raw (.member (mem_of_lookup hps) .refl) hmem
      cases h

theorem RawDocument.HasSchema.within {fragment : Option String} {schema : Value}
    (h : HasSchema raw fragment schema) : schema.Within raw := by
  cases h with
  | type hmem hat | message hmem hat =>
    exact Value.Within.trans (.of_member? hat) (.of_mem_list hmem)
  | argument hf ha hat =>
    exact Value.Within.trans (.of_member? hat) (Value.Within.trans (.of_mem_list ha) (.of_mem_list hf))
  | returns hf hr hat =>
    exact Value.Within.trans (.of_member? hat) (Value.Within.trans (.of_member? hr) (.of_mem_list hf))
  | fragment hat =>
    obtain ⟨fragments, hfragments, hfragment⟩ := Option.bind_eq_some_iff.1 hat
    exact Value.Within.trans (.of_member? hfragment) (.of_member? hfragments)

theorem RawDocument.Names.without_refs {name : String} (h : Names (fun _ => True) raw name)
    (hrefs : raw.RefsAreTexts) : Names (· ≠ "$ref") raw name := by
  obtain ⟨fragment, schema, hschema, -, text, hfollows, hname⟩ := h
  have hfollows' := hfollows.without_refs (hrefs.of_within hschema.within)
  refine ⟨fragment, schema, hschema, ?_, text, hfollows', hname⟩
  rintro key rfl rfl
  cases hschema with
  | fragment hat =>
    obtain ⟨fragments, hfragments, hfragment⟩ := Option.bind_eq_some_iff.1 hat
    obtain ⟨_, rfl⟩ := (hrefs.of_within (.of_member? hfragments)).member? hfragment
    cases hfollows

/-- The check sees every document that is followed if only texts stand under `$ref`. -/
theorem seesAll_of_refsAreTexts (h : raw.RefsAreTexts) : SeesAll raw :=
  fun _ hname => Value.mem_documentsNamedIn_iff.2 (hname.without_refs h).shows

end RefsAreTexts

/-! ## Documents that resolution comes to -/

/-- The document that the reference names, if it names one, has a key, and the key is known unless it
is that of the document at hand. -/
def Reaches (resolveKey : (origin : Option String) → (raw : String) → Except Error String)
    (document : Option String) (known : (key : String) → Prop) (text : String) : Prop :=
  ∀ name, Reference.documentOf? text = some name →
    ∃ key, resolveKey document name = .ok key ∧ (some key ≠ document → known key)

section Reaches

variable {σ : Type} {here : Surroundings σ} {fragments : Members} {text : String}
  {externals : List (String × Interface)} {part : Value → Schema → Prop} {schema : Schema}
  {library : Library σ} {known : (key : String) → Prop}

/-- A reference that stands for a schema reaches a document whose interface was asked for. -/
theorem RefForm.reaches (h : RefForm here fragments externals part text schema)
    (hlibrary : here.library = some library) (hknown : ∀ key i, (key, i) ∈ externals → known key) :
    Reaches library.resolveKey here.document known text := by
  have hkey : ∀ {r : Reference} {document : Option String}, Reference.ofText text = .ok r →
      here.documentKey r = .ok document → (∀ key, document = some key → some key ≠ here.document →
        known key) → Reaches library.resolveKey here.document known text := by
    intro r document hread hdocument hall name hname
    unfold Reference.documentOf? at hname
    rw [hread] at hname
    unfold Surroundings.documentKey at hdocument
    rw [show r.document = some name from hname, hlibrary] at hdocument
    dsimp only at hdocument
    cases hresolved : library.resolveKey here.document name with
    | ok key =>
      rw [hresolved] at hdocument
      cases hdocument
      exact ⟨key, rfl, hall key rfl⟩
    | error e =>
      rw [hresolved] at hdocument
      cases hdocument
  cases h with
  | ownType hread hdocument hown | ownFragment hread hdocument hown =>
    refine hkey hread hdocument fun key heq hother => ?_
    rcases hown with hown | hown
    · cases hown.symm.trans heq
    · exact absurd (heq.symm.trans hown) hother
  | type hread hdocument _ hi | fragment hread hdocument _ hi =>
    refine hkey hread hdocument fun key heq _ => ?_
    cases heq
    exact hknown _ _ (mem_of_lookup hi)

end Reaches

/-! ## Documents that resolution asks for -/

section Reaching

variable {σ : Type} {D : Discipline Error σ} {rules : IdentifierRules} {document : Option String}
  {library : Library σ} {raw : Value} {asked : σ → String → Prop}

/-- The references that a raw schema follows reach documents that were asked for. -/
def reaching (resolveKey : (origin : Option String) → (raw : String) → Except Error String)
    (document : Option String) (asked : σ → String → Prop) : Standing σ :=
  fun s _ raw _ => ∀ text, RawSchema.Follows (fun _ => True) raw text →
    Reaches resolveKey document (asked s) text

section Asking

variable (hfault : ∀ e s, D.inv s → D.fault e s)
  (hstable : ∀ s s' key, D.le s s' → asked s key → asked s' key)
  (hlibrary : ∀ name key s, RawDocument.Names (fun _ => True) raw name →
    library.resolveKey document name = .ok key → some key ≠ document → D.inv s →
    D.Runs (library.interfaceAt key) s fun _ s' => asked s' key)

include hfault hstable hlibrary

theorem reaching_resolves {outline : Outline} (hof : outline.IsOf raw) :
    Resolves D ⟨document, outline.types.map Header.name, some library⟩ outline.fragments
      (RawDocument.Names (fun _ => True) raw) (fun s key _ => asked s key)
      (reaching library.resolveKey document asked) where
  fault e s hs _ := hfault e s hs
  key _ _ e s _ _ hs := hfault e s hs
  library := by
    intro l name key s hl hnamed hkey hother hs
    cases hl
    exact hlibrary name key s hnamed hkey hother hs
  namesOnly := namesOnly_of_lookup_fragments hof fun _ hname => hname
  linkStable := hstable _ _ _
  standsStable := by
    intro s s' externals externals' raw schema hle _ hstands text hfollows name hname
    obtain ⟨key, hkey, hasked⟩ := hstands text hfollows name hname
    exact ⟨key, hkey, fun hother => hstable s s' key hle (hasked hother)⟩
  form := by
    intro s externals raw schema _ hlinked hform _ text hfollows
    refine hform.of_follows (fun href => ?_) (fun hpart => hpart) hfollows
    exact href.reaches rfl fun key i hi => (hlinked key i hi).2

/-- Resolution that succeeds has asked for all documents that references name which it may follow. -/
theorem resolveDocument_reaches {s : σ} (hs : D.inv s) :
    D.Runs (resolveDocument rules document (some library) raw) s fun _ s' =>
      ∀ name, RawDocument.Names (fun _ => True) raw name →
        ∃ key, library.resolveKey document name = .ok key ∧
          (some key ≠ document → asked s' key) := by
  refine (resolveDocument_runs hs (fun e _ => hfault e s hs) fun _ hof =>
    reaching_resolves hfault hstable hlibrary hof).imp ?_
  rintro i s' - - ⟨externals, hstands⟩ name ⟨fragment, rawSchema, hschema, -, text, hfollows, hname⟩
  obtain ⟨schema, hreaches⟩ := hstands.raws hschema
  exact hreaches text hfollows name hname

end Asking

end Reaching

section Recording

variable {σ : Type} {rules : IdentifierRules} {document : Option String} {library : Library σ}
  {raw : Value} {s : σ} {key name : String}

/-- The library with a record of the keys that it was asked for. -/
def Library.recording (library : Library σ) : Library (σ × List String) where
  resolveKey := library.resolveKey
  interfaceAt := fun key (s, asked) =>
    match library.interfaceAt key s with
    | .ok i s' => .ok i (s', asked ++ [key])
    | .error e s' => .error e (s', asked ++ [key])

/-- Keys are recorded that are expected, and none is forgotten. -/
def recordingOnly (σ : Type) (expected : String → Prop) : Discipline Error (σ × List String) where
  inv s := ∀ key ∈ s.2, expected key
  le s s' := ∀ key ∈ s.2, key ∈ s'.2
  fault _ _ := True
  refl _ _ h := h
  trans h h' key hkey := h' key (h key hkey)

/-- A reference that may be followed names the document with the key. -/
def MayAsk (library : Library σ) (document : Option String) (raw : Value) (key : String) : Prop :=
  ∃ name, RawDocument.Names (fun _ => True) raw name ∧ library.resolveKey document name = .ok key

/-- A key that may be asked for is recorded when it is asked for. -/
theorem recording_interfaceAt_runs {s : σ × List String}
    (hs : (recordingOnly σ (MayAsk library document raw)).inv s)
    (hkey : MayAsk library document raw key) :
    (recordingOnly σ (MayAsk library document raw)).Runs (library.recording.interfaceAt key) s
      fun _ s' => key ∈ s'.2 := by
  have hasked : ∀ k ∈ s.2 ++ [key], MayAsk library document raw k := by
    intro k hk
    rcases List.mem_append.1 hk with hk | hk
    · exact hs k hk
    · rw [List.mem_singleton.1 hk]
      exact hkey
  have hkept : ∀ k ∈ s.2, k ∈ s.2 ++ [key] := fun k hk => List.mem_append_left _ hk
  unfold Discipline.Runs Library.recording
  dsimp only
  cases library.interfaceAt key s.1 with
  | ok i s' => exact ⟨hasked, hkept, List.mem_append_right _ (List.mem_singleton.2 rfl)⟩
  | error e s' => exact ⟨hasked, hkept, trivial⟩

/-- Resolution asks its library only for documents that references name which it may follow, and for
all of them if it succeeds. -/
theorem recording_runs : (recordingOnly σ (MayAsk library document raw)).Runs
    (resolveDocument rules document (some library.recording) raw) (s, []) fun _ s' =>
      ∀ name, RawDocument.Names (fun _ => True) raw name →
        ∃ key, library.resolveKey document name = .ok key ∧ (some key ≠ document → key ∈ s'.2) := by
  have hstart : (recordingOnly σ (MayAsk library document raw)).inv (s, []) :=
    fun k hk => by cases hk
  refine resolveDocument_reaches (D := recordingOnly σ (MayAsk library document raw))
    (fun _ _ _ => trivial) (fun _ _ key hle hmem => hle key hmem)
    (fun name key s hnamed hkey _ hs => ?_) hstart
  exact recording_interfaceAt_runs hs ⟨name, hnamed, hkey⟩

end Recording

end ServiceContract
