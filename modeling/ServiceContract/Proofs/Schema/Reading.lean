import ServiceContract.Proofs.Runs
import ServiceContract.Proofs.Schema.Following

/-!
# Reading keeps what references keep

A raw schema is read part by part, with a resolver for the references in it. If the resolver keeps a
discipline and gives what a reference stands for, then reading keeps the discipline and gives what
the raw schema stands for, for every notion of standing for that follows the form of raw schemas and
that later states do not undo.
-/

namespace ServiceContract.Schema

open Json (Number Value Members)
open RawSchema

variable {σ : Type} {D : Discipline Error σ} {refs : RefResolver σ}

/-! ## Keywords -/

/-- The texts among values that are all texts. -/
theorem filterMap_string {items : List Value} {names : List String}
    (h : List.Forall₂ (fun item name => item = .string name) items names) :
    items.filterMap Value.string? = names := by
  induction h with
  | nil => rfl
  | cons hhead _ ih =>
    rw [hhead, List.filterMap_cons, ih]
    rfl

section Keywords

variable {members : Members} {location keyword : String} {s : σ}
  (hfault : ∀ location message s, D.inv s → D.fault (.document location message) s)

include hfault

theorem malformed_runs {α : Type} {message : String} {Q : α → σ → Prop} (hs : D.inv s) :
    D.Runs (malformed location message) s Q :=
  .throw hs (hfault _ _ _ hs)

theorem numberKeyword_runs (hs : D.inv s) :
    D.Runs (numberKeyword members location keyword) s fun n _ => n = number? members keyword := by
  unfold numberKeyword number?
  split
  · next h => exact .pure hs (by rw [h])
  · next n h => exact .pure hs (by rw [h])
  · exact malformed_runs hfault hs

theorem countKeyword_runs (hs : D.inv s) :
    D.Runs (countKeyword members location keyword) s fun n _ => n = count? members keyword := by
  unfold countKeyword count? number?
  split
  · next h => exact .pure hs (by rw [h]; rfl)
  · next value h =>
    split
    · next n =>
      split
      · next count hcount => exact .pure hs (by rw [h]; exact hcount.symm)
      · exact malformed_runs hfault hs
    · exact malformed_runs hfault hs

theorem patternKeyword_runs (hs : D.inv s) :
    D.Runs (patternKeyword members location) s fun p _ => p = pattern? members := by
  unfold patternKeyword pattern?
  split
  · next h => exact .pure hs (by rw [h])
  · next source h =>
    split
    · next p hp =>
      refine .pure hs ?_
      rw [h]
      show some p = (Pattern.ofText source).toOption
      rw [hp]
      rfl
    · exact malformed_runs hfault hs
  · exact malformed_runs hfault hs

theorem requiredNames_runs (hs : D.inv s) :
    D.Runs (requiredNames members location) s fun names _ => names = required members := by
  unfold requiredNames required
  split
  · next h => exact .pure hs (by rw [h]; rfl)
  · next items h =>
    refine (Discipline.Runs.mapM (Q := fun (item : Value) (name : String) _ => item = .string name)
      hs (fun _ h => h) fun item _ s' hs' _ => ?_).imp fun names s' _ _ hnames => ?_
    · split
      · exact .pure hs' rfl
      · exact malformed_runs hfault hs'
    · rw [h]
      exact (filterMap_string hnames).symm
  · exact malformed_runs hfault hs

theorem readPrimitive_runs {kind : PrimitiveKind} (hs : D.inv s) :
    D.Runs (readPrimitive kind members location) s fun p _ =>
      p = RawSchema.primitive kind members := by
  have hnumber : ∀ k : PrimitiveKind, D.Runs (do
      let minimum ← numberKeyword members location "minimum"
      let maximum ← numberKeyword members location "maximum"
      let exclusiveMinimum ← numberKeyword members location "exclusiveMinimum"
      let exclusiveMaximum ← numberKeyword members location "exclusiveMaximum"
      return { kind := k, minimum, maximum, exclusiveMinimum, exclusiveMaximum }) s
      fun p _ => p = (
        { kind := k
          minimum := number? members "minimum"
          maximum := number? members "maximum"
          exclusiveMinimum := number? members "exclusiveMinimum"
          exclusiveMaximum := number? members "exclusiveMaximum" } : Primitive) := by
    intro k
    refine (numberKeyword_runs hfault hs).bind fun _ s₁ hs₁ _ h₁ => ?_
    refine (numberKeyword_runs hfault hs₁).bind fun _ s₂ hs₂ _ h₂ => ?_
    refine (numberKeyword_runs hfault hs₂).bind fun _ s₃ hs₃ _ h₃ => ?_
    refine (numberKeyword_runs hfault hs₃).bind fun _ s₄ hs₄ _ h₄ => ?_
    exact .pure hs₄ (by rw [h₁, h₂, h₃, h₄])
  cases kind with
  | integer => exact hnumber .integer
  | number => exact hnumber .number
  | string =>
    refine (countKeyword_runs hfault hs).bind fun _ s₁ hs₁ _ h₁ => ?_
    refine (countKeyword_runs hfault hs₁).bind fun _ s₂ hs₂ _ h₂ => ?_
    refine (patternKeyword_runs hfault hs₂).bind fun _ s₃ hs₃ _ h₃ => ?_
    exact .pure hs₃ (by rw [h₁, h₂, h₃]; rfl)
  | boolean => exact .pure hs rfl
  | null => exact .pure hs rfl

end Keywords

/-! ## Parts

The parts of an object are read below its keywords; here is what is read below each of them. -/

/-- The readers for the parts of an object. -/
def partReaders (refs : RefResolver σ) (members : Members) : PartReaders σ where
  alternatives := fun keyword location => alternativesIn refs keyword members location
  properties := fun location => propertiesIn refs members location
  items := fun location => itemsIn refs members location

section Parts

variable {members : Members} {location keyword : String}

/-- The alternatives are the items under their keyword. -/
theorem alternativesIn_eq :
    alternativesIn refs keyword members location =
      match members.lookup keyword with
      | none => pure []
      | some (.array (item :: items)) => elements refs (item :: items) 0 location
      | some _ => malformed location "alternatives must be a non-empty list" := by
  induction members with
  | nil => rfl
  | cons entry rest ih =>
    obtain ⟨key, raw⟩ := entry
    unfold alternativesIn
    rw [lookup_cons]
    by_cases hkey : key = keyword
    · rw [if_pos hkey, if_pos hkey.symm]
      rcases raw with _ | _ | _ | _ | (_ | ⟨item, items⟩) | _ <;> try rfl
      have hfirst : s!"{location}/{0}" = s!"{location}/0" := by
        show location ++ "/" ++ "0" = location ++ "/0"
        rw [String.append_assoc]
        rfl
      show _ = elements refs (item :: items) 0 location
      rw [elements, hfirst]
    · rw [if_neg hkey, if_neg (Ne.symm hkey), ih]

theorem propertiesIn_eq :
    propertiesIn refs members location =
      match members.lookup "properties" with
      | none => pure []
      | some (.object properties) => namedElements refs properties s!"{location}/properties"
      | some _ => malformed location "'properties' must be a mapping" := by
  induction members with
  | nil => rfl
  | cons entry rest ih =>
    obtain ⟨key, raw⟩ := entry
    unfold propertiesIn
    rw [lookup_cons]
    by_cases hkey : key = "properties"
    · rw [if_pos hkey, if_pos hkey.symm]
      cases raw <;> rfl
    · rw [if_neg hkey, if_neg (Ne.symm hkey), ih]

theorem itemsIn_eq :
    itemsIn refs members location =
      match members.lookup "items" with
      | none => pure (.forEach .anything)
      | some (.array items) => do
        return .byPosition (← elements refs items 0 s!"{location}/items")
      | some raw => do return .forEach (← ofValue refs raw s!"{location}/items") := by
  induction members with
  | nil => rfl
  | cons entry rest ih =>
    obtain ⟨key, raw⟩ := entry
    unfold itemsIn
    rw [lookup_cons]
    by_cases hkey : key = "items"
    · rw [if_pos hkey, if_pos hkey.symm]
      cases raw <;> rfl
    · rw [if_neg hkey, if_neg (Ne.symm hkey), ih]

end Parts

/-! ## Mappings

The keyword that decides the form of a mapping decides how it is read, whatever the resolver is. -/

/-- How a mapping is read. -/
inductive Decision where
  /-- By what the reference stands for. -/
  | reference (text : String)
  /-- As a constant. -/
  | const (value : Value)
  /-- As one of the values. -/
  | enum (values : List Value)
  /-- As one of the alternatives under the keyword. -/
  | union (keyword : String)
  /-- Under a type. -/
  | type (name : String)
  /-- Under each of the types. -/
  | types (names : List Value)
  /-- As anything. -/
  | anything
  /-- It is not. -/
  | malformed (message : String)

/-- Reads a mapping as it was decided. -/
def Decision.read (refs : RefResolver σ) (parts : PartReaders σ) (members : Members)
    (location : String) : Decision → EStateM Error σ Schema
  | .reference text => refs text s!"{location}/$ref"
  | .const value => pure (.const value)
  | .enum values => pure (.enum values)
  | .union keyword => do return .union (← parts.alternatives keyword s!"{location}/{keyword}")
  | .type name => readTyped parts members location name
  | .types names => do
    match ← readTypeList parts members location 0 names with
    | [schema] => return schema
    | schemas => return .union schemas
  | .anything => pure .anything
  | .malformed message => Schema.malformed location message

/-- The members of a mapping decide how it is read. -/
inductive Decides (members : Members) : Decision → Prop where
  | reference {text : String} (hlead : leading members = some "$ref")
      (htext : members.lookup "$ref" = some (.string text)) : Decides members (.reference text)
  | const {value : Value} (hlead : leading members = some "const")
      (hvalue : members.lookup "const" = some value) : Decides members (.const value)
  | enum {values : List Value} (hlead : leading members = some "enum")
      (hvalues : members.lookup "enum" = some (.array values)) (hne : values ≠ []) :
      Decides members (.enum values)
  | union {keyword : String} (hkeyword : keyword ∈ ["anyOf", "oneOf"])
      (hlead : leading members = some keyword) : Decides members (.union keyword)
  | named {name : String} (hlead : leading members = some "type")
      (hname : members.lookup "type" = some (.string name)) : Decides members (.type name)
  | listed {names : List Value} (hlead : leading members = some "type")
      (hnames : members.lookup "type" = some (.array names)) (hne : names ≠ []) :
      Decides members (.types names)
  | implied (hlead : leading members = some "properties") : Decides members (.type "object")
  | unconstrained (hlead : leading members = none) : Decides members .anything
  | malformed {message : String} : Decides members (.malformed message)

theorem exists_decision (members : Members) : ∃ decision, Decides members decision ∧
    ∀ {σ : Type} (refs : RefResolver σ) (parts : PartReaders σ) (location : String),
      readMapping refs parts members location = decision.read refs parts members location := by
  unfold readMapping
  cases href : members.lookup "$ref" with
  | some value =>
    cases value with
    | string text => exact ⟨_, .reference (by simp [leading, keywords, href]) href, fun _ _ _ => rfl⟩
    | null | bool | number | array | object => exact ⟨_, .malformed, fun _ _ _ => rfl⟩
  | none =>
  cases hconst : members.lookup "const" with
  | some value =>
    exact ⟨_, .const (by simp [leading, keywords, href, hconst]) hconst, fun _ _ _ => rfl⟩
  | none =>
  cases henum : members.lookup "enum" with
  | some value =>
    have hlead : leading members = some "enum" := by simp [leading, keywords, href, hconst, henum]
    rcases value with _ | _ | _ | _ | (_ | ⟨value, values⟩) | _
    case array.cons => exact ⟨_, .enum hlead henum (List.cons_ne_nil _ _), fun _ _ _ => rfl⟩
    all_goals exact ⟨_, .malformed, fun _ _ _ => rfl⟩
  | none =>
  dsimp only
  cases hfind : ["anyOf", "oneOf"].find? fun keyword => (members.lookup keyword).isSome with
  | some keyword =>
    have hlead := leading_of_alternatives href hconst henum hfind
    exact ⟨_, .union (List.mem_of_find?_eq_some hfind) hlead, fun _ _ _ => rfl⟩
  | none =>
  have hbefore := leading_of_no_alternatives href hconst henum hfind
  cases htype : members.lookup "type" with
  | some value =>
    have hlead : leading members = some "type" := by simp [hbefore, htype]
    rcases value with _ | _ | _ | name | (_ | ⟨name, names⟩) | _
    case string => exact ⟨_, .named hlead htype, fun _ _ _ => rfl⟩
    case array.cons => exact ⟨_, .listed hlead htype (List.cons_ne_nil _ _), fun _ _ _ => rfl⟩
    all_goals exact ⟨_, .malformed, fun _ _ _ => rfl⟩
  | none =>
  by_cases hthere : (members.lookup "properties").isSome = true
  · refine ⟨_, .implied (by simp [hbefore, htype, hthere]), fun _ _ _ => ?_⟩
    exact if_pos hthere
  · refine ⟨_, .unconstrained (by simpa [hbefore, htype] using hthere), fun _ _ _ => ?_⟩
    exact if_neg hthere

/-! ## The tree -/

/-- A discipline for reading, with the references that may be followed and what references and raw
schemas stand for in a state. -/
structure Keeps (D : Discipline Error σ) (followed : String → Prop) (refs : RefResolver σ)
    (ref : σ → String → Schema → Prop) (part : σ → Value → Schema → Prop) : Prop where
  /-- Malformed raw schemas are faults that may occur. -/
  fault : ∀ location message s, D.inv s → D.fault (.document location message) s
  /-- The resolver keeps the discipline and gives what the reference stands for. -/
  refs : ∀ text location s, followed text → D.inv s →
    D.Runs (refs text location) s fun schema s' => ref s' text schema
  /-- Later states do not undo what a raw schema stands for. -/
  stable : ∀ {s s' raw schema}, D.le s s' → part s raw schema → part s' raw schema
  /-- What a raw schema stands for follows its form. -/
  form : ∀ {s raw schema}, D.inv s → HasForm (ref s) (part s) raw schema → ListsSome raw →
    part s raw schema

section Tree

variable {followed : String → Prop} {ref : σ → String → Schema → Prop}
  {part : σ → Value → Schema → Prop} {members : Members} {location : String} {s : σ}

/-- The raw schema can be read from every location in every state. -/
def ReadsAs (D : Discipline Error σ) (refs : RefResolver σ) (part : σ → Value → Schema → Prop)
    (raw : Value) : Prop :=
  ∀ location s, D.inv s → D.Runs (ofValue refs raw location) s fun schema s' => part s' raw schema

theorem elements_runs (hkeeps : Keeps D followed refs ref part) {raws : List Value}
    (hraws : ∀ raw ∈ raws, ReadsAs D refs part raw) {index : Nat} (hs : D.inv s) :
    D.Runs (elements refs raws index location) s fun schemas s' =>
      List.Forall₂ (part s') raws schemas := by
  induction raws generalizing index s with
  | nil => exact .pure hs .nil
  | cons raw rest ih =>
    rw [elements]
    refine (hraws raw (List.mem_cons_self ..) _ s hs).bind fun schema s₁ hs₁ _ hschema => ?_
    have hrest : ∀ raw ∈ rest, ReadsAs D refs part raw :=
      fun raw hraw => hraws raw (List.mem_cons_of_mem _ hraw)
    refine (ih hrest hs₁).bind fun schemas s₂ hs₂ hle hschemas => ?_
    exact .pure hs₂ (.cons (hkeeps.stable hle hschema) hschemas)

theorem namedElements_runs (hkeeps : Keeps D followed refs ref part)
    (hmembers : ∀ entry ∈ members, ReadsAs D refs part entry.2) (hs : D.inv s) :
    D.Runs (namedElements refs members location) s fun fields s' =>
      List.Forall₂ (fun raw field => field.1 = raw.1 ∧ part s' raw.2 field.2) members fields := by
  induction members generalizing s with
  | nil => exact .pure hs .nil
  | cons entry rest ih =>
    obtain ⟨name, raw⟩ := entry
    rw [namedElements]
    refine (hmembers _ (List.mem_cons_self ..) _ s hs).bind fun schema s₁ hs₁ _ hschema => ?_
    have hrest : ∀ entry ∈ rest, ReadsAs D refs part entry.2 :=
      fun entry hentry => hmembers entry (List.mem_cons_of_mem _ hentry)
    refine (ih hrest hs₁).bind fun schemas s₂ hs₂ hle hschemas => ?_
    exact .pure hs₂ (.cons ⟨rfl, hkeeps.stable hle hschema⟩ hschemas)

section Mapping

variable (hkeeps : Keeps D followed refs ref part)
  (hparts : ∀ {property raw}, HasPart members property raw → ReadsAs D refs part raw)

include hkeeps hparts

theorem alternativesIn_runs {keyword : String} (hkeyword : keyword ∈ ["anyOf", "oneOf"])
    (hlead : leading members = some keyword) (hs : D.inv s) :
    D.Runs (alternativesIn refs keyword members location) s fun schemas s' =>
      ∃ items, items ≠ [] ∧ members.lookup keyword = some (.array items) ∧
        List.Forall₂ (part s') items schemas := by
  rw [alternativesIn_eq]
  split
  · next h =>
    have hthere := lookup_isSome_of_leading hlead
    simp [h] at hthere
  · next item items h =>
    have hitems : ∀ raw ∈ item :: items, ReadsAs D refs part raw :=
      fun raw hraw => hparts (.alternative hkeyword hlead h hraw)
    exact (elements_runs hkeeps hitems hs).imp fun schemas s' _ _ hschemas =>
      ⟨_, List.cons_ne_nil _ _, h, hschemas⟩
  · exact malformed_runs hkeeps.fault hs

theorem propertiesIn_runs (htype : HasType members "object") (hs : D.inv s) :
    D.Runs (propertiesIn refs members location) s fun fields s' =>
      List.Forall₂ (fun raw field => field.1 = raw.1 ∧ part s' raw.2 field.2)
        (properties members) fields := by
  rw [propertiesIn_eq]
  split
  · next h =>
    have hnone : properties members = [] := by
      unfold properties
      rw [h]
      rfl
    rw [hnone]
    exact .pure hs .nil
  · next ps h =>
    have hsome : properties members = ps := by
      unfold properties
      rw [h]
      rfl
    have hps : ∀ entry ∈ ps, ReadsAs D refs part entry.2 :=
      fun entry hentry => hparts (.property htype (hsome ▸ hentry))
    rw [hsome]
    exact namedElements_runs hkeeps hps hs
  · exact malformed_runs hkeeps.fault hs

theorem itemsIn_runs (htype : HasType members "array") (hs : D.inv s) :
    D.Runs (itemsIn refs members location) s fun items s' =>
      match items with
      | .byPosition schemas => ∃ raws, members.lookup "items" = some (.array raws) ∧
          List.Forall₂ (part s') raws schemas
      | .forEach schema => (members.lookup "items" = none ∧ schema = .anything) ∨
          ∃ raw, members.lookup "items" = some raw ∧ (∀ raws, raw ≠ .array raws) ∧
            part s' raw schema := by
  rw [itemsIn_eq]
  split
  · next h => exact .pure hs (.inl ⟨h, rfl⟩)
  · next raws h =>
    have hraws : ∀ raw ∈ raws, ReadsAs D refs part raw :=
      fun raw hraw => hparts (.position htype h hraw)
    exact (elements_runs hkeeps hraws hs).map fun schemas s' _ _ hschemas => ⟨raws, h, hschemas⟩
  · next raw hone h =>
    have hsingle : ∀ raws, raw ≠ .array raws := by
      rintro raws rfl
      exact hone raws rfl
    have hread := hparts (.items htype h hsingle) (location ++ "/items") s hs
    exact hread.map fun schema s' _ _ hschema => .inr ⟨raw, h, hsingle, hschema⟩

theorem readTyped_runs {typeName : String} (htype : HasType members typeName) (hs : D.inv s) :
    D.Runs (readTyped (partReaders refs members) members location typeName) s fun schema s' =>
      TypedForm (part s') members typeName schema := by
  unfold readTyped
  split
  · refine (requiredNames_runs hkeeps.fault hs).bind fun names s₁ hs₁ _ hnames => ?_
    refine (propertiesIn_runs hkeeps hparts htype hs₁).bind fun fields s₂ hs₂ _ hfields => ?_
    refine .pure hs₂ ?_
    rw [hnames]
    exact .object hfields
  · refine (itemsIn_runs hkeeps hparts htype hs).bind fun items s₁ hs₁ _ hitems => ?_
    cases items with
    | byPosition schemas =>
      obtain ⟨raws, hraws, hschemas⟩ := hitems
      exact .pure hs₁ (.tuple hraws hschemas)
    | forEach schema =>
      refine (countKeyword_runs hkeeps.fault hs₁).bind fun least s₂ hs₂ hle₂ hleast => ?_
      refine (countKeyword_runs hkeeps.fault hs₂).bind fun most s₃ hs₃ hle₃ hmost => ?_
      refine .pure hs₃ ?_
      rw [hleast, hmost]
      rcases hitems with ⟨hnone, rfl⟩ | ⟨raw, hraw, hone, hschema⟩
      · exact .anyArray hnone
      · exact .array hraw hone (hkeeps.stable (D.trans hle₂ hle₃) hschema)
  · split
    · next kind hkind =>
      refine (readPrimitive_runs hkeeps.fault hs).map fun p s₁ _ _ hp => ?_
      rw [hp]
      exact .primitive hkind
    · exact malformed_runs hkeeps.fault hs

theorem readTypeList_runs {names : List Value} {index : Nat}
    (htypes : ∀ name, .string name ∈ names → HasType members name) (hs : D.inv s) :
    D.Runs (readTypeList (partReaders refs members) members location index names) s
      fun schemas s' => List.Forall₂ (fun raw schema =>
        ∃ name, raw = .string name ∧ TypedForm (part s') members name schema) names schemas := by
  induction names generalizing index s with
  | nil => exact .pure hs .nil
  | cons raw rest ih =>
    cases raw with
    | string name =>
      rw [readTypeList]
      have htype : HasType members name := htypes name (List.mem_cons_self ..)
      have hrest : ∀ name, .string name ∈ rest → HasType members name :=
        fun name hmem => htypes name (List.mem_cons_of_mem _ hmem)
      refine (readTyped_runs hkeeps hparts htype hs).bind fun schema s₁ hs₁ _ hschema => ?_
      refine (ih hrest hs₁).bind fun schemas s₂ hs₂ hle hschemas => ?_
      have hlater : TypedForm (part s₂) members name schema :=
        hschema.mono fun _ _ => hkeeps.stable hle
      exact .pure hs₂ (.cons ⟨name, rfl, hlater⟩ hschemas)
    | _ => exact malformed_runs hkeeps.fault hs

theorem readMapping_runs (hfollowed : FollowsOnly followed (.object members)) (hs : D.inv s) :
    D.Runs (readMapping refs (partReaders refs members) members location) s fun schema s' =>
      HasForm (ref s') (part s') (.object members) schema ∧ ListsSome (.object members) := by
  obtain ⟨decision, hdecides, hread⟩ := exists_decision members
  rw [hread]
  unfold Decision.read
  cases hdecides with
  | @reference text hlead htext =>
    have htarget : followed text := hfollowed text (.here hlead htext)
    refine (hkeeps.refs text _ s htarget hs).imp fun schema s' _ _ hschema => ?_
    exact ⟨.reference hlead htext hschema, listsSome_of_lookup hlead (by simp [htext])⟩
  | const hlead hvalue =>
    exact .pure hs ⟨.const hlead hvalue, listsSome_of_leading (by simp [hlead])⟩
  | enum hlead hvalues hne =>
    exact .pure hs ⟨.enum hlead hvalues, listsSome_of_lookup hlead (by simpa [hvalues] using hne)⟩
  | union hkeyword hlead =>
    refine (alternativesIn_runs hkeeps hparts hkeyword hlead hs).map fun schemas s' _ _ h => ?_
    obtain ⟨items, hne, hitems, hschemas⟩ := h
    exact ⟨.union hkeyword hlead hitems hschemas, listsSome_of_lookup hlead (by simp [hitems, hne])⟩
  | named hlead hname =>
    refine (readTyped_runs hkeeps hparts (.named hlead hname) hs).imp fun schema s' _ _ hschema => ?_
    exact ⟨.typed hlead hname hschema, listsSome_of_lookup hlead (by simp [hname])⟩
  | @listed names hlead hnames hne =>
    have hlists : ListsSome (.object members) :=
      listsSome_of_lookup hlead (by simpa [hnames] using hne)
    have htypes : ∀ name, .string name ∈ names → HasType members name :=
      fun name hmem => .listed hlead hnames hmem
    refine (readTypeList_runs hkeeps hparts htypes hs).bind fun schemas s₁ hs₁ _ hschemas => ?_
    split
    · next schema =>
      rcases hschemas with _ | ⟨⟨name, rfl, hschema⟩, hnil⟩
      cases hnil
      exact .pure hs₁ ⟨.oneType hlead hnames hschema, hlists⟩
    · exact .pure hs₁ ⟨.types hlead hnames hschemas, hlists⟩
  | implied hlead =>
    refine (readTyped_runs hkeeps hparts (.implied hlead rfl) hs).imp fun schema s' _ _ hschema => ?_
    exact ⟨.properties hlead hschema, listsSome_of_leading (by simp [hlead])⟩
  | unconstrained hlead =>
    exact .pure hs ⟨.unconstrained hlead, listsSome_of_leading (by simp [hlead])⟩
  | malformed => exact malformed_runs hkeeps.fault hs

end Mapping

/-- Reading keeps the discipline and gives what the raw schema stands for. -/
theorem ofValue_runs (hkeeps : Keeps D followed refs ref part) (raw : Value)
    (hfollowed : FollowsOnly followed raw) : ReadsAs D refs part raw := by
  induction h : sizeOf raw using Nat.strong_induction_on generalizing raw with
  | _ n ih =>
    subst h
    intro location s hs
    rw [ofValue.eq_def]
    split
    · exact .pure hs (hkeeps.form hs .everything listsSome_bool)
    · exact malformed_runs hkeeps.fault hs
    · next members =>
      have hparts : ∀ {property raw}, HasPart members property raw → ReadsAs D refs part raw :=
        fun {_ raw} hpart => ih _ hpart.sizeOf_lt raw (hfollowed.of_hasPart hpart) rfl
      exact (readMapping_runs hkeeps hparts hfollowed hs).imp fun schema s' hs' _ h =>
        hkeeps.form hs' h.1 h.2
    · exact malformed_runs hkeeps.fault hs

end Tree

end ServiceContract.Schema
