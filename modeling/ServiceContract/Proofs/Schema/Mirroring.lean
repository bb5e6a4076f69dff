import ServiceContract.Proofs.Mirroring
import ServiceContract.Proofs.Pairing
import ServiceContract.Proofs.Schema.Reading

/-!
# Readers that go together

A raw schema may be read with resolvers that keep different states, and from different locations.
Reading itself keeps no state, and it goes from reference to reference in an order that the raw schema
alone decides, with a location that takes the same steps as the way into the raw schema does. So
whatever makes computations go together and holds of the two resolvers, for all references that are
followed, holds of reading with the one and with the other.
-/

namespace ServiceContract

open Json (Value Members)

/-- Readers of raw schemas that go together, and the locations that they may start from. -/
structure ReaderPairing (σ τ : Type) extends Pairing (EStateM Error σ) (EStateM Error τ) where
  /-- The first reader may be at the value from the first location while the second one is at it from
  the second one. -/
  placed : (raw : Value) → (location location' : String) → Prop
  /-- They go on to the same members, below their keys. -/
  member : ∀ {members key raw location location'}, placed (.object members) location location' →
    (key, raw) ∈ members → placed raw (location ++ "/" ++ key) (location' ++ "/" ++ key)
  /-- They go on to the same items, below their positions. -/
  item : ∀ {items : List Value} {index : Nat} {raw location location'},
    placed (.array items) location location' → items[index]? = some raw →
    placed raw (location ++ "/" ++ toString index) (location' ++ "/" ++ toString index)
  /-- They find the same faults. -/
  fault : ∀ {α : Type} {raw location location' message}, placed raw location location' →
    pairs (throw (.document location message) : EStateM Error σ α)
      (throw (.document location' message))

/-- Readers that mirror one another start from the same location. -/
def Likeness.readers {σ τ : Type} (M : Likeness Error σ τ) : ReaderPairing σ τ where
  pairs := M.Mirrors
  pure _ := .pure
  bind := .bind
  placed _ := Eq
  member h _ := by rw [h]
  item h _ := by rw [h]
  fault h := h ▸ .throw

/-- The members under a keyword are read from the location that ends with it. -/
theorem ReaderPairing.keyword {σ τ : Type} {P : ReaderPairing σ τ} {members : Members} {raw : Value}
    {location location' keyword : String} (h : P.placed (.object members) location location')
    (hraw : members.lookup keyword = some raw) :
    P.placed raw (location ++ ("/" ++ keyword)) (location' ++ ("/" ++ keyword)) := by
  rw [← String.append_assoc, ← String.append_assoc]
  exact P.member h (mem_of_lookup hraw)

namespace Schema

open RawSchema

variable {σ τ : Type} {P : ReaderPairing σ τ} {refs : RefResolver σ} {refs' : RefResolver τ}
  {members : Members} {location location' : String}

/-! ## Keywords -/

section Keywords

variable {raw : Value} (hplaced : P.placed raw location location')

include hplaced

theorem numberKeyword_pairs {keyword : String} :
    P.pairs (numberKeyword members location keyword) (numberKeyword members location' keyword) := by
  unfold numberKeyword
  cases members.lookup keyword with
  | none => exact P.pure _
  | some value =>
    cases value with
    | number n => exact P.pure _
    | null | bool | string | array | object => exact P.fault hplaced

theorem countKeyword_pairs {keyword : String} :
    P.pairs (countKeyword members location keyword) (countKeyword members location' keyword) := by
  unfold countKeyword
  cases members.lookup keyword with
  | none => exact P.pure _
  | some value =>
    cases value with
    | number n =>
      dsimp only
      cases n.toNat? with
      | some count => exact P.pure _
      | none => exact P.fault hplaced
    | null | bool | string | array | object => exact P.fault hplaced

theorem patternKeyword_pairs :
    P.pairs (patternKeyword members location) (patternKeyword members location') := by
  unfold patternKeyword
  cases members.lookup "pattern" with
  | none => exact P.pure _
  | some value =>
    cases value with
    | string source =>
      dsimp only
      cases Pattern.ofText source with
      | ok pattern => exact P.pure _
      | error fault => exact P.fault hplaced
    | null | bool | number | array | object => exact P.fault hplaced

theorem requiredNames_pairs :
    P.pairs (requiredNames members location) (requiredNames members location') := by
  unfold requiredNames
  cases members.lookup "required" with
  | none => exact P.pure _
  | some value =>
    cases value with
    | array items =>
      refine P.mapM fun item _ => ?_
      cases item with
      | string name => exact P.pure _
      | null | bool | number | array | object => exact P.fault hplaced
    | null | bool | number | string | object => exact P.fault hplaced

theorem readPrimitive_pairs {kind : PrimitiveKind} :
    P.pairs (readPrimitive kind members location) (readPrimitive kind members location') := by
  have hnumber : ∀ keyword, P.pairs (numberKeyword members location keyword)
      (numberKeyword members location' keyword) := fun _ => numberKeyword_pairs hplaced
  have hcount : ∀ keyword, P.pairs (countKeyword members location keyword)
      (countKeyword members location' keyword) := fun _ => countKeyword_pairs hplaced
  cases kind with
  | integer | number =>
    refine P.bind (hnumber _) fun _ => P.bind (hnumber _) fun _ => ?_
    exact P.bind (hnumber _) fun _ => P.bind (hnumber _) fun _ => P.pure _
  | string =>
    refine P.bind (hcount _) fun _ => P.bind (hcount _) fun _ => ?_
    exact P.bind (patternKeyword_pairs hplaced) fun _ => P.pure _
  | boolean | null => exact P.pure _

end Keywords

/-! ## Parts -/

/-- Reading the raw schema with the first resolver goes together with reading it with the second one,
from all locations that do. -/
def ReadsAlike (P : ReaderPairing σ τ) (refs : RefResolver σ) (refs' : RefResolver τ) (raw : Value) :
    Prop :=
  ∀ location location', P.placed raw location location' →
    P.pairs (ofValue refs raw location) (ofValue refs' raw location')

/-- The items of an array, from a position on. -/
theorem elements_pairs {before raws : List Value} (hraws : ∀ raw ∈ raws, ReadsAlike P refs refs' raw)
    (hplaced : P.placed (.array (before ++ raws)) location location') :
    P.pairs (elements refs raws before.length location)
      (elements refs' raws before.length location') := by
  induction raws generalizing before with
  | nil => exact P.pure _
  | cons raw rest ih =>
    rw [elements, elements]
    have hraw : (before ++ raw :: rest)[before.length]? = some raw := by simp
    refine P.bind (hraws raw (List.mem_cons_self ..) _ _ (P.item hplaced hraw)) fun schema => ?_
    rw [List.append_cons] at hplaced
    have hrest := ih (fun raw hraw => hraws raw (List.mem_cons_of_mem _ hraw)) hplaced
    rw [List.length_append, List.length_singleton] at hrest
    exact P.map hrest

theorem namedElements_pairs (hmembers : ∀ entry ∈ members, ReadsAlike P refs refs' entry.2)
    (hplaced : ∀ name raw, (name, raw) ∈ members →
      P.placed raw (location ++ "/" ++ name) (location' ++ "/" ++ name)) :
    P.pairs (namedElements refs members location) (namedElements refs' members location') := by
  induction members with
  | nil => exact P.pure _
  | cons entry rest ih =>
    obtain ⟨name, raw⟩ := entry
    rw [namedElements, namedElements]
    have hfirst := hplaced name raw (List.mem_cons_self ..)
    refine P.bind (hmembers _ (List.mem_cons_self ..) _ _ hfirst) fun schema => ?_
    exact P.map (ih (fun entry hentry => hmembers entry (List.mem_cons_of_mem _ hentry))
      fun name raw hraw => hplaced name raw (List.mem_cons_of_mem _ hraw))

section Mapping

variable (hparts : ∀ {property raw}, HasPart members property raw → ReadsAlike P refs refs' raw)

include hparts

section Placed

variable (hplaced : P.placed (.object members) location location')

include hplaced

theorem alternativesIn_pairs {keyword : String} (hkeyword : keyword ∈ ["anyOf", "oneOf"])
    (hlead : leading members = some keyword) :
    P.pairs (alternativesIn refs keyword members (location ++ "/" ++ keyword))
      (alternativesIn refs' keyword members (location' ++ "/" ++ keyword)) := by
  rw [alternativesIn_eq, alternativesIn_eq]
  cases hvalue : members.lookup keyword with
  | none => exact P.pure _
  | some value =>
    have hbelow := P.member hplaced (mem_of_lookup hvalue)
    cases value with
    | array items =>
      cases items with
      | nil => exact P.fault hbelow
      | cons item items =>
        exact @elements_pairs _ _ P refs refs' _ _ [] _
          (fun raw hraw => hparts (.alternative hkeyword hlead hvalue hraw)) hbelow
    | null | bool | number | string | object => exact P.fault hbelow

theorem propertiesIn_pairs (htype : HasType members "object") :
    P.pairs (propertiesIn refs members location) (propertiesIn refs' members location') := by
  rw [propertiesIn_eq, propertiesIn_eq]
  cases hvalue : members.lookup "properties" with
  | none => exact P.pure _
  | some value =>
    cases value with
    | object ps =>
      have hproperties : properties members = ps := by
        unfold properties
        rw [hvalue]
        rfl
      refine namedElements_pairs (fun entry hentry => ?_) fun name raw hraw => ?_
      · exact hparts (.property htype (hproperties ▸ hentry))
      · exact P.member (P.keyword hplaced hvalue) hraw
    | null | bool | number | string | array => exact P.fault hplaced

theorem itemsIn_pairs (htype : HasType members "array") :
    P.pairs (itemsIn refs members location) (itemsIn refs' members location') := by
  rw [itemsIn_eq, itemsIn_eq]
  cases hvalue : members.lookup "items" with
  | none => exact P.pure _
  | some raw =>
    have hbelow : P.placed raw (location ++ "/items") (location' ++ "/items") :=
      P.keyword hplaced hvalue
    have hone : (∀ raws, raw ≠ .array raws) → ReadsAlike P refs refs' raw :=
      fun hone => hparts (.items htype hvalue hone)
    cases raw with
    | array raws =>
      exact P.map (@elements_pairs _ _ P refs refs' _ _ [] _
        (fun raw hraw => hparts (.position htype hvalue hraw)) hbelow)
    | null | bool | number | string | object => exact P.map (hone (by simp) _ _ hbelow)

theorem readTyped_pairs {typeName : String} (htype : HasType members typeName) :
    P.pairs (readTyped (partReaders refs members) members location typeName)
      (readTyped (partReaders refs' members) members location' typeName) := by
  by_cases hobject : typeName = "object"
  · subst hobject
    refine P.bind (requiredNames_pairs hplaced) fun names => ?_
    exact P.bind (propertiesIn_pairs hparts hplaced htype) fun fields => P.pure _
  by_cases harray : typeName = "array"
  · subst harray
    refine P.bind (itemsIn_pairs hparts hplaced htype) fun items => ?_
    cases items with
    | byPosition schemas => exact P.pure _
    | forEach schema =>
      refine P.bind (countKeyword_pairs hplaced) fun _ => ?_
      exact P.bind (countKeyword_pairs hplaced) fun _ => P.pure _
  · unfold readTyped
    split
    · exact absurd rfl hobject
    · exact absurd rfl harray
    · cases PrimitiveKind.ofName? typeName with
      | some kind => exact P.map (readPrimitive_pairs hplaced)
      | none => exact P.fault hplaced

/-- The names of types under their keyword, from a position on. -/
theorem readTypeList_pairs {before names : List Value}
    (hlist : members.lookup "type" = some (.array (before ++ names)))
    (htypes : ∀ name, .string name ∈ names → HasType members name) :
    P.pairs (readTypeList (partReaders refs members) members location before.length names)
      (readTypeList (partReaders refs' members) members location' before.length names) := by
  induction names generalizing before with
  | nil => exact P.pure _
  | cons raw rest ih =>
    have hraw : (before ++ raw :: rest)[before.length]? = some raw := by simp
    have hbelow := P.item (P.keyword hplaced hlist) hraw
    rw [@String.append_assoc location, @String.append_assoc location'] at hbelow
    cases raw with
    | string name =>
      rw [readTypeList, readTypeList]
      have htype : HasType members name := htypes name (List.mem_cons_self ..)
      refine P.bind (readTyped_pairs hparts hplaced htype) fun schema => ?_
      rw [List.append_cons] at hlist
      have hrest := ih hlist fun name hmem => htypes name (List.mem_cons_of_mem _ hmem)
      rw [List.length_append, List.length_singleton] at hrest
      exact P.map hrest
    | null | bool | number | array | object => exact P.fault hbelow

theorem readMapping_pairs
    (hrefs : ∀ text, leading members = some "$ref" → members.lookup "$ref" = some (.string text) →
      P.pairs (refs text (location ++ "/$ref")) (refs' text (location' ++ "/$ref"))) :
    P.pairs (readMapping refs (partReaders refs members) members location)
      (readMapping refs' (partReaders refs' members) members location') := by
  obtain ⟨decision, hdecides, hread⟩ := exists_decision members
  rw [hread, hread]
  unfold Decision.read
  cases hdecides with
  | @reference text hlead htext => exact hrefs text hlead htext
  | const | enum | unconstrained => exact P.pure _
  | union hkeyword hlead => exact P.map (alternativesIn_pairs hparts hplaced hkeyword hlead)
  | named hlead hname => exact readTyped_pairs hparts hplaced (.named hlead hname)
  | implied hlead => exact readTyped_pairs hparts hplaced (.implied hlead rfl)
  | @listed names hlead hnames =>
    have htypes : ∀ name, .string name ∈ names → HasType members name :=
      fun name hmem => .listed hlead hnames hmem
    have hlist := @readTypeList_pairs _ _ P refs refs' members location location' hparts hplaced []
      names hnames htypes
    refine P.bind hlist fun schemas => ?_
    rcases schemas with _ | ⟨schema, _ | _⟩ <;> exact P.pure _
  | malformed => exact P.fault hplaced

end Placed

end Mapping

/-! ## The tree -/

/-- Reading with the first resolver goes together with reading with the second one if resolving does,
for all references that are followed. -/
theorem ofValue_pairs {followed : String → Prop}
    (hrefs : ∀ text members location location', followed text →
      P.placed (.object members) location location' → members.lookup "$ref" = some (.string text) →
      P.pairs (refs text (location ++ "/$ref")) (refs' text (location' ++ "/$ref")))
    (raw : Value) (hfollowed : FollowsOnly followed raw) : ReadsAlike P refs refs' raw := by
  induction h : sizeOf raw using Nat.strong_induction_on generalizing raw with
  | _ n ih =>
    subst h
    intro location location' hplaced
    cases raw with
    | bool b =>
      cases b with
      | true => exact P.pure _
      | false => exact P.fault hplaced
    | object members =>
      have hparts : ∀ {property raw}, HasPart members property raw → ReadsAlike P refs refs' raw :=
        fun {_ raw} hpart => ih _ hpart.sizeOf_lt raw (hfollowed.of_hasPart hpart) rfl
      refine readMapping_pairs hparts hplaced fun text hlead htext => ?_
      exact hrefs text members _ _ (hfollowed text (.here hlead htext)) hplaced htext
    | null | number | string | array => exact P.fault hplaced

/-- Reading with the first resolver mirrors reading with the second one if resolving mirrors
resolving, for all references to documents that may be named. -/
theorem ofValue_mirrors {M : Likeness Error σ τ} {named : String → Prop}
    (hrefs : ∀ text location, (∀ name, Reference.documentOf? text = some name → named name) →
      M.Mirrors (refs text location) (refs' text location))
    (raw : Value) (hnamed : NamesOnly named raw) (location : String) :
    M.Mirrors (ofValue refs raw location) (ofValue refs' raw location) := by
  refine @ofValue_pairs σ τ M.readers refs refs' _ ?_ raw hnamed.followsOnly location location rfl
  rintro text _ location _ htext rfl -
  exact hrefs text (location ++ "/$ref") htext

end Schema

end ServiceContract
