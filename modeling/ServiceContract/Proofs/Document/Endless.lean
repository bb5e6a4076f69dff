import ServiceContract.Proofs.Document.Circles
import ServiceContract.Proofs.Document.Declarations
import ServiceContract.Proofs.Document.Origins
import ServiceContract.Proofs.Interface.Endless

/-!
# Documents that are refused for types without values

The schemas of a document have something to choose from throughout and name only types of the document
or of other ones: reading ensures it, references keep it, and fragments that are borrowed from other
documents have it since those were read as well. So once its schemas are resolved, a document is refused
for nothing but a circle of types that need one another.
-/

namespace ServiceContract

open Json (Value Members)
open Schema (HasChoices)

variable {σ : Type}

/-- The fragments have something to choose from throughout. -/
def Interface.FragmentsChoose (i : Interface) : Prop :=
  ∀ key schema, i.fragment? key = some schema → schema.Everywhere HasChoices

/-! ## Resolution -/

namespace Surroundings

/-- The library keeps the discipline, and the fragments of its interfaces may be borrowed. -/
def Borrows (L : Discipline Error σ) (here : Surroundings σ) : Prop :=
  ∀ library key s, here.library = some library → L.inv s →
    L.Runs (library.interfaceAt key) s fun i _ => i.FragmentsChoose

/-- Schemas with a condition everywhere in them are what raw schemas stand for if reading ensures the
condition, whatever the library keeps that fragments are borrowed from. -/
theorem Borrows.resolves {L : Discipline Error σ} {here : Surroundings σ} {P : Schema → Prop}
    {fragments : Members} {named : String → Prop} (h : here.Borrows L) (hfault : ∀ e s, L.fault e s)
    (hread : Schema.HoldsWhenRead here.typeNames P)
    (hnamed : ∀ {key raw}, fragments.lookup key = some raw → RawSchema.NamesOnly named raw) :
    Resolves L here fragments named (fun _ _ i => i.FragmentsChoose)
      fun _ _ _ schema => schema.Everywhere P where
  fault e s _ _ := hfault e s
  key _ _ e s _ _ _ := hfault e s
  library library _ key s hlibrary _ _ _ hs := h library key s hlibrary hs
  namesOnly := hnamed
  linkStable _ hlink := hlink
  standsStable _ _ hstands := hstands
  form := by
    intro s externals raw schema _ hlinked hform hlists
    refine hread.nodes.readsNodes.everywhere_of_hasForm hform hlists trivial (fun text schema href => ?_)
      fun _ _ hpart _ => hpart
    cases href with
    | ownType _ _ _ _ hname => exact .leaf (hread.inside _ hname) fun part hpart => by cases hpart
    | type => exact .leaf (hread.outside _ _) fun part hpart => by cases hpart
    | ownFragment _ _ _ _ _ hstands => exact hstands
    | fragment _ _ _ hinterface _ hfragment =>
      have hchoose := (hlinked _ _ (mem_of_lookup hinterface)).2
      exact (hchoose _ _ hfragment).rebase hread.rebase

end Surroundings

/-- Resolving a document keeps what its library keeps, and its fragments may be borrowed. -/
theorem resolveDocument_fragmentsChoose {L : Discipline Error σ} {rules : IdentifierRules}
    {document : Option String} {library : Option (Library σ)} {raw : Value} {s : σ} (hs : L.inv s)
    (hfault : ∀ e s, L.fault e s)
    (h : ∀ names, (Surroundings.mk document names library).Borrows L) :
    L.Runs (resolveDocument rules document library raw) s fun i _ => i.FragmentsChoose := by
  have hresolves : ∀ outline : Outline, outline.IsOf raw →
      Resolves L ⟨document, outline.types.map Header.name, library⟩ outline.fragments
        (RawDocument.Names (fun _ => True) raw) (fun _ _ i => i.FragmentsChoose)
        fun _ _ _ schema => schema.Everywhere HasChoices :=
    fun outline hof => (h (outline.types.map Header.name)).resolves hfault
      Schema.holdsWhenRead_hasChoices (namesOnly_of_lookup_fragments hof fun _ hname => hname)
  refine (resolveDocument_runs hs (fun e _ => hfault e s) hresolves).imp fun i s' _ _ h => ?_
  obtain ⟨externals, hstands⟩ := h
  intro key schema hkey
  obtain ⟨_, _, -, hchoose⟩ := hstands.schemas schema (.fragment (mem_of_lookup hkey))
  exact hchoose

/-! ## Stores -/

namespace Store

/-- The fragments of all interfaces in the store may be borrowed. -/
def lending : Discipline Error Store :=
  .ofInv fun s => ∀ key i, s.resolved.lookup key = some i → i.FragmentsChoose

end Store

namespace Source

open Store (lending)

variable {source : Source} {s : Store} {key : String} {keys free : List String}

theorem lending_of_loading {α : Type} {x : Storing α} {Q : α → Store → Prop}
    (hs : lending.inv s) (hx : (loading fun _ _ => True).Runs x s Q) : lending.Runs x s Q := by
  refine (hx.weaken (fun s' _ hle key i hi => ?_) (fun _ _ => trivial) fun _ _ _ _ => trivial).imp
    fun _ _ _ _ hQ => hQ.2
  rw [hle.2] at hi
  exact hs key i hi

/-- An interface that is asked for lends its fragments. -/
theorem interfaceAt_lends (hs : lending.inv s) :
    lending.Runs (source.interfaceAt keys free key) s fun i _ => i.FragmentsChoose := by
  induction hlength : free.length using Nat.strong_induction_on generalizing free key s with
  | _ n ih =>
    subst hlength
    have hserves : ∀ {s : Store}, (loading fun _ _ => True).inv s := fun _ _ _ => trivial
    rw [interfaceAt]
    refine (lending_of_loading hs (checkGraph_runs (fun _ => trivial) hserves)).bind
      fun _ s₁ hs₁ _ _ => .afterGet ?_
    split
    · next i hi => exact .pure hs₁ (hs₁ key i hi)
    · split
      · next hfree =>
        refine (lending_of_loading hs₁ (rawAt_runs (fun _ => trivial) hserves)).bind
          fun raw s₂ hs₂ _ _ => ?_
        refine (resolveDocument_fragmentsChoose hs₂ (fun _ _ => trivial)
          fun names l key' s hl hs => ?_).bind fun i s₃ hs₃ _ hi => ?_
        · cases hl
          exact ih _ (length_without_lt hfree) hs rfl
        · have hput : lending.inv { s₃ with resolved := putEntry key i s₃.resolved } :=
            fun k j hj => forall_lookup_putEntry hs₃ hi hj
          exact .afterModify hput trivial (.pure hput hi)
      · exact .throw hs₁ trivial

end Source

/-- A store as it is found while documents are resolved: raw documents were asked for, and interfaces,
while any others were being resolved. -/
inductive Store.Underway : Store → Prop where
  /-- Nothing was asked for yet. -/
  | empty : Underway .empty
  /-- A raw document is asked for. -/
  | raw {s : Store} {source : Source} {key : String} (hs : Underway s) :
      Underway (stateAfter (source.rawAt key) s)
  /-- An interface is asked for. -/
  | interface {s : Store} {source : Source} {keys free : List String} {key : String}
      (hs : Underway s) : Underway (stateAfter (source.interfaceAt keys free key) s)

theorem Store.Underway.lending {s : Store} (hs : s.Underway) : Store.lending.inv s := by
  induction hs with
  | empty => nofun
  | raw _ ih =>
    exact (Source.lending_of_loading ih
      (Source.rawAt_runs (fun _ => trivial) fun _ _ _ => trivial)).inv_stateAfter
  | interface _ ih => exact (Source.interfaceAt_lends ih).inv_stateAfter

/-- Between operations a store is such a one as well. -/
theorem Store.Reachable.underway {allowed : Source → Prop} {s : Store} (hs : s.Reachable allowed) :
    s.Underway := by
  have hraw : ∀ {source : Source} {s : Store}, s.Underway → ∀ key,
      (Discipline.ofInv Underway).Runs (source.rawAt key) s fun _ _ => True :=
    fun hs _ => .of_stateAfter (.raw hs)
  have hinterface : ∀ {source : Source} {s : Store}, s.Underway → ∀ keys free key,
      (Discipline.ofInv Underway).Runs (source.interfaceAt keys free key) s fun _ _ => True :=
    fun hs _ _ _ => .of_stateAfter (.interface hs)
  have hkey : ∀ {s : Store} {key : Except Error String}, s.Underway →
      (Discipline.ofInv Underway).Runs (Source.ofExcept key) s fun _ _ => True := by
    intro s key hs
    cases key with
    | ok key => exact .pure hs trivial
    | error e => exact .throw hs trivial
  induction hs with
  | empty => exact .empty
  | raw name _ _ ih =>
    exact ((hkey ih).bind fun key _ hs _ _ => hraw hs key).inv_stateAfter
  | interface name _ _ ih =>
    exact ((hkey ih).bind fun key _ hs _ _ => .afterGet (hinterface hs _ _ key)).inv_stateAfter
  | @resolve s resolver raw _ _ ih =>
    have hdocument : (Discipline.ofInv Underway).Runs (resolveDocument resolver.rules none
        (resolver.source.map fun source => source.library s) raw) s fun _ _ => True := by
      refine resolveDocument_keeps_library ih (fun _ _ => trivial) fun l key s' hl hs' => ?_
      obtain ⟨source, -, rfl⟩ := Option.map_eq_some_iff.1 hl
      exact hinterface hs' _ _ key
    have hruns : (Discipline.ofInv Underway).Runs (resolver.resolve raw) s fun _ _ => True :=
      hdocument.congr rfl
    exact hruns.inv_stateAfter

/-- Where the documents come from that a document names, with the state that they are kept in: from a
source and a store, or there are none. -/
inductive Library.Provided : {σ : Type} → Option (Library σ) → σ → Prop where
  /-- The document stands alone. -/
  | alone {σ : Type} {state : σ} : Provided none state
  /-- There is a source. -/
  | stored {source : Source} {keys free : List String} {s : Store} (hs : s.Underway) :
      Provided (some ⟨source.loader.resolveKey, source.interfaceAt keys free⟩) s

/-- Whatever documents come from a source, all types of a document are well made once its schemas are
resolved. -/
theorem Outline.wellMade_of_resolveSchemas {document : Option String} {library : Option (Library σ)}
    {s : σ} {rules : IdentifierRules} {raw : Value} {outline : Outline} {parts : Interface.Parts}
    {p : Progress σ} (hlibrary : Library.Provided library s)
    (houtline : Outline.ofValue rules document raw = .ok outline)
    (hschemas : outline.resolveSchemas ⟨document, outline.types.map Header.name, library⟩
      ⟨[], [], s⟩ = .ok parts p) : WellMade parts.types := by
  have hof := Outline.isOf_of_ofValue houtline
  have hmade : ∀ L : Discipline Error σ, (∀ e s, L.fault e s) → L.inv s →
      (Surroundings.mk document (outline.types.map Header.name) library).Borrows L →
      WellMade parts.types := by
    intro L hfault hs hborrows
    have hresolves := hborrows.resolves hfault Schema.holdsWhenRead_isWellMade
      (namesOnly_of_lookup_fragments hof fun _ hname => hname)
    obtain ⟨-, -, hparts⟩ := (hresolves.resolveSchemas_runs hof (fun _ hname => hname)
      (hresolves.progress_start s hs)).ok hschemas
    have hnames : parts.types.map NamedType.name = outline.types.map Header.name :=
      (map_eq_map_of_forall₂ hparts.types fun _ _ ht => ht.1.symm).symm
    refine ⟨hnames ▸ hof.typeNames, fun t ht => ?_⟩
    obtain ⟨header, -, -, _, -, hmade⟩ := exists_of_forall₂_right hparts.types ht
    rw [hnames]
    exact hmade
  cases hlibrary with
  | alone =>
    exact hmade (.ofInv fun _ => True) (fun _ _ => trivial) trivial fun l _ _ hl _ => by cases hl
  | stored hs =>
    refine hmade Store.lending (fun _ _ => trivial) hs.lending fun l key s' hl hs' => ?_
    cases hl
    exact Source.interfaceAt_lends hs'

/-- A document whose schemas resolve and whose types are refused is refused for a circle: for types that
it declares, none of them among those that were found to have a finite value, each of which refers to
the next one and the last one to the first one, at whose schema the error is. The rounds that find types
with a finite value are over when there was one for each type and one more, and the way to the circle
takes no more turns than there are types. -/
theorem resolveDocument_endless {document : Option String} {library : Option (Library σ)} {s : σ}
    {rules : IdentifierRules} {raw : Value} {outline : Outline} {parts : Interface.Parts}
    {p : Progress σ} {e : Error} (hlibrary : Library.Provided library s)
    (houtline : Outline.ofValue rules document raw = .ok outline)
    (hschemas : outline.resolveSchemas ⟨document, outline.types.map Header.name, library⟩
      ⟨[], [], s⟩ = .ok parts p)
    (hrefused : checkInhabited (locate document) parts.types = .error e) :
    resolveDocument rules document library raw s = .error e p.library ∧
    admitUntilStable parts.types (parts.types.length + 1) [] = some (finiteTypes parts.types) ∧
    (∃ start ∈ parts.types,
      (parts.types.find? fun t => decide (t.name ∉ finiteTypes parts.types)) = some start ∧
      followUntilCircle (locate document) parts.types (finiteTypes parts.types) parts.types.length
        [start.name] = some e) ∧
    ∃ first others,
      e = .cyclicReference (locate document s!"/types/{first}/schema")
        (Text.join " -> " ((first :: others ++ [first]).map fun name => "#/types/" ++ name) ++
          " (no finite value)") ∧
      IsEndlessCircle parts.types first others := by
  have hmade := Outline.wellMade_of_resolveSchemas hlibrary houtline hschemas
  obtain ⟨first, others, he, hcircle, start, hstart, hfind, hfollow⟩ :=
    hmade.checkInhabited_error hrefused
  have hresolve : outline.resolve document library ⟨[], [], s⟩ = .error e p := by
    have hcheck : (Resolving.ofExcept (checkInhabited
        (Surroundings.mk document (outline.types.map Header.name) library).locate parts.types) :
        Resolving σ Unit) p = .error e p := by
      show (Resolving.ofExcept (checkInhabited (locate document) parts.types) : Resolving σ Unit) p = _
      rw [hrefused]
      rfl
    rw [Outline.resolve_eq, Outline.resolveParts_eq, bind_assoc]
    simp only [bind, EStateM.bind, hschemas, hcheck]
  refine ⟨?_, admitUntilStable_finiteTypes, ⟨start, hstart, hfind, hfollow⟩, first, others, he, hcircle⟩
  unfold resolveDocument
  rw [houtline]
  dsimp only
  rw [hresolve]

namespace Sample

/-- Holders need a left hand, which needs a right hand, which needs one of both hands. The left hand is
a pair by a fragment, with a node of another document. -/
def hands : Value :=
  document [
    ("types", .array [
      .object (declaration "holder" [("schema", .object [
        ("properties", .object [("hand", reference "#/types/left")]),
        ("required", .array [.string "hand"])])]),
      .object (declaration "left" [("schema", reference "#/schemas/pair")]),
      .object (declaration "right" [("schema", .object [
        ("anyOf", .array [reference "#/types/left", reference "#/types/right"])])])]),
    ("schemas", .object [("pair", .object [("type", .string "array"),
      ("items", .array [reference "#/types/right", reference "nodes.json#/schemas/any-node"])])])]

/-- The circle of both hands. -/
def handsCircle : Error :=
  .cyclicReference "#/types/left/schema" "#/types/left -> #/types/right -> #/types/left (no finite value)"

/-- Resolves the schemas of an outline that stands alone but for the documents of the source. -/
def schemasOf (outline : Outline) : Resolving Store Interface.Parts :=
  outline.resolveSchemas ⟨none, outline.types.map Header.name, some (source.library .empty)⟩

end Sample

/-- Neither hand has a value without the other one. -/
theorem resolveDocument_endless_hands : ∃ outline parts p,
    Outline.ofValue .none none Sample.hands = .ok outline ∧
    Sample.schemasOf outline ⟨[], [], .empty⟩ = .ok parts p ∧
    checkInhabited (locate none) parts.types = .error Sample.handsCircle ∧
    resolveDocument .none none (some (Sample.source.library .empty)) Sample.hands .empty =
      .error Sample.handsCircle p.library ∧
    ∃ first others, IsEndlessCircle parts.types first others := by
  have houtcome : ((Outline.ofValue .none none Sample.hands).toOption.bind fun outline =>
      (result? (Sample.schemasOf outline) ⟨[], [], .empty⟩).map fun parts =>
        checkInhabited (locate none) parts.types) = some (.error Sample.handsCircle) := by
    decide +kernel
  obtain ⟨outline, houtline, houtcome⟩ := Option.bind_eq_some_iff.1 houtcome
  obtain ⟨parts, hparts, hrefused⟩ := Option.map_eq_some_iff.1 houtcome
  obtain ⟨p, hschemas⟩ := result?_eq_some.1 hparts
  have hlibrary : Library.Provided (some (Sample.source.library .empty)) Store.empty := .stored .empty
  have houtline := eq_ok_of_toOption houtline
  obtain ⟨hresolve, -, -, first, others, -, hcircle⟩ :=
    resolveDocument_endless hlibrary houtline hschemas hrefused
  exact ⟨outline, parts, p, houtline, hschemas, hrefused, hresolve, first, others, hcircle⟩

end ServiceContract
