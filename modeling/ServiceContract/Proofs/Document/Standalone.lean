import ServiceContract.Interface.Fingerprint
import ServiceContract.Proofs.Document.Declarations
import ServiceContract.Proofs.Document.Headers
import ServiceContract.Proofs.Document.Local
import ServiceContract.Proofs.Document.Unchecked
import ServiceContract.Proofs.Schema.Mirroring

/-!
# Documents that stand alone

A document whose references all stay in it can be resolved alone or loaded under a key. The key is
part of every location and of the interface, and it decides which references lead to other documents.
Nothing else depends on it: resolution takes the same steps with a key and without one, and what it
ends in differs by the key alone.
-/

namespace ServiceContract

open Json (Value Members)

/-! ## Ends that go together -/

/-- Two results are the same, or their faults go together. -/
inductive EndAlike {ε ε' α : Type} (fault : ε → ε' → Prop) : Except ε α → Except ε' α → Prop where
  /-- They are the same. -/
  | ok (a : α) : EndAlike fault (.ok a) (.ok a)
  /-- Their faults go together. -/
  | error {e : ε} {e' : ε'} (h : fault e e') : EndAlike fault (.error e) (.error e')

/-- Two runs leave states that go together with the same result, or their faults go together. -/
inductive RunAlike {ε ε' σ τ α : Type} (rel : σ → τ → Prop) (fault : ε → ε' → Prop) :
    EStateM.Result ε σ α → EStateM.Result ε' τ α → Prop where
  /-- The results are the same. -/
  | ok (a : α) {s : σ} {t : τ} (h : rel s t) : RunAlike rel fault (.ok a s) (.ok a t)
  /-- Their faults go together. -/
  | error {e : ε} {e' : ε'} {s : σ} {t : τ} (h : fault e e') :
      RunAlike rel fault (.error e s) (.error e' t)

/-- What follows on results that go together only has to do so for the result. -/
theorem EndAlike.bind {ε ε' α β : Type} {fault : ε → ε' → Prop} {x : Except ε α} {y : Except ε' α}
    {f : α → Except ε β} {g : α → Except ε' β} (h : EndAlike fault x y)
    (hfg : ∀ a, x = .ok a → EndAlike fault (f a) (g a)) : EndAlike fault (x >>= f) (y >>= g) := by
  cases h with
  | ok a => exact hfg a rfl
  | error h => exact .error h

namespace Pairing

variable {ε ε' σ τ : Type}

/-- Results that go together if their faults do. -/
def results (fault : ε → ε' → Prop) : Pairing (Except ε) (Except ε') where
  pairs := EndAlike fault
  pure a := .ok a
  bind h hfg := h.bind fun a _ => hfg a

/-- Computations that go together if their states and their faults do. -/
def runs (rel : σ → τ → Prop) (fault : ε → ε' → Prop) :
    Pairing (EStateM ε σ) (EStateM ε' τ) where
  pairs x y := ∀ s t, rel s t → RunAlike rel fault (x s) (y t)
  pure a _ _ h := .ok a h
  bind {_ _ x y _ _} h hfg s t hst := by
    have hxy := h s t hst
    generalize hx : x s = r at hxy
    generalize hy : y t = r' at hxy
    cases hxy with
    | ok a hst' =>
      rw [bind_of_ok hx, bind_of_ok hy]
      exact hfg a _ _ hst'
    | error h =>
      rw [bind_of_error hx, bind_of_error hy]
      exact .error h

end Pairing

/-! ## Errors under a key -/

/-- The lists of a document that hold declarations of a name. -/
def Outline.sections : List (Role × String) :=
  [(.type, "types"), (.function, "functions"), (.message, "messages")]

/-- The message about a name that was declared before in one of these lists. -/
def Outline.declaredAgain (role : Role) (declared location : String) : String :=
  role.label ++ s!" '{declared}' declared more than once at {location}"

/-- The messages about names and identifiers that cannot be told apart and have no location. -/
inductive Outline.Unlocated : String → Prop where
  /-- Two arguments of a function with one name. -/
  | repeated (declared function : String) :
      Unlocated (s!"argument '{declared}' declared more than once for function '" ++ function ++ "'")
  /-- Two arguments of a function with one identifier. -/
  | arguments (previous argument function identifier : String) :
      Unlocated (s!"arguments '{previous}' and '" ++ argument ++
        s!"' of function '{function}' both derive identifier '{identifier}'")
  /-- Two declarations of the document with one identifier. -/
  | callables (previous label identifier : String) :
      Unlocated s!"{previous} and {label} both derive identifier '{identifier}'"

/-- The second error is the first one in a document with a key. What has no location is the same. -/
inductive Error.Under (key : String) : Error → Error → Prop where
  /-- The location of a malformed part. -/
  | document (location message : String) :
      Under key (.document location message) (.document (key ++ location) message)
  /-- The location of a reference in a circle. -/
  | cyclicReference (location cycle : String) :
      Under key (.cyclicReference location cycle) (.cyclicReference (key ++ location) cycle)
  /-- The location of a reference that leads nowhere. -/
  | unresolvedReference (location reference : String) :
      Under key (.unresolvedReference location reference)
        (.unresolvedReference (key ++ location) reference)
  /-- The location of a declaration with a name that was declared before: what the message ends with. -/
  | repeated {role : Role} {place declared : String} (hplace : (role, place) ∈ Outline.sections)
      (hdeclared : isKebabCase declared) (index : Nat) :
      Under key
        (.identifierCollision (Outline.declaredAgain role declared (locate none s!"/{place}/{index}")))
        (.identifierCollision
          (Outline.declaredAgain role declared (key ++ locate none s!"/{place}/{index}")))
  /-- Two declarations without a location. -/
  | identifierCollision {message : String} (h : Outline.Unlocated message) :
      Under key (.identifierCollision message) (.identifierCollision message)
  /-- A name without a location. -/
  | naming (message : String) : Under key (.naming message) (.naming message)

theorem Error.Under.kind {key : String} {e e' : Error} (h : e.Under key e') : e'.kind = e.kind := by
  cases h <;> rfl

theorem locate_some {key path : String} : locate (some key) path = key ++ locate none path := by
  simp [locate, String.append_assoc]

/-! ## Outlines -/

namespace Outline

/-- Results in a document with a key and without one. -/
abbrev keyed (key : String) : Pairing (Except Error) (Except Error) := .results (Error.Under key)

variable {key : String} {members : Members} {location : String} {rules : IdentifierRules}

theorem stringMember_keyed {name : String} :
    (keyed key).pairs (stringMember members name location)
      (stringMember members name (key ++ location)) := by
  unfold stringMember
  split
  · next text _ => exact .ok text
  · exact .error (.document ..)

theorem descriptionMember_keyed :
    (keyed key).pairs (descriptionMember members location)
      (descriptionMember members (key ++ location)) := by
  refine (keyed key).bind stringMember_keyed fun text => ?_
  split
  · exact .error (.document ..)
  · exact .ok text

theorem checkKebabCase_keyed {role : Role} {name : String} :
    (keyed key).pairs (checkKebabCase role name) (checkKebabCase role name) := by
  unfold checkKebabCase
  split
  · exact .ok ()
  · exact .error (.naming _)

theorem readHeader_keyed {role : Role} {raw : Value} :
    (keyed key).pairs (readHeader role location raw) (readHeader role (key ++ location) raw) := by
  unfold readHeader
  split
  · next members =>
    refine (keyed key).bind stringMember_keyed fun name => ?_
    refine (keyed key).bind checkKebabCase_keyed fun _ => ?_
    exact (keyed key).map descriptionMember_keyed
  · exact .error (.document ..)

section Headers

variable {locate locate' : Nat → String} {repeated repeated' : String → String → Error}

theorem readHeaders_keyed (hlocate : ∀ index, locate' index = key ++ locate index)
    (hrepeated : ∀ name index, isKebabCase name →
      (repeated name (locate index)).Under key (repeated' name (key ++ locate index)))
    {role : Role} {index : Nat} {earlier : List String} {raws : List Value} :
    (keyed key).pairs (readHeaders role locate repeated index earlier raws)
      (readHeaders role locate' repeated' index earlier raws) := by
  induction raws generalizing index earlier with
  | nil => exact .ok []
  | cons raw rest ih =>
    rw [readHeaders, readHeaders, hlocate]
    refine EndAlike.bind readHeader_keyed fun header hheader => ?_
    split
    · exact .error (hrepeated _ _ (readHeader_mirrors hheader).2.kebab)
    · exact (keyed key).map ih

end Headers

theorem readSection_keyed {root : Members} {name : String} {role : Role}
    (hname : (role, name) ∈ sections) :
    (keyed key).pairs (readSection (locate none) root name role)
      (readSection (locate (some key)) root name role) := by
  unfold readSection
  rw [locate_some]
  split
  · exact .ok []
  · exact readHeaders_keyed (fun _ => locate_some) fun declared index hdeclared =>
      .repeated hname hdeclared index
  · exact .error (.document ..)

section Located

variable {root : Members} {locate locate' : String → String}
  (hlocate : ∀ path, locate' path = key ++ locate path)

include hlocate

theorem readService_keyed :
    (keyed key).pairs (readService locate root) (readService locate' root) := by
  unfold readService
  rw [hlocate, hlocate]
  split
  · next members _ =>
    refine (keyed key).bind stringMember_keyed fun name => ?_
    refine (keyed key).bind checkKebabCase_keyed fun _ => ?_
    refine (keyed key).bind stringMember_keyed fun written => ?_
    split
    · exact .error (.document ..)
    · exact (keyed key).map descriptionMember_keyed
  · exact .error (.document ..)

theorem readArguments_keyed {function : Header} :
    (keyed key).pairs (readArguments locate function) (readArguments locate' function) := by
  unfold readArguments
  dsimp only
  rw [hlocate]
  split
  · exact .ok _
  · refine (keyed key).map (readHeaders_keyed (fun _ => hlocate _) fun declared index _ => ?_)
    exact .identifierCollision (.repeated declared function.name)
  · exact .error (.document ..)

theorem readFragments_keyed :
    (keyed key).pairs (readFragments locate root) (readFragments locate' root) := by
  unfold readFragments
  rw [hlocate]
  split
  · exact .ok []
  · exact .ok _
  · exact .error (.document ..)

end Located

theorem derive_keyed {role : Role} {name : String} :
    (keyed key).pairs (rules.derive role name) (rules.derive role name) :=
  (keyed key).map checkKebabCase_keyed

theorem checkCallables_keyed {earlier : List (String × String)} {names : List (Role × String)} :
    (keyed key).pairs (checkCallables rules earlier names) (checkCallables rules earlier names) := by
  induction names generalizing earlier with
  | nil => exact .ok ()
  | cons entry rest ih =>
    rw [checkCallables]
    refine (keyed key).bind derive_keyed fun identifier => ?_
    dsimp only
    split
    · exact .error (.identifierCollision (.callables ..))
    · exact ih

theorem checkArguments_keyed {function : String} {earlier : List (String × String)}
    {arguments : List Header} :
    (keyed key).pairs (checkArguments rules function earlier arguments)
      (checkArguments rules function earlier arguments) := by
  induction arguments generalizing earlier with
  | nil => exact .ok ()
  | cons argument rest ih =>
    rw [checkArguments]
    refine (keyed key).bind derive_keyed fun identifier => ?_
    split
    · exact .error (.identifierCollision (.arguments ..))
    · exact ih

theorem checkIdentifiers_keyed {outline : Outline} :
    (keyed key).pairs (checkIdentifiers rules outline) (checkIdentifiers rules outline) :=
  (keyed key).bind checkCallables_keyed fun _ => (keyed key).forM fun _ _ => checkArguments_keyed

/-- The outline of a document does not depend on its key. -/
theorem ofValue_keyed {raw : Value} :
    (keyed key).pairs (ofValue rules none raw) (ofValue rules (some key) raw) := by
  have hlocate : ∀ path, locate (some key) path = key ++ locate none path := fun _ => locate_some
  unfold ofValue
  split
  · refine (keyed key).bind (readService_keyed hlocate) fun service => ?_
    refine (keyed key).bind (readSection_keyed (by decide)) fun types => ?_
    refine (keyed key).bind (readSection_keyed (by decide)) fun functions => ?_
    refine (keyed key).bind (readSection_keyed (by decide)) fun messages => ?_
    refine (keyed key).bind (readFragments_keyed hlocate) fun fragments => ?_
    refine (keyed key).bind ((keyed key).mapM fun _ _ => readArguments_keyed hlocate) fun _ => ?_
    exact (keyed key).map checkIdentifiers_keyed
  · dsimp only
    rw [hlocate]
    exact .error (.document ..)

end Outline

/-! ## Resolution -/

section Resolution

variable {σ τ : Type} {key : String} {typeNames : List String} {library : Option (Library σ)}
  {library' : Option (Library τ)} {fragments : Members}

/-- The same was achieved, and no other document was asked for. -/
def Progress.Alone (p : Progress σ) (q : Progress τ) : Prop :=
  p.fragments = q.fragments ∧ p.externals = [] ∧ q.externals = []

/-- Steps of resolution in a document with a key and without one. -/
def keyedSteps (σ τ : Type) (key : String) : ReaderPairing (Progress σ) (Progress τ) where
  toPairing := .runs Progress.Alone (Error.Under key)
  placed _ location location' := location' = key ++ location
  member h _ := by rw [h, String.append_assoc, String.append_assoc, String.append_assoc]
  item h _ := by rw [h, String.append_assoc, String.append_assoc, String.append_assoc]
  fault h _ _ _ := h ▸ .error (.document ..)

/-- Faults that go together are thrown together. -/
theorem ofExcept_keyed {α : Type} {x y : Except Error α} (h : (Outline.keyed key).pairs x y) :
    (keyedSteps σ τ key).pairs (Resolving.ofExcept x) (Resolving.ofExcept y) := by
  intro p q hpq
  cases h with
  | ok a => exact .ok a hpq
  | error h => exact .error h

theorem throw_keyed {α : Type} {e e' : Error} (h : e.Under key e') :
    (keyedSteps σ τ key).pairs (throw e : Resolving σ α) (throw e') :=
  fun _ _ _ => .error h

/-- The same document with a key. -/
structure Surroundings.Under (key : String) (here : Surroundings σ) (here' : Surroundings τ) :
    Prop where
  /-- The key is in front of all locations. -/
  locate : ∀ path, here'.locate path = key ++ here.locate path
  /-- The names of the types are the same. -/
  typeNames : here'.typeNames = here.typeNames

namespace Surroundings.Under

variable {here : Surroundings σ} {here' : Surroundings τ} (h : here.Under key here')

include h

theorem resolveReference_keyed {fragment : (key location : String) → Resolving σ Schema}
    {fragment' : (key location : String) → Resolving τ Schema} {text location : String}
    (hlocal : Reference.documentOf? text = none)
    (hfragment : ∀ name location,
      (keyedSteps σ τ key).pairs (fragment name location) (fragment' name (key ++ location))) :
    (keyedSteps σ τ key).pairs (here.resolveReference fragment text location)
      (here'.resolveReference fragment' text (key ++ location)) := by
  rw [Surroundings.resolveReference_of_local hlocal, Surroundings.resolveReference_of_local hlocal,
    h.typeNames]
  exact localReference_pairs (fun _ => throw_keyed (.unresolvedReference ..)) fun _ => hfragment _ _

theorem ofValue_keyed {fragment : (key location : String) → Resolving σ Schema}
    {fragment' : (key location : String) → Resolving τ Schema} {raw : Value} {location : String}
    (hlocal : RawSchema.NamesOnly (fun _ => False) raw)
    (hfragment : ∀ name location,
      (keyedSteps σ τ key).pairs (fragment name location) (fragment' name (key ++ location))) :
    (keyedSteps σ τ key).pairs (Schema.ofValue (here.resolveReference fragment) raw location)
      (Schema.ofValue (here'.resolveReference fragment') raw (key ++ location)) := by
  refine Schema.ofValue_pairs (fun text _ location location' htext hplaced _ => ?_) raw
    hlocal.followsOnly location _ rfl
  obtain rfl : location' = key ++ location := hplaced
  rw [String.append_assoc]
  exact h.resolveReference_keyed (Option.eq_none_iff_forall_ne_some.2 htext) hfragment

theorem fragment_keyed {free : Members} {stack : List String} {name location : String}
    (hlocal : ∀ name raw, free.lookup name = some raw → RawSchema.NamesOnly (fun _ => False) raw) :
    (keyedSteps σ τ key).pairs (here.fragment free stack name location)
      (here'.fragment free stack name (key ++ location)) := by
  induction hlength : free.length using Nat.strong_induction_on
    generalizing free stack name location with
  | _ n ih =>
    subst hlength
    intro p q hpq
    cases hknown : p.fragments.lookup name with
    | some schema =>
      rw [fragment_of_known hknown, fragment_of_known (hpq.1 ▸ hknown)]
      exact .ok schema hpq
    | none =>
    have hknown' : q.fragments.lookup name = none := hpq.1 ▸ hknown
    cases hfree : free.lookup name with
    | some raw =>
      rw [fragment_of_free hknown hfree, fragment_of_free hknown' hfree, h.locate]
      have hinner : ∀ name' location, (keyedSteps σ τ key).pairs
          (here.fragment (withoutKey name free) (stack ++ [name]) name' location)
          (here'.fragment (withoutKey name free) (stack ++ [name]) name' (key ++ location)) :=
        fun name' location => ih _ (length_withoutKey_lt hfree)
          (fun k r hk => hlocal k r (lookup_of_lookup_withoutKey hk)) rfl
      refine (keyedSteps σ τ key).bind (h.ofValue_keyed (hlocal name raw hfree) hinner)
        (fun schema p q hpq => ?_) p q hpq
      exact .ok schema ⟨congrArg (putEntry name schema) hpq.1, hpq.2⟩
    | none =>
      rw [fragment_of_not_free hknown hfree, fragment_of_not_free hknown' hfree]
      by_cases hstack : name ∈ stack
      · rw [if_pos hstack, if_pos hstack]
        exact .error (.cyclicReference ..)
      · rw [if_neg hstack, if_neg hstack]
        exact .error (.unresolvedReference ..)

end Surroundings.Under

/-! ## Types without values -/

section Inhabited

variable {locate locate' : String → String} (hlocate : ∀ path, locate' path = key ++ locate path)

include hlocate

theorem endlessFrom_keyed {finite path : List String} {rest : List NamedType} {current : NamedType} :
    (endlessFrom locate finite rest path current).Under key
      (endlessFrom locate' finite rest path current) := by
  induction hlength : rest.length using Nat.strong_induction_on generalizing rest path current with
  | _ n ih =>
    subst hlength
    rw [endlessFrom, endlessFrom]
    cases current.schema.ownTypes.find? fun name => decide (name ∉ finite) with
    | none =>
      simp only [endlessFrom.noValue, hlocate]
      exact .document ..
    | some next =>
      dsimp only
      by_cases hpath : next ∈ path
      · rw [if_pos hpath, if_pos hpath, hlocate]
        exact .cyclicReference ..
      · rw [if_neg hpath, if_neg hpath]
        cases hnext : rest.find? fun t => t.name == next with
        | none =>
          simp only [endlessFrom.noValue, hlocate]
          exact .document ..
        | some t => exact ih _ (length_otherTypes_lt hnext) rfl

theorem checkInhabited_keyed {types : List NamedType} :
    (Outline.keyed key).pairs (checkInhabited locate types) (checkInhabited locate' types) := by
  unfold checkInhabited
  dsimp only
  cases types.find? fun t => decide (t.name ∉ finiteTypes types) with
  | none => exact .ok ()
  | some first => exact .error (endlessFrom_keyed hlocate)

end Inhabited

/-! ## Documents -/

theorem Surroundings.Under.together {here : Surroundings σ} {here' : Surroundings τ}
    {fragments : Members} (h : here.Under key here')
    (hlocal : ∀ name raw, fragments.lookup name = some raw →
      RawSchema.NamesOnly (fun _ => False) raw) :
    here.Together (keyedSteps σ τ key).toPairing here' (fun _ => False) fragments where
  fault {_ path _} := h.locate path ▸ throw_keyed (.document ..)
  schemaAt {_ path} hraw := by
    unfold Surroundings.schemaAt
    rw [h.locate path]
    exact h.ofValue_keyed hraw fun _ _ => h.fragment_keyed hlocal
  fragment {_ path} := h.locate path ▸ h.fragment_keyed hlocal
  inhabited := ofExcept_keyed (checkInhabited_keyed h.locate)

theorem resolveDocument_keyed {rules : IdentifierRules} {raw : Value}
    {library : Option (Library σ)} {library' : Option (Library τ)}
    (hlocal : RawDocument.NamesOnly (fun _ => False) raw) (s : σ) (t : τ) :
    (∃ i, outcome (resolveDocument rules none library raw) s = .ok i ∧
      outcome (resolveDocument rules (some key) library' raw) t =
        .ok { i with document := some key } ∧ i.document = none ∧ i.registry.externals = []) ∨
    ∃ e e', outcome (resolveDocument rules none library raw) s = .error e ∧
      outcome (resolveDocument rules (some key) library' raw) t = .error e' ∧ e.Under key e' := by
  unfold outcome resolveDocument
  have houtline : (Outline.keyed key).pairs (Outline.ofValue rules none raw)
      (Outline.ofValue rules (some key) raw) := Outline.ofValue_keyed
  generalize hx : Outline.ofValue rules none raw = x at houtline
  generalize Outline.ofValue rules (some key) raw = y at houtline
  cases houtline with
  | error h => exact .inr ⟨_, _, rfl, rfl, h⟩
  | ok outline =>
    have hof : outline.IsOf raw := Outline.isOf_of_ofValue hx
    let here : Surroundings σ := ⟨none, outline.types.map Header.name, library⟩
    let here' : Surroundings τ := ⟨some key, outline.types.map Header.name, library'⟩
    have hunder : here.Under key here' := ⟨fun _ => locate_some, rfl⟩
    have htogether := hunder.together fun _ _ hraw => namesOnly_of_lookup_fragments hof hlocal hraw
    have hparts := hof.resolveParts_pairs hlocal htogether ⟨[], [], s⟩ ⟨[], [], t⟩ ⟨rfl, rfl, rfl⟩
    dsimp only
    rw [Outline.resolve_eq, Outline.resolve_eq]
    generalize hp : outline.resolveParts here ⟨[], [], s⟩ = r at hparts
    generalize hq : outline.resolveParts here' ⟨[], [], t⟩ = r' at hparts
    cases hparts with
    | error h =>
      rw [bind_of_error hp, bind_of_error hq]
      exact .inr ⟨_, _, rfl, rfl, h⟩
    | @ok parts p q hpq =>
      obtain ⟨hfragments, hp', hq'⟩ := hpq
      rw [bind_of_ok hp, bind_of_ok hq]
      refine .inl ⟨_, rfl, ?_, rfl, ?_⟩
      · show Except.ok (outline.assemble (some key) parts q) =
          .ok { outline.assemble none parts p with document := some key }
        unfold Outline.assemble
        rw [hfragments, hp', hq']
      · show mergeExternals p.externals = []
        rw [hp']
        rfl

end Resolution

/-! ## Loading -/

namespace Source

variable {source : Source} {key : String} {raw : Value} {s s₁ : Store} {keys : List String}

/-- The check of a document that names no other one only loads it. -/
theorem checkGraph_of_local (hlocal : raw.RefersInside) (hkey : key ∈ keys)
    (hraw : source.rawAt key s = .ok raw s₁) : source.checkGraph keys key s = .ok () s₁ := by
  have hchildren : source.children key raw = .ok [] := by
    unfold children
    rw [hlocal.documentsNamedIn_eq_nil]
    rfl
  have hvisit : source.visit keys [] [] key s = .ok [key] s₁ := by
    rw [visit, if_neg List.not_mem_nil, dif_pos hkey, bind_of_ok hraw, hchildren]
    rfl
  unfold checkGraph discard
  exact bind_of_ok hvisit

/-- The interface of a document that names no other one comes from resolving it under its key, with
some library. -/
theorem interface_of_local {name : String} (hkey : source.loader.resolveKey none name = .ok key)
    (hload : source.loader.load key = .ok raw) (hlocal : raw.RefersInside)
    (hs : source.checked.inv s) :
    ∃ (τ : Type) (library : Option (Library τ)) (t : τ), outcome (source.interface name) s =
      outcome (resolveDocument source.rules (some key) library raw) t := by
  have hmem : key ∈ source.knownKeys s := mem_knownKeys_of_mem_keys _ (Loader.mem_keys_of_load hload)
  obtain ⟨s₁, hraw, hs₁⟩ := rawAt_eq_ok hs hload
  have hcheck := checkGraph_of_local hlocal hmem hraw
  have hinterface : source.interface name s =
      source.interfaceAt (source.knownKeys s) (source.knownKeys s) key s := by
    unfold interface
    rw [hkey]
    rfl
  have hafter := hinterface.trans (by rw [interfaceAt, bind_of_ok hcheck, get_bind])
  cases hheld : s₁.resolved.lookup key with
  | some i =>
    -- The store has the interface, so it was resolved before.
    rw [hheld] at hafter
    have hyields := hs₁.2 key i hheld
    cases hyields with
    | intro found _ hload' _ hresolved =>
      cases hload.symm.trans hload'
      exact ⟨_, _, (), (outcome_eq_ok.2 ⟨s₁, hafter⟩).trans hresolved.symm⟩
  | none =>
    obtain ⟨s₂, hraw₂, -⟩ := rawAt_eq_ok hs₁ hload
    rw [hheld] at hafter
    dsimp only at hafter
    rw [dif_pos hmem, bind_of_ok hraw₂] at hafter
    let library : Library Store :=
      { resolveKey := source.loader.resolveKey
        interfaceAt := source.interfaceAt (source.knownKeys s) (without key (source.knownKeys s)) }
    refine ⟨Store, some library, s₂, ?_⟩
    cases hx : resolveDocument source.rules (some key) (some library) raw s₂ with
    | ok i s₃ =>
      rw [outcome_eq_ok.2 ⟨s₃, hx⟩]
      exact outcome_eq_ok.2 ⟨_, hafter.trans (bind_of_ok hx)⟩
    | error e s₃ =>
      rw [outcome_eq_error.2 ⟨s₃, hx⟩]
      exact outcome_eq_error.2 ⟨_, hafter.trans (bind_of_error hx)⟩

end Source

/-- The key of a document is not part of its fingerprint. -/
theorem Interface.fingerprint_of_document {i : Interface} {document : Option String} :
    ({ i with document } : Interface).fingerprint = i.fingerprint := by
  have hcanonical : ({ i with document } : Interface).canonical = i.canonical := rfl
  unfold fingerprint
  rw [hcanonical]

/-- Resolving a document alone and loading it agree. Suppose that no text under a member called `$ref`
anywhere in the document names another document. Resolved alone, in any store, and had from a source
that holds it under a key, with the same rules and whatever this source was asked for before, it either
has two interfaces that differ in the key alone, which name no other document and have one fingerprint,
or it fails twice with errors of one kind that differ at most by the key in front of the location. -/
theorem Resolver.resolve_agrees_with_interface (resolver : Resolver) (source : Source)
    (documents : List (String × Value)) (hrules : resolver.rules = source.rules)
    (hsource : source.loader = .ofDocuments documents) (raw : Value) (hlocal : raw.RefersInside)
    (name key : String) (hkey : source.loader.resolveKey none name = .ok key)
    (hload : source.loader.load key = .ok raw) (s t : Store) (hs : s.Reachable (· = source)) :
    (∃ i j, outcome (resolver.resolve raw) t = .ok i ∧ outcome (source.interface name) s = .ok j ∧
      i.document = none ∧ j = { i with document := some key } ∧ i.registry.externals = [] ∧
      j.fingerprint = i.fingerprint) ∨
    ∃ e e', outcome (resolver.resolve raw) t = .error e ∧
      outcome (source.interface name) s = .error e' ∧ e.Under key e' ∧ e'.kind = e.kind := by
  obtain ⟨τ, library, t', hinterface⟩ := Source.interface_of_local hkey hload hlocal (hs.checked hsource)
  have hruns : resolver.resolve raw t = resolveDocument resolver.rules none
      (resolver.source.map fun source => source.library t) raw t := rfl
  have hresolve : outcome (resolver.resolve raw) t = outcome (resolveDocument source.rules none
      (resolver.source.map fun source => source.library t) raw) t := by
    unfold outcome
    rw [hruns, hrules]
  rw [hinterface, hresolve]
  rcases resolveDocument_keyed hlocal.namesOnly t t' with
    ⟨i, hi, hj, hdocument, hexternals⟩ | ⟨e, e', he, he', hunder⟩
  · exact .inl ⟨i, _, hi, hj, hdocument, rfl, hexternals, Interface.fingerprint_of_document⟩
  · exact .inr ⟨e, e', he, he', hunder, hunder.kind⟩

theorem Sample.nodes_refersInside : Sample.nodes.RefersInside := by
  have hlocal : Reference.documentOf? "#/types/node" = none := by decide +kernel
  simp [nodes, document, declaration, reference, hlocal]

/-- Nodes are resolved alone to the interface that is had from the source of the lists. -/
theorem Resolver.resolve_agrees_with_interface_nodes : ∃ i j,
    outcome ((Resolver.new .none none).resolve Sample.nodes) .empty = .ok i ∧
      outcome (Sample.source.interface "nodes.json") .empty = .ok j ∧ i.document = none ∧
      j = { i with document := some "nodes.json" } ∧ i.registry.externals = [] ∧
      j.fingerprint = i.fingerprint := by
  have hkey : Sample.source.loader.resolveKey none "nodes.json" = .ok "nodes.json" := by
    decide +kernel
  have hload : Sample.source.loader.load "nodes.json" = .ok Sample.nodes := by rfl
  refine (resolve_agrees_with_interface (.new .none none) Sample.source Sample.documents rfl rfl
    Sample.nodes Sample.nodes_refersInside "nodes.json" _ hkey hload .empty .empty .empty).resolve_right ?_
  rintro ⟨e, -, he, -⟩
  have hsucceeds : fault? ((Resolver.new .none none).resolve Sample.nodes) .empty = none := by
    decide +kernel
  cases hsucceeds.symm.trans (fault?_eq_some.2 (outcome_eq_error.1 he))

end ServiceContract
