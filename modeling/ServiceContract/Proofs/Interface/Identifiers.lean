import ServiceContract.Interface.Identifiers
import ServiceContract.Proofs.Document.Sites

/-!
# Identifiers are told apart

The identifier of a name in kebab case is none of the words that are reserved for its role. An
outline passes the check of its identifiers exactly if the types, functions and messages have
different identifiers, and the arguments of each function have. The identifiers of an interface are
derived once more when they are listed, from the same names and so with the same results.
-/

namespace ServiceContract

/-! ## Lists -/

theorem mapM_eq_ok_map {ε α β : Type} {f : α → Except ε β} {g : α → β} {l : List α}
    (h : ∀ a ∈ l, f a = .ok (g a)) : l.mapM f = .ok (l.map g) := by
  induction l with
  | nil => rfl
  | cons a rest ih =>
    rw [List.mapM_cons, h a (List.mem_cons_self ..),
      ih fun b hb => h b (List.mem_cons_of_mem _ hb)]
    rfl

theorem lookup_cons_eq_none {α : Type} {entries : List (String × α)} {key key' : String} {a : α} :
    ((key, a) :: entries).lookup key' = none ↔ key' ≠ key ∧ entries.lookup key' = none := by
  by_cases h : key' = key
  · simp [h]
  · rw [List.lookup_cons, beq_false_of_ne h]
    simp only [h, ne_eq, not_false_eq_true, true_and]

/-! ## Reserved words -/

namespace IdentifierRules

variable {rules : IdentifierRules} {role : Role} {name text : String} {words : List String}

theorem length_lt_push {c : Char} : text.length < (text.push c).length := by
  rw [String.length_push]
  exact Nat.lt_succ_self _

theorem length_le_avoid (words : List String) (text : String) :
    text.length ≤ (avoid words text).length := by
  fun_induction avoid words text with
  | case1 words text _ ih => exact Nat.le_of_lt (Nat.lt_of_lt_of_le length_lt_push ih)
  | case2 words text _ => exact Nat.le_refl _

/-- What avoids some words is none of them. -/
theorem avoid_not_mem : avoid words text ∉ words := by
  fun_induction avoid words text with
  | case1 words text _ ih =>
    -- The word that was left out is shorter than what comes out.
    have hlonger := Nat.lt_of_lt_of_le length_lt_push
      (length_le_avoid (words.erase text) (text.push '_'))
    have hne : avoid (words.erase text) (text.push '_') ≠ text := fun heq => by
      rw [heq] at hlonger
      exact Nat.lt_irrefl _ hlonger
    exact fun hmem => ih ((List.mem_erase_of_ne hne).2 hmem)
  | case2 words text hmem => exact hmem

/-- The identifier of a name in kebab case. -/
def identifier (rules : IdentifierRules) (role : Role) (name : String) : String :=
  avoid (rules.reserved role) (baseIdentifier role name)

theorem identifier_not_reserved : rules.identifier role name ∉ rules.reserved role := avoid_not_mem

theorem derive_of_isKebabCase (h : isKebabCase name) :
    rules.derive role name = .ok (rules.identifier role name) := by
  unfold derive checkKebabCase
  rw [if_pos h]
  rfl

theorem derive_eq_ok : rules.derive role name = .ok text ↔
    isKebabCase name ∧ text = rules.identifier role name := by
  by_cases h : isKebabCase name
  · simp [derive_of_isKebabCase h, h, eq_comm]
  · simp [derive, checkKebabCase, h, bind, Except.bind]

/-! ## Different identifiers -/

/-- The declarations have identifiers, and no two of them have the same. -/
def TellsApart (rules : IdentifierRules) (declared : List (Role × String)) : Prop :=
  ∃ identifiers, declared.mapM (fun d => rules.derive d.1 d.2) = .ok identifiers ∧
    identifiers.Nodup

theorem tellsApart_iff {declared : List (Role × String)} : rules.TellsApart declared ↔
    (∀ d ∈ declared, isKebabCase d.2) ∧
      (declared.map fun d => rules.identifier d.1 d.2).Nodup := by
  constructor
  · rintro ⟨identifiers, hmapM, hnodup⟩
    have hderived := (mapM_eq_ok.1 hmapM).imp fun _ _ h => derive_eq_ok.1 h
    have hmap : declared.map (fun d => rules.identifier d.1 d.2) = identifiers :=
      (map_eq_map_of_forall₂ hderived fun _ _ h => h.2.symm).trans (List.map_id identifiers)
    refine ⟨fun d hd => ?_, hmap ▸ hnodup⟩
    obtain ⟨_, -, hkebab, -⟩ := exists_of_forall₂_right hderived.flip hd
    exact hkebab
  · rintro ⟨hkebab, hnodup⟩
    exact ⟨_, mapM_eq_ok_map fun d hd => derive_of_isKebabCase (hkebab d hd), hnodup⟩

theorem tellsApart_nil : rules.TellsApart [] := tellsApart_iff.2 ⟨by simp, List.nodup_nil⟩

theorem tellsApart_cons {d : Role × String} {rest : List (Role × String)} :
    rules.TellsApart (d :: rest) ↔ isKebabCase d.2 ∧ rules.TellsApart rest ∧
      ∀ e ∈ rest, rules.identifier e.1 e.2 ≠ rules.identifier d.1 d.2 := by
  rw [tellsApart_iff, tellsApart_iff, List.forall_mem_cons, List.map_cons, List.nodup_cons,
    List.mem_map]
  constructor
  · rintro ⟨⟨hd, hrest⟩, hnew, hnodup⟩
    exact ⟨hd, ⟨hrest, hnodup⟩, fun e he heq => hnew ⟨e, he, heq⟩⟩
  · rintro ⟨hd, ⟨hrest, hnodup⟩, hnew⟩
    exact ⟨⟨hd, hrest⟩, fun ⟨e, he, heq⟩ => hnew e he heq, hnodup⟩

theorem TellsApart.sublist {declared declared' : List (Role × String)} (h : rules.TellsApart declared')
    (hsublist : declared.Sublist declared') : rules.TellsApart declared := by
  rw [tellsApart_iff] at h ⊢
  exact ⟨fun d hd => h.1 d (hsublist.subset hd), h.2.sublist (hsublist.map _)⟩

theorem TellsApart.perm {declared declared' : List (Role × String)} (h : rules.TellsApart declared)
    (horder : declared.Perm declared') : rules.TellsApart declared' := by
  rw [tellsApart_iff] at h ⊢
  exact ⟨fun d hd => h.1 d (horder.mem_iff.2 hd), (horder.map _).nodup_iff.1 h.2⟩

/-- Two declarations with the same identifier are not told apart. -/
theorem TellsApart.ne_of_sublist {declared : List (Role × String)} {d e : Role × String}
    {text' : String} (h : rules.TellsApart declared) (hsublist : List.Sublist [d, e] declared)
    (hd : rules.derive d.1 d.2 = .ok text) (he : rules.derive e.1 e.2 = .ok text') :
    text ≠ text' := by
  have hnodup := (tellsApart_iff.1 h).2.sublist
    (hsublist.map fun d => rules.identifier d.1 d.2)
  rw [(derive_eq_ok.1 hd).2, (derive_eq_ok.1 he).2]
  simpa using hnodup

end IdentifierRules

/-- The names are in kebab case and different from one another. -/
def NamesApart (names : List String) : Prop := (∀ name ∈ names, isKebabCase name) ∧ names.Nodup

/-- Names with different identifiers are different. -/
theorem NamesApart.of_tellsApart {α : Type} {rules : IdentifierRules} {role : Role} {name : α → String}
    {declared : List α} (h : rules.TellsApart (declared.map fun a => (role, name a))) :
    NamesApart (declared.map name) := by
  obtain ⟨hkebab, hnodup⟩ := IdentifierRules.tellsApart_iff.1 h
  constructor
  · intro text htext
    obtain ⟨a, ha, rfl⟩ := List.mem_map.1 htext
    exact hkebab (role, name a) (List.mem_map_of_mem ha)
  · rw [List.map_map, List.nodup_iff_pairwise_ne, List.pairwise_map] at hnodup
    rw [List.nodup_iff_pairwise_ne, List.pairwise_map]
    refine hnodup.imp fun hne heq => hne ?_
    simp only [Function.comp_apply, heq]

/-! ## The declarations of a document -/

/-- Something for each declaration of a document. -/
structure Listing (α : Type) where
  /-- For the service. -/
  service : α
  /-- For the types. -/
  types : List α
  /-- For the functions, each with its arguments. -/
  functions : List (α × List α)
  /-- For the messages. -/
  messages : List α

namespace Listing

variable {α β : Type} {l : Listing α} {f : α → β}

/-- All of it, in order, the arguments of a function behind it. -/
def all (l : Listing α) : List α :=
  l.service :: l.types ++ (l.functions.flatMap fun f => f.1 :: f.2) ++ l.messages

/-- What there is for types, functions and messages. -/
def callables (l : Listing α) : List α := l.types ++ l.functions.map Prod.fst ++ l.messages

/-- Something else for each declaration. -/
def map (f : α → β) (l : Listing α) : Listing β :=
  ⟨f l.service, l.types.map f, l.functions.map fun g => (f g.1, g.2.map f), l.messages.map f⟩

theorem all_map : (l.map f).all = l.all.map f := by
  simp [all, map, List.map_flatMap, List.flatMap_map]

theorem callables_map : (l.map f).callables = l.callables.map f := by
  simp [callables, map]

theorem map_map {γ : Type} {g : β → γ} : (l.map f).map g = l.map (g ∘ f) := by
  simp [map]

theorem map_id : l.map id = l := by
  simp [map]

end Listing

/-- The names that an outline declares, with their roles. -/
def Outline.listing (outline : Outline) : Listing (Role × String) :=
  ⟨(.service, outline.service.name), outline.types.map fun h => (.type, h.name),
    outline.functions.map fun f =>
      ((.function, f.header.name), f.arguments.map fun h => (.field, h.name)),
    outline.messages.map fun h => (.message, h.name)⟩

/-- The names that an interface declares, with their roles. -/
def Interface.listing (i : Interface) : Listing (Role × String) :=
  ⟨(.service, i.service.name), i.types.map fun t => (.type, t.name),
    i.functions.map fun f => ((.function, f.name), f.arguments.map fun a => (.field, a.name)),
    i.messages.map fun m => (.message, m.name)⟩

theorem Outline.callables_eq {outline : Outline} : outline.callables = outline.listing.callables := by
  simp [callables, listing, Listing.callables]

theorem Interface.declarations_eq {i : Interface} : i.declarations = i.listing.all := by
  simp [declarations, listing, Listing.all, List.flatMap_map]

/-- Types, functions and messages are told apart, and so are the arguments of each function. -/
structure IdentifierRules.Separates (rules : IdentifierRules) (l : Listing (Role × String)) :
    Prop where
  /-- Types, functions and messages. -/
  callables : rules.TellsApart l.callables
  /-- The arguments of each function. -/
  arguments : ∀ f ∈ l.functions, rules.TellsApart f.2

/-! ## The check of an outline -/

/-- The computation only fails because identifiers collide. -/
def OnlyCollides {α : Type} (x : Except Error α) : Prop :=
  ∀ e, x = .error e → ∃ message, e = .identifierCollision message

namespace OnlyCollides

variable {α β : Type}

theorem ok {a : α} : OnlyCollides (.ok a) := fun _ h => by cases h

theorem collision {message : String} :
    OnlyCollides (.error (.identifierCollision message) : Except Error α) := by
  intro e h
  cases h
  exact ⟨message, rfl⟩

theorem bind {x : Except Error α} {f : α → Except Error β} (hx : OnlyCollides x)
    (hf : ∀ a, x = .ok a → OnlyCollides (f a)) : OnlyCollides (x >>= f) := by
  cases x with
  | ok a => exact hf a rfl
  | error e =>
    obtain ⟨message, rfl⟩ := hx e rfl
    exact collision

theorem mapM {f : α → Except Error β} {l : List α} (hf : ∀ a ∈ l, OnlyCollides (f a)) :
    OnlyCollides (l.mapM f) := by
  induction l with
  | nil => exact ok
  | cons a l ih =>
    rw [List.mapM_cons]
    refine (hf a (List.mem_cons_self ..)).bind fun _ _ => ?_
    exact (ih fun b hb => hf b (List.mem_cons_of_mem _ hb)).bind fun _ _ => ok

theorem forM {f : α → Except Error PUnit} {l : List α} (hf : ∀ a ∈ l, OnlyCollides (f a)) :
    OnlyCollides (l.forM f) := by
  induction l with
  | nil => exact ok
  | cons a l ih =>
    exact (hf a (List.mem_cons_self ..)).bind fun _ _ =>
      ih fun b hb => hf b (List.mem_cons_of_mem _ hb)

end OnlyCollides

namespace Outline

variable {rules : IdentifierRules} {α : Type} {declared : α → Role × String} {label : α → String}
  {message : (previous : String) → α → (identifier : String) → String}
  {earlier : List (String × String)} {l : List α}

/-- Refuses two of some declarations with one identifier. Those that went before are given with
their labels. -/
def checkApart (rules : IdentifierRules) (declared : α → Role × String) (label : α → String)
    (message : (previous : String) → α → (identifier : String) → String) :
    (earlier : List (String × String)) → List α → Except Error Unit
  | _, [] => .ok ()
  | earlier, a :: rest => do
    let identifier ← rules.derive (declared a).1 (declared a).2
    match earlier.lookup identifier with
    | some previous => throw (.identifierCollision (message previous a identifier))
    | none => checkApart rules declared label message ((identifier, label a) :: earlier) rest

/-- The label of a type, function or message. -/
def callableLabel (d : Role × String) : String := d.1.label ++ s!" '{d.2}'"

theorem checkCallables_eq {callables : List (Role × String)} :
    checkCallables rules earlier callables =
      checkApart rules id callableLabel
        (fun previous d identifier =>
          s!"{previous} and {callableLabel d} both derive identifier '{identifier}'")
        earlier callables := by
  induction callables generalizing earlier with
  | nil => rfl
  | cons d rest ih =>
    rw [checkCallables, checkApart]
    refine congrArg (rules.derive d.1 d.2 >>= ·) (funext fun identifier => ?_)
    cases earlier.lookup identifier with
    | some previous => rfl
    | none => exact ih

theorem checkArguments_eq {function : String} {arguments : List Header} :
    checkArguments rules function earlier arguments =
      checkApart rules (fun h => (.field, h.name)) Header.name
        (fun previous h identifier => s!"arguments '{previous}' and '" ++ h.name ++
          s!"' of function '{function}' both derive identifier '{identifier}'")
        earlier arguments := by
  induction arguments generalizing earlier with
  | nil => rfl
  | cons h rest ih =>
    rw [checkArguments, checkApart]
    refine congrArg (rules.derive .field h.name >>= ·) (funext fun identifier => ?_)
    cases earlier.lookup identifier with
    | some previous => rfl
    | none => exact ih

/-- The check passes exactly if the declarations are told apart from one another and from those that
went before. -/
theorem checkApart_eq_ok : checkApart rules declared label message earlier l = .ok () ↔
    rules.TellsApart (l.map declared) ∧
      ∀ a ∈ l, earlier.lookup (rules.identifier (declared a).1 (declared a).2) = none := by
  induction l generalizing earlier with
  | nil => simp [checkApart, IdentifierRules.tellsApart_nil]
  | cons a rest ih =>
    rw [checkApart, bind_eq_ok, List.map_cons, IdentifierRules.tellsApart_cons, List.forall_mem_map,
      List.forall_mem_cons]
    constructor
    · rintro ⟨identifier, hderive, hcheck⟩
      obtain ⟨hkebab, rfl⟩ := IdentifierRules.derive_eq_ok.1 hderive
      split at hcheck
      · cases hcheck
      · next hnew =>
        obtain ⟨hrest, hlookup⟩ := ih.1 hcheck
        exact ⟨⟨hkebab, hrest, fun b hb => (lookup_cons_eq_none.1 (hlookup b hb)).1⟩, hnew,
          fun b hb => (lookup_cons_eq_none.1 (hlookup b hb)).2⟩
    · rintro ⟨⟨hkebab, hrest, hother⟩, hnew, hearlier⟩
      refine ⟨_, IdentifierRules.derive_of_isKebabCase hkebab, ?_⟩
      rw [hnew]
      exact ih.2 ⟨hrest, fun b hb => lookup_cons_eq_none.2 ⟨hother b hb, hearlier b hb⟩⟩

theorem checkApart_onlyCollides (hkebab : ∀ a ∈ l, isKebabCase (declared a).2) :
    OnlyCollides (checkApart rules declared label message earlier l) := by
  induction l generalizing earlier with
  | nil => exact .ok
  | cons a rest ih =>
    rw [checkApart, IdentifierRules.derive_of_isKebabCase (hkebab a (List.mem_cons_self ..))]
    refine OnlyCollides.ok.bind fun identifier _ => ?_
    split
    · exact .collision
    · exact ih fun b hb => hkebab b (List.mem_cons_of_mem _ hb)

theorem checkArguments_eq_ok {function : String} {arguments : List Header} :
    checkArguments rules function [] arguments = .ok () ↔
      rules.TellsApart (arguments.map fun h => (.field, h.name)) := by
  rw [checkArguments_eq, checkApart_eq_ok]
  exact and_iff_left fun _ _ => rfl

/-- An outline passes the check exactly if its identifiers are told apart. -/
theorem checkIdentifiers_eq_ok {outline : Outline} :
    outline.checkIdentifiers rules = .ok () ↔ rules.Separates outline.listing := by
  have hcallables : checkCallables rules [] outline.callables = .ok () ↔
      rules.TellsApart outline.listing.callables := by
    rw [checkCallables_eq, checkApart_eq_ok, callables_eq, List.map_id]
    exact and_iff_left fun _ _ => rfl
  have harguments : (∀ f ∈ outline.functions,
      checkArguments rules f.header.name [] f.arguments = .ok ()) ↔
        ∀ f ∈ outline.listing.functions, rules.TellsApart f.2 := by
    rw [listing, List.forall_mem_map]
    exact forall₂_congr fun f _ => checkArguments_eq_ok
  unfold checkIdentifiers
  rw [bind_eq_ok]
  constructor
  · rintro ⟨⟨⟩, hcheck, hforM⟩
    exact ⟨hcallables.1 hcheck, harguments.1 (forM_eq_ok.1 hforM)⟩
  · rintro ⟨hapart, hfunctions⟩
    exact ⟨(), hcallables.2 hapart, forM_eq_ok.2 (harguments.2 hfunctions)⟩

end Outline

/-! ## The list of identifiers -/

/-- A declared name with its identifier. -/
def IdentifierRules.identified (rules : IdentifierRules) (declared : Role × String) : Identifier :=
  ⟨declared.1, declared.2, rules.identifier declared.1 declared.2⟩

namespace Interface

variable {rules : IdentifierRules} {i : Interface}

theorem isKebabCase_of_mem_all (hservice : isKebabCase i.service.name)
    (h : rules.Separates i.listing) : ∀ d ∈ i.listing.all, isKebabCase d.2 := by
  intro d hd
  have hcallables := (IdentifierRules.tellsApart_iff.1 h.callables).1
  simp only [Listing.all, List.cons_append, List.mem_cons, List.mem_append, List.mem_flatMap] at hd
  rcases hd with rfl | (hd | ⟨f, hf, rfl | hd⟩) | hd
  · exact hservice
  · exact hcallables d (List.mem_append_left _ (List.mem_append_left _ hd))
  · exact hcallables f.1 (List.mem_append_left _ (List.mem_append_right _ (List.mem_map_of_mem hf)))
  · exact (IdentifierRules.tellsApart_iff.1 (h.arguments f hf)).1 d hd
  · exact hcallables d (List.mem_append_right _ hd)

/-- Where identifiers are told apart, all of them are listed. -/
theorem identifiers_eq (hservice : isKebabCase i.service.name) (h : rules.Separates i.listing) :
    i.identifiers rules = .ok (i.listing.map rules.identified).all := by
  unfold identifiers
  rw [declarations_eq, Listing.all_map]
  refine mapM_eq_ok_map fun d hd => ?_
  obtain ⟨role, name⟩ := d
  have hkebab : isKebabCase name := isKebabCase_of_mem_all hservice h _ hd
  dsimp only
  rw [IdentifierRules.derive_of_isKebabCase hkebab]
  rfl

end Interface

end ServiceContract
