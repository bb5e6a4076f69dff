import ServiceContract.Proofs.Json.ValueText
import ServiceContract.Proofs.Schema.Mirroring
import ServiceContract.Proofs.Validation.Violations

/-!
# Where faults and references are

A location grows step by step while a raw schema is read. To say that it stays in step with the way into
the raw schema, the resolver is given a record of what it is asked. Every reference is asked for at the
end of a path to an object that has it, and reading fails either with the fault of the last reference it
asked for, or at the end of a path that the raw schema has.
-/

namespace ServiceContract

open Json (Value Members)

/-- The location at the end of a path. -/
def below (location : String) (path : List Step) : String :=
  path.foldl (fun location step => location ++ "/" ++ step.label) location

/-- What a resolver was asked, and what it failed with, if it did. -/
structure RefCall where
  reference : String
  location : String
  fault : Option Error

variable {σ : Type}

/-- The resolver with a record of what it is asked. -/
def RefResolver.recorded (refs : RefResolver σ) : RefResolver (σ × List RefCall) :=
  fun reference location (s, calls) =>
    match refs reference location s with
    | .ok schema s' => .ok schema (s', calls ++ [⟨reference, location, none⟩])
    | .error e s' => .error e (s', calls ++ [⟨reference, location, some e⟩])

namespace Schema

/-- The call is for a reference that the raw schema has, and its location is the one of the reference. -/
def IsLocated (raw : Value) (location : String) (call : RefCall) : Prop :=
  ∃ path members, raw.follow? path = some (.object members) ∧
    members.lookup "$ref" = some (.string call.reference) ∧
    call.location = below location path ++ "/$ref"

/-- How reading a raw schema from a location may end, after calls to the resolver. -/
inductive Ends (raw : Value) (location : String) : List RefCall → Option Error → Prop where
  /-- No reference fails, and neither does reading. -/
  | read {calls : List RefCall} (h : ∀ call ∈ calls, call.fault = none) : Ends raw location calls none
  /-- The last reference fails. -/
  | unresolved {calls : List RefCall} {call : RefCall} {e : Error} (h : ∀ call ∈ calls, call.fault = none)
      (hfault : call.fault = some e) : Ends raw location (calls ++ [call]) (some e)
  /-- No reference fails, and a part of the raw schema is malformed. -/
  | malformed {calls : List RefCall} {path : List Step} {part : Value} {message : String}
      (h : ∀ call ∈ calls, call.fault = none) (hpart : raw.follow? path = some part) :
      Ends raw location calls (some (.document (below location path) message))

/-- The end of a computation, with a record behind its state. -/
def withCalls {α : Type} (calls : List RefCall) :
    EStateM.Result Error σ α → EStateM.Result Error (σ × List RefCall) α
  | .ok a s => .ok a (s, calls)
  | .error e s => .error e (s, calls)

/-! ## Paths -/

section Paths

variable {raw part : Value} {location : String} {path : List Step} {step : Step}

theorem follow?_concat (h : raw.follow? path = some part) :
    raw.follow? (path ++ [step]) = part.follow? [step] := by
  induction path generalizing raw with
  | nil =>
    cases h
    rfl
  | cons first path ih =>
    cases first with
    | field name =>
      cases raw with
      | object members =>
        obtain ⟨inner, hinner, hrest⟩ := Option.bind_eq_some_iff.1 h
        rw [List.cons_append, Value.follow?, hinner]
        exact ih hrest
      | null | bool | number | string | array => cases h
    | index position =>
      cases raw with
      | array items =>
        obtain ⟨inner, hinner, hrest⟩ := Option.bind_eq_some_iff.1 h
        rw [List.cons_append, Value.follow?, hinner]
        exact ih hrest
      | null | bool | number | string | object => cases h

theorem below_concat : below location (path ++ [step]) = below location path ++ "/" ++ step.label := by
  unfold below
  rw [List.foldl_append]
  rfl

end Paths

/-! ## Reading in step -/

section Recording

variable {α β : Type} {raw part : Value} {location place : String} {calls calls' : List RefCall}
  {ending : Option Error}

/-- The location is the one of a part of the raw schema. -/
structure IsPlace (raw : Value) (location : String) (part : Value) (place : String) : Prop where
  distinct : part.DistinctKeys
  path : ∃ path, raw.follow? path = some part ∧ place = below location path

theorem IsPlace.member {members : Members} {key : String}
    (h : IsPlace raw location (.object members) place) (hpart : (key, part) ∈ members) :
    IsPlace raw location part (place ++ "/" ++ key) := by
  obtain ⟨path, hpath, rfl⟩ := h.path
  obtain ⟨hkeys, hmembers⟩ := Value.distinctKeys_object.1 h.distinct
  refine ⟨hmembers _ hpart, path ++ [.field key], ?_, (@below_concat _ _ (.field key)).symm⟩
  rw [follow?_concat hpath, Value.follow?, lookup_of_nodup hkeys hpart]
  rfl

theorem IsPlace.item {items : List Value} {index : Nat} (h : IsPlace raw location (.array items) place)
    (hpart : items[index]? = some part) : IsPlace raw location part (place ++ "/" ++ toString index) := by
  obtain ⟨path, hpath, rfl⟩ := h.path
  have hitems := Value.distinctKeys_array.1 h.distinct
  refine ⟨hitems _ (List.mem_of_getElem? hpart), path ++ [.index index], ?_,
    (@below_concat _ _ (.index index)).symm⟩
  rw [follow?_concat hpath, Value.follow?, hpart]
  rfl

/-- Calls that did not fail may come first. -/
theorem Ends.after (h : Ends raw location calls' ending) (hcalls : ∀ call ∈ calls, call.fault = none) :
    Ends raw location (calls ++ calls') ending := by
  have hall : ∀ {rest : List RefCall}, (∀ call ∈ rest, call.fault = none) →
      ∀ call ∈ calls ++ rest, call.fault = none :=
    fun hrest => List.forall_mem_append.2 ⟨hcalls, hrest⟩
  cases h with
  | read h => exact .read (hall h)
  | unresolved h hfault =>
    rw [← List.append_assoc]
    exact .unresolved (hall h) hfault
  | malformed h hpart => exact .malformed (hall h) hpart

/-- With the record a computation comes to the same, and its calls and its end are located. -/
def Located (raw : Value) (location : String) (x : EStateM Error σ α)
    (y : EStateM Error (σ × List RefCall) α) : Prop :=
  ∀ s before, ∃ calls, y (s, before) = withCalls (before ++ calls) (x s) ∧
    (∀ call ∈ calls, IsLocated raw location call) ∧ Ends raw location calls (fault? x s)

theorem Located.pure (a : α) :
    Located raw location (Pure.pure a : EStateM Error σ α) (Pure.pure a) := by
  intro s before
  refine ⟨[], ?_, nofun, .read nofun⟩
  rw [List.append_nil]
  rfl

theorem Located.bind {x : EStateM Error σ α} {y : EStateM Error (σ × List RefCall) α}
    {f : α → EStateM Error σ β} {g : α → EStateM Error (σ × List RefCall) β}
    (h : Located raw location x y) (hfg : ∀ a, Located raw location (f a) (g a)) :
    Located raw location (x >>= f) (y >>= g) := by
  intro s before
  obtain ⟨calls, hy, hcalls, hends⟩ := h s before
  cases hx : x s with
  | error e s' =>
    rw [hx] at hy
    have hfault : fault? (x >>= f) s = fault? x s := by
      unfold fault?
      rw [bind_of_error hx, hx]
    refine ⟨calls, ?_, hcalls, hfault ▸ hends⟩
    rw [bind_of_error hx, bind_of_error hy]
    rfl
  | ok a s' =>
    rw [hx] at hy
    obtain ⟨calls', hg, hcalls', hends'⟩ := hfg a s' (before ++ calls)
    have hfault : fault? (x >>= f) s = fault? (f a) s' := by
      unfold fault?
      rw [bind_of_ok hx]
    have hnone : fault? x s = none := by
      unfold fault?
      rw [hx]
    have hquiet : ∀ call ∈ calls, call.fault = none := by
      rw [hnone] at hends
      cases hends with
      | read h => exact h
    refine ⟨calls ++ calls', ?_, List.forall_mem_append.2 ⟨hcalls, hcalls'⟩, ?_⟩
    · rw [bind_of_ok hx, bind_of_ok hy, hg, List.append_assoc]
    · rw [hfault]
      exact hends'.after hquiet

theorem Located.fault {message : String} (h : IsPlace raw location part place) :
    Located raw location (throw (.document place message) : EStateM Error σ α)
      (throw (.document place message)) := by
  intro s before
  obtain ⟨path, hpath, rfl⟩ := h.path
  refine ⟨[], ?_, nofun, .malformed nofun hpath⟩
  rw [List.append_nil]
  rfl

/-- A call for a reference that is there is recorded with its end. -/
theorem Located.reference {refs : RefResolver σ} {members : Members} {reference : String}
    (h : IsPlace raw location (.object members) place)
    (href : members.lookup "$ref" = some (.string reference)) :
    Located raw location (refs reference (place ++ "/$ref"))
      (refs.recorded reference (place ++ "/$ref")) := by
  intro s before
  obtain ⟨path, hpath, rfl⟩ := h.path
  have hlocated : ∀ fault,
      IsLocated raw location ⟨reference, below location path ++ "/$ref", fault⟩ :=
    fun _ => ⟨path, members, hpath, href, rfl⟩
  unfold RefResolver.recorded fault?
  dsimp only
  cases refs reference (below location path ++ "/$ref") s with
  | ok schema s' =>
    refine ⟨[_], rfl, List.forall_mem_singleton.2 (hlocated none), .read ?_⟩
    exact List.forall_mem_singleton.2 rfl
  | error e s' =>
    refine ⟨[_], rfl, List.forall_mem_singleton.2 (hlocated (some e)), ?_⟩
    exact @Ends.unresolved raw location [] _ e nofun rfl

/-- Reading without a record and with one, from the same places. -/
def locating (σ : Type) (raw : Value) (location : String) : ReaderPairing σ (σ × List RefCall) where
  pairs := Located raw location
  pure := .pure
  bind := .bind
  placed part place place' := place' = place ∧ IsPlace raw location part place
  member h hpart := ⟨by rw [h.1], h.2.member hpart⟩
  item h hpart := ⟨by rw [h.1], h.2.item hpart⟩
  fault h := by
    rw [h.1]
    exact .fault h.2

end Recording

/-- Reading a raw schema asks for the references in it only, each at the location where it stands, and
ends well if all of them do, unless a part of the raw schema is malformed. What it fails with is the fault
of the last reference that it asked for, or a fault of its own, at the location of a part of the raw
schema. -/
theorem ofValue_located (refs : RefResolver σ) (raw : Value) (hkeys : raw.DistinctKeys)
    (location : String) (s : σ) :
    ∃ calls, ofValue refs.recorded raw location (s, []) = withCalls calls (ofValue refs raw location s) ∧
      (∀ call ∈ calls, IsLocated raw location call) ∧
      Ends raw location calls (fault? (ofValue refs raw location) s) := by
  let P := locating σ raw location
  have hrefs : ∀ text members place place', True → P.placed (.object members) place place' →
      members.lookup "$ref" = some (.string text) →
      P.pairs (refs text (place ++ "/$ref")) (refs.recorded text (place' ++ "/$ref")) := by
    rintro text members place _ - ⟨rfl, hplace⟩ htext
    exact .reference hplace htext
  have hroot : IsPlace raw location raw location := ⟨hkeys, [], rfl, rfl⟩
  have hpairs := ofValue_pairs hrefs raw fun _ _ => trivial
  exact hpairs location location ⟨rfl, hroot⟩ s []

end Schema

namespace Sample

/-- Arrays of what a reference stands for, with their type as a list. -/
def arrayOfReferred : Value :=
  .object [("type", .array [.string "array"]), ("items", .object [("$ref", .string "#/types/b")])]

/-- A resolver without a state, for which every reference stands for all values. -/
def permissive : RefResolver Unit := fun _ _ => pure .anything

end Sample

/-- A list of types does not show in the location of what is read under them. -/
theorem Schema.ofValue_located_items :
    ∃ call, ofValue Sample.permissive.recorded Sample.arrayOfReferred "types/0/schema" ((), []) =
        .ok (.array .anything none none) ((), [call]) ∧
      call.location = "types/0/schema/items/$ref" ∧
      IsLocated Sample.arrayOfReferred "types/0/schema" call := by
  have hkeys : Sample.arrayOfReferred.DistinctKeys := by simp [Sample.arrayOfReferred]
  have hplain : ofValue Sample.permissive Sample.arrayOfReferred "types/0/schema" () =
      .ok (.array .anything none none) () := rfl
  have hrecorded : ofValue Sample.permissive.recorded Sample.arrayOfReferred "types/0/schema" ((), []) =
      .ok (.array .anything none none)
        ((), [⟨"#/types/b", "types/0/schema/items/$ref", none⟩]) := rfl
  obtain ⟨calls, hcalls, hlocated, -⟩ :=
    ofValue_located Sample.permissive Sample.arrayOfReferred hkeys "types/0/schema" ()
  rw [hrecorded, hplain] at hcalls
  cases hcalls
  exact ⟨_, hrecorded, rfl, hlocated _ (List.mem_singleton.2 rfl)⟩

end ServiceContract
