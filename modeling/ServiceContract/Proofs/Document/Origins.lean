import ServiceContract.Proofs.Document.Identifiers
import ServiceContract.Proofs.Document.Store

/-!
# Interfaces come from documents

An interface is only ever made by resolving a raw document, and a store keeps it next to that
document. So what the rules of a source ensure of every document that resolves, and of its interface,
holds of everything that a store keeps and that a resolver returns.
-/

namespace ServiceContract

open Json (Value)

variable {P : Option String → Value → Interface → Prop}

/-- Of a document that resolves under the rules, with documents from a store, and of its interface
something holds. -/
def IdentifierRules.Ensures (rules : IdentifierRules)
    (P : Option String → Value → Interface → Prop) : Prop :=
  ∀ (document : Option String) (library : Option (Library Store)) (raw : Value) (s s' : Store)
    (i : Interface), resolveDocument rules document library raw s = .ok i s' → P document raw i

/-- Resolving a document keeps what its library keeps. -/
theorem resolveDocument_keeps_library {σ : Type} {D : Discipline Error σ} {rules : IdentifierRules}
    {document : Option String} {library : Option (Library σ)} {raw : Value} {s : σ} (hs : D.inv s)
    (hfault : ∀ e s, D.fault e s)
    (hlibrary : ∀ l key s, library = some l → D.inv s →
      D.Runs (l.interfaceAt key) s fun _ _ => True) :
    D.Runs (resolveDocument rules document library raw) s fun _ _ => True := by
  have hruns : D.Runs (resolveDocument rules document library raw) s _ :=
    resolveDocument_runs hs (fun e _ => hfault e s) fun _ hof => .of_library hof hfault hlibrary
  exact hruns.imp fun _ _ _ _ _ => trivial

namespace Store

/-- Something holds of the interface and of the raw document under the key. -/
def Describes (P : Option String → Value → Interface → Prop) (s : Store) (key : String)
    (i : Interface) : Prop :=
  ∃ raw, s.raws.lookup key = some raw ∧ P (some key) raw i

/-- Something holds of all interfaces in the store and of their documents. -/
def describing (P : Option String → Value → Interface → Prop) : Discipline Error Store where
  inv s := ∀ key i, s.resolved.lookup key = some i → s.Describes P key i
  le s s' := Extends s.raws s'.raws
  fault _ _ := True
  refl := extends_raws
  trans := @extends_raws_trans

theorem Describes.grow {s s' : Store} {key : String} {i : Interface} (h : s.Describes P key i)
    (hraws : Extends s.raws s'.raws) : s'.Describes P key i := by
  obtain ⟨raw, hraw, hP⟩ := h
  exact ⟨raw, hraws key raw hraw, hP⟩

end Store

namespace Source

open Store (describing)

variable {source : Source} {s : Store} {key : String} {keys free : List String}

theorem describing_of_loading {α : Type} {x : Storing α} {Q : α → Store → Prop}
    (hs : (describing P).inv s) (hx : (loading fun _ _ => True).Runs x s Q) :
    (describing P).Runs x s Q := by
  refine (hx.weaken (fun s' _ hle key i hi => ?_) (fun _ hle => hle.1) fun _ _ _ _ => trivial).imp
    fun _ _ _ _ hQ => hQ.2
  rw [hle.2] at hi
  exact (hs key i hi).grow hle.1

/-- What the rules ensure holds of an interface that is asked for. -/
theorem interfaceAt_describes (hP : source.rules.Ensures P) (hs : (describing P).inv s) :
    (describing P).Runs (source.interfaceAt keys free key) s fun i s' => s'.Describes P key i := by
  induction hlength : free.length using Nat.strong_induction_on generalizing free key s with
  | _ n ih =>
    subst hlength
    have hserves : ∀ {s : Store}, (loading fun _ _ => True).inv s := fun _ _ _ => trivial
    rw [interfaceAt]
    refine (describing_of_loading hs (checkGraph_runs (fun _ => trivial) hserves)).bind
      fun _ s₁ hs₁ _ _ => .afterGet ?_
    split
    · next i hi => exact .pure hs₁ (hs₁ key i hi)
    · split
      · next hfree =>
        refine (describing_of_loading hs₁ (rawAt_runs (fun _ => trivial) hserves)).bind
          fun raw s₂ hs₂ _ hraw => ?_
        have hresolve : (describing P).Runs (resolveDocument source.rules (some key)
            (some ⟨source.loader.resolveKey,
              fun key' => source.interfaceAt keys (without key free) key'⟩) raw) s₂
            fun _ _ => True := by
          refine resolveDocument_keeps_library hs₂ (fun _ _ => trivial) fun l key' s hl hs => ?_
          cases hl
          exact (ih _ (length_without_lt hfree) hs rfl).imp fun _ _ _ _ _ => trivial
        refine hresolve.result.bind fun i s₃ hs₃ hraws hi => ?_
        have hnew : s₃.Describes P key i := ⟨raw, hraws key raw hraw, hP _ _ _ _ _ _ hi.1⟩
        have hput : (describing P).inv { s₃ with resolved := putEntry key i s₃.resolved } :=
          fun k j hj => forall_lookup_putEntry (P := s₃.Describes P) hs₃ hnew hj
        exact .afterModify hput .refl (.pure hput hnew)
      · exact .throw hs₁ trivial

theorem interface_describes {name : String} (hP : source.rules.Ensures P)
    (hs : (describing P).inv s) :
    (describing P).Runs (source.interface name) s fun i s' => ∃ key, s'.Describes P key i := by
  unfold interface
  have hkey : (describing P).Runs (ofExcept (source.loader.resolveKey none name)) s
      fun _ _ => True := by
    cases source.loader.resolveKey none name with
    | ok key => exact .pure hs trivial
    | error e => exact .throw hs trivial
  exact hkey.bind fun key s₁ hs₁ _ _ =>
    .afterGet ((interfaceAt_describes hP hs₁).imp fun _ _ _ _ hi => ⟨key, hi⟩)

end Source

/-- What the rules of all sources ensure holds of all interfaces in a store that they filled. -/
theorem Store.Reachable.describes {allowed : Source → Prop} {s : Store}
    (hallowed : ∀ source, allowed source → source.rules.Ensures P) (hs : s.Reachable allowed) :
    (Store.describing P).inv s := by
  induction hs with
  | empty => exact fun _ _ h => by cases h
  | @raw s source name hsource _ ih =>
    have hraw : (Store.describing P).Runs (source.raw name) s fun _ _ => True := by
      unfold Source.raw
      cases source.loader.resolveKey none name with
      | ok key =>
        exact (Source.describing_of_loading ih
          (Source.rawAt_runs (fun _ => trivial) fun _ _ _ => trivial)).imp fun _ _ _ _ _ => trivial
      | error e => exact .throw ih trivial
    exact hraw.inv_stateAfter
  | interface name hsource _ ih =>
    exact (Source.interface_describes (hallowed _ hsource) ih).inv_stateAfter
  | @resolve s resolver raw hsource _ ih =>
    have hruns : (Store.describing P).Runs (resolver.resolve raw) s fun _ _ => True := by
      have hdocument : (Store.describing P).Runs (resolveDocument resolver.rules none
          (resolver.source.map fun source => source.library s) raw) s fun _ _ => True := by
        refine resolveDocument_keeps_library ih (fun _ _ => trivial) fun l key s' hl hs' => ?_
        obtain ⟨source, hresolver, rfl⟩ := Option.map_eq_some_iff.1 hl
        have hensures := hallowed source (hsource source hresolver)
        exact (Source.interfaceAt_describes hensures hs').imp fun _ _ _ _ _ => trivial
      exact hdocument.congr rfl
    exact hruns.inv_stateAfter

/-- What all rules ensure holds of what a resolver returns: of the document that it was handed, or of
one in the store. -/
theorem Resolver.returns_described {resolver : Resolver} {s s' : Store} {i : Interface}
    (hP : ∀ rules : IdentifierRules, rules.Ensures P) (hs : s.Reachable fun _ => True) :
    (∀ {raw}, resolver.resolve raw s = .ok i s' → P none raw i) ∧
      ∀ {name}, resolver.load name s = .ok i s' → ∃ key, s'.Describes P key i := by
  refine ⟨fun h => hP _ _ _ _ _ _ _ h, fun {name} h => ?_⟩
  unfold load at h
  cases hsource : resolver.source with
  | none =>
    rw [hsource] at h
    cases h
  | some source =>
    rw [hsource] at h
    have hinv := hs.describes fun source _ => hP source.rules
    exact ((Source.interface_describes (hP source.rules) hinv).ok h).2.2

/-! ## Names -/

/-- What is declared by an interface can be told by its name. -/
structure Interface.WellNamed (i : Interface) : Prop where
  /-- The name of the service is in kebab case. -/
  service : isKebabCase i.service.name
  /-- The types. -/
  types : NamesApart (i.types.map NamedType.name)
  /-- The functions. -/
  functions : NamesApart (i.functions.map Function.name)
  /-- The messages. -/
  messages : NamesApart (i.messages.map Message.name)
  /-- The arguments of each function. -/
  arguments : ∀ f ∈ i.functions, NamesApart (f.arguments.map Argument.name)

/-- A document that resolves has an interface whose declarations can be told by their names. -/
theorem Interface.wellNamed_of_resolveDocument {σ : Type} {rules : IdentifierRules}
    {document : Option String} {library : Option (Library σ)} {raw : Value} {s s' : σ} {i : Interface}
    (h : resolveDocument rules document library raw s = .ok i s') : i.WellNamed := by
  obtain ⟨hservice, -, hseparates⟩ := listing_of_resolveDocument h
  have hcallables := hseparates.callables
  unfold Listing.callables listing at hcallables
  dsimp only at hcallables
  rw [List.map_map] at hcallables
  have htypes : rules.TellsApart (i.types.map fun t => (.type, t.name)) :=
    hcallables.sublist (List.sublist_append_of_sublist_left (List.sublist_append_left _ _))
  have hfunctions : rules.TellsApart (i.functions.map fun f => (.function, f.name)) :=
    hcallables.sublist (List.sublist_append_of_sublist_left (List.sublist_append_right _ _))
  have hmessages : rules.TellsApart (i.messages.map fun m => (.message, m.name)) :=
    hcallables.sublist (List.sublist_append_right _ _)
  exact ⟨hservice, .of_tellsApart htypes, .of_tellsApart hfunctions, .of_tellsApart hmessages,
    fun f hf => .of_tellsApart (hseparates.arguments _ (List.mem_map_of_mem hf))⟩

/-- So has everything that a resolver returns, whatever sources filled its store. -/
theorem Resolver.returns_wellNamed {resolver : Resolver} {s s' : Store} {i : Interface}
    (hs : s.Reachable fun _ => True)
    (h : (∃ raw, resolver.resolve raw s = .ok i s') ∨ ∃ name, resolver.load name s = .ok i s') :
    i.WellNamed := by
  have hP : ∀ rules : IdentifierRules, rules.Ensures fun _ _ i => i.WellNamed :=
    fun _ _ _ _ _ _ _ h => Interface.wellNamed_of_resolveDocument h
  rcases h with ⟨raw, h⟩ | ⟨name, h⟩
  · exact (Resolver.returns_described hP hs).1 h
  · obtain ⟨key, raw, -, hnamed⟩ := (Resolver.returns_described hP hs).2 h
    exact hnamed

end ServiceContract
