import Mathlib.Data.List.Induction
import ServiceContract.Proofs.Document.Origins

/-!
# Whose rules apply

A resolver has rules of its own, and its source has rules as well. The source gets those of the
resolver when the resolver is made with a loader or is given one; a source that is shared keeps the
rules that it was made with. A document that is handed to the resolver is resolved under the rules of
the resolver, and one that is loaded under those of the source. So the identifiers of a loaded
interface are told apart by the rules of the resolver if these are the rules of the source; by other
rules exactly if the document would have passed under them as well.
-/

namespace ServiceContract

open Json (Value)

/-- An outline that was read under some rules is read under others exactly if they tell its
identifiers apart as well. -/
theorem Outline.ofValue_eq_ok_iff {rules rules' : IdentifierRules} {document : Option String}
    {raw : Value} {outline : Outline} (h : ofValue rules document raw = .ok outline) :
    ofValue rules' document raw = .ok outline ↔ rules'.Separates outline.listing := by
  refine ⟨fun h' => (listing_of_ofValue h').2.2, fun hseparates => ?_⟩
  unfold ofValue at h ⊢
  split at h
  · simp only [bind_eq_ok] at h ⊢
    obtain ⟨service, hservice, types, htypes, headers, hheaders, messages, hmessages, fragments,
      hfragments, functions, hfunctions, ⟨⟩, -, hpure⟩ := h
    cases hpure
    exact ⟨service, hservice, types, htypes, headers, hheaders, messages, hmessages, fragments,
      hfragments, functions, hfunctions, (), checkIdentifiers_eq_ok.2 hseparates, rfl⟩
  · cases h

/-! ## Interfaces in a store -/

namespace Store

/-- The interface has the names of an outline that is read from its document under the rules. -/
def OutlinedBy (rules : IdentifierRules) (s : Store) (key : String) (i : Interface) : Prop :=
  ∃ raw outline, s.raws.lookup key = some raw ∧
    Outline.ofValue rules (some key) raw = .ok outline ∧ i.listing = outline.listing

/-- All interfaces in the store were read under the rules. -/
def outlining (rules : IdentifierRules) : Discipline Error Store where
  inv s := ∀ key i, s.resolved.lookup key = some i → s.OutlinedBy rules key i
  le s s' := Extends s.raws s'.raws
  fault _ _ := True
  refl _ := .refl
  trans := .trans

variable {rules : IdentifierRules} {s s' : Store} {key : String} {i : Interface}

theorem OutlinedBy.separates (h : s.OutlinedBy rules key i) : rules.Separates i.listing := by
  obtain ⟨raw, outline, -, houtline, hlisting⟩ := h
  rw [hlisting]
  exact (Outline.listing_of_ofValue houtline).2.2

/-- By other rules its identifiers are told apart exactly if its document is read under them. -/
theorem OutlinedBy.separates_iff {rules' : IdentifierRules} (h : s.OutlinedBy rules key i) :
    ∃ raw, s.raws.lookup key = some raw ∧ (rules'.Separates i.listing ↔
      ∃ outline, Outline.ofValue rules' (some key) raw = .ok outline) := by
  obtain ⟨raw, outline, hraw, houtline, hlisting⟩ := h
  refine ⟨raw, hraw, fun hseparates => ⟨outline, ?_⟩, fun ⟨outline', houtline'⟩ => ?_⟩
  · exact (Outline.ofValue_eq_ok_iff houtline).2 (hlisting ▸ hseparates)
  · obtain ⟨-, hlisting', hseparates⟩ := Outline.listing_of_ofValue houtline'
    rw [hlisting, (Outline.listing_of_ofValue houtline).2.1, ← hlisting']
    exact hseparates

end Store

/-- The rules ensure that a document that resolves has an outline with the names of its interface. -/
theorem IdentifierRules.ensures_outline (rules : IdentifierRules) :
    rules.Ensures fun document raw i =>
      ∃ outline, Outline.ofValue rules document raw = .ok outline ∧ i.listing = outline.listing :=
  fun _ _ _ _ _ _ h => exists_outline_of_resolveDocument h

/-- To be read under some rules is something that holds of an interface and its document. -/
theorem Store.outlining_inv_iff {rules : IdentifierRules} {s : Store} :
    (Store.outlining rules).inv s ↔ (Store.describing fun document raw i =>
      ∃ outline, Outline.ofValue rules document raw = .ok outline ∧
        i.listing = outline.listing).inv s := by
  refine forall₃_congr fun key i _ => ?_
  unfold OutlinedBy Describes
  exact exists_congr fun raw => by rw [exists_and_left]

/-- An interface that is asked for was read under the rules of the source. -/
theorem Source.interface_outlines {source : Source} {name : String} {s : Store}
    (hs : (Store.outlining source.rules).inv s) :
    (Store.outlining source.rules).Runs (source.interface name) s fun i s' =>
      ∃ key, s'.OutlinedBy source.rules key i := by
  have hruns : (Store.describing _).Runs (source.interface name) s _ :=
    Source.interface_describes source.rules.ensures_outline (Store.outlining_inv_iff.1 hs)
  refine (hruns.weaken (fun _ hs' _ => Store.outlining_inv_iff.2 hs') (fun _ hle => hle)
    fun _ _ _ _ => trivial).imp fun i s' _ _ hQ => ?_
  obtain ⟨key, raw, hraw, outline, houtline⟩ := hQ.2
  exact ⟨key, raw, outline, hraw, houtline⟩

/-- The interfaces in a store that sources with the same rules filled were read under these. -/
theorem Store.Reachable.outlined {rules : IdentifierRules} {s : Store}
    (hs : s.Reachable (·.rules = rules)) : (Store.outlining rules).inv s := by
  refine Store.outlining_inv_iff.2 (hs.describes fun source hsource => ?_)
  rw [hsource]
  exact rules.ensures_outline

/-! ## Assembled resolvers -/

namespace Resolver

/-- A step in the assembly of a resolver. -/
inductive Assembly where
  /-- It is given a loader. -/
  | withLoader (loader : Loader)
  /-- It shares a source. -/
  | withSource (source : Source)

/-- The resolver after some steps. -/
def assemble (resolver : Resolver) (steps : List Assembly) : Resolver :=
  steps.foldl (fun resolver step =>
    match step with
    | .withLoader loader => resolver.withLoader loader
    | .withSource source => resolver.withSource source) resolver

variable {rules : IdentifierRules} {loader : Option Loader} {steps : List Assembly}

theorem assemble_rules : ((new rules loader).assemble steps).rules = rules := by
  induction steps using List.reverseRecOn with
  | nil => rfl
  | append_singleton steps step ih =>
    rw [assemble, List.foldl_append]
    cases step <;> exact ih

/-- The source of a resolver has the same rules unless it was shared last. -/
theorem assemble_source {source : Source}
    (hsource : ((new rules loader).assemble steps).source = some source) :
    source.rules = rules ∨ steps.getLast? = some (.withSource source) := by
  rcases List.eq_nil_or_concat steps with rfl | ⟨steps, step, rfl⟩
  · obtain ⟨_, -, rfl⟩ := Option.map_eq_some_iff.1 hsource
    exact .inl rfl
  · rw [List.concat_eq_append, assemble, List.foldl_append] at hsource
    cases step with
    | withLoader loader =>
      cases hsource
      exact .inl assemble_rules
    | withSource shared =>
      cases hsource
      exact .inr (by simp)

/-- Under whose rules identifiers are told apart. However a resolver is assembled, it tells those
apart of the interfaces that it resolves from raw documents. Those of an interface that it loads are
told apart by the rules of its source, which are its own unless the source was shared with it last;
by its own they are exactly if the document is read under them. -/
theorem separates_by_rules (rules : IdentifierRules) (loader : Option Loader) (steps : List Assembly)
    (s s' : Store) (i : Interface)
    (hs : ∀ source, ((new rules loader).assemble steps).source = some source →
      s.Reachable (·.rules = source.rules)) :
    ((∃ raw, ((new rules loader).assemble steps).resolve raw s = .ok i s') →
      rules.Separates i.listing) ∧
    ((∃ name, ((new rules loader).assemble steps).load name s = .ok i s') →
      ((∀ source, steps.getLast? = some (.withSource source) → source.rules = rules) →
        rules.Separates i.listing) ∧
      (∃ source, ((new rules loader).assemble steps).source = some source ∧
        source.rules.Separates i.listing) ∧
      ∃ key raw, s'.raws.lookup key = some raw ∧ (rules.Separates i.listing ↔
        ∃ outline, Outline.ofValue rules (some key) raw = .ok outline)) := by
  constructor
  · rintro ⟨raw, h⟩
    have hseparates := (listing_of_resolveDocument h).2.2
    rw [assemble_rules] at hseparates
    exact hseparates
  · rintro ⟨name, h⟩
    unfold load at h
    cases hsource : ((new rules loader).assemble steps).source with
    | none =>
      rw [hsource] at h
      cases h
    | some source =>
      rw [hsource] at h
      obtain ⟨-, -, key, houtlined⟩ :=
        (Source.interface_outlines (hs source hsource).outlined).ok h
      refine ⟨fun hshared => ?_, ⟨source, rfl, houtlined.separates⟩, key, houtlined.separates_iff⟩
      rcases assemble_source hsource with hrules | hlast
      · exact hrules ▸ houtlined.separates
      · exact hshared source hlast ▸ houtlined.separates

end Resolver

namespace Sample

/-- A document with a function and a message of the same name. -/
def homonyms : Value :=
  document [
    ("functions", .array [.object (declaration "send" [])]),
    ("messages", .array [declaredAnything "send"])]

/-- A source of that document with rules that keep functions away from the name. -/
def shared : Source :=
  ⟨.ofDocuments [("post.json", homonyms)], IdentifierRules.none.reserve .function ["send"]⟩

end Sample

/-- A resolver without reserved words loads the homonyms from the source that it shares, though it
derives one identifier for both. -/
theorem Resolver.loads_homonyms :
    ∃ i s', ((new .none none).assemble [.withSource Sample.shared]).load "post.json" .empty =
        .ok i s' ∧
      i.listing.callables = [(.function, "send"), (.message, "send")] ∧
      IdentifierRules.none.derive .function "send" = .ok "send" ∧
      IdentifierRules.none.derive .message "send" = .ok "send" ∧
      ¬ IdentifierRules.none.Separates i.listing := by
  have hloads : (result? (((new .none none).assemble [.withSource Sample.shared]).load "post.json")
      .empty).map (fun i => i.listing.callables) = some [(.function, "send"), (.message, "send")] := by
    decide +kernel
  obtain ⟨i, hi, hcallables⟩ := Option.map_eq_some_iff.1 hloads
  obtain ⟨s', h⟩ := result?_eq_some.1 hi
  have hfunction : IdentifierRules.none.derive .function "send" = .ok "send" := by decide +kernel
  have hmessage : IdentifierRules.none.derive .message "send" = .ok "send" := by decide +kernel
  refine ⟨i, s', h, hcallables, hfunction, hmessage, fun hseparates => ?_⟩
  have happart := hseparates.callables
  rw [hcallables] at happart
  exact happart.ne_of_sublist (.refl _) hfunction hmessage rfl

/-- A resolver that was given a loader last, after it shared a source, tells apart what it loads by
its own rules. -/
theorem Resolver.separates_by_rules_letters :
    ∃ i s', ((new Sample.careful.rules none).assemble [.withSource Sample.shared,
        .withLoader (.ofDocuments [("letters.json", Sample.letters)])]).load "letters.json" .empty =
        .ok i s' ∧ Sample.careful.rules.Separates i.listing := by
  have hloads : (result? (((new Sample.careful.rules none).assemble [.withSource Sample.shared,
      .withLoader (.ofDocuments [("letters.json", Sample.letters)])]).load "letters.json")
      .empty).isSome := by decide +kernel
  obtain ⟨i, hi⟩ := Option.isSome_iff_exists.1 hloads
  obtain ⟨s', h⟩ := result?_eq_some.1 hi
  refine ⟨i, s', h, ((separates_by_rules _ _ _ _ _ i fun _ _ => .empty).2 ⟨_, h⟩).1 fun _ hlast => ?_⟩
  cases hlast

end ServiceContract
