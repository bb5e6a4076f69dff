import ServiceContract.Proofs.Document.Local
import ServiceContract.Proofs.Document.Stack

/-!
# Unfolding fragments

Resolution remembers the fragments that it resolved and refuses those that are being resolved around
it, so what it does depends on what it did before. What a raw schema stands for in a document that
names no other one does not depend on that. It can be told by unfolding fragments again and again: at
first nothing is known of any fragment, and from what is known of all fragments more becomes known, as
each is read from that alone. Resolution succeeds exactly where a raw schema can be read after some
rounds, with what is read there, from every state that resolution can be in.
-/

namespace ServiceContract

open Json (Value Members)

/-! ## Knowledge -/

/-- What is known of the schemas of fragments. -/
abbrev Knowledge := (key : String) → Option Schema

namespace Knowledge

/-- The second knowledge has all of the first one. -/
def Within (known known' : Knowledge) : Prop :=
  ∀ key schema, known key = some schema → known' key = some schema

theorem Within.refl {known : Knowledge} : known.Within known := fun _ _ h => h

theorem Within.trans {known known' known'' : Knowledge} (h : known.Within known')
    (h' : known'.Within known'') : known.Within known'' :=
  fun key schema hschema => h' key schema (h key schema hschema)

/-- A fragment as it is known. -/
def fragment (key location : String) : EStateM Error Knowledge Schema := do
  match (← get) key with
  | some schema => return schema
  | none => throw (.unresolvedReference location key)

theorem fragment_eq_ok {known known' : Knowledge} {key location : String} {schema : Schema} :
    fragment key location known = .ok schema known' ↔ known key = some schema ∧ known' = known := by
  unfold fragment
  rw [get_bind]
  cases known key with
  | none =>
    constructor
    · intro h
      cases h
    · rintro ⟨h, -⟩
      cases h
  | some found =>
    constructor
    · intro h
      cases h
      exact ⟨rfl, rfl⟩
    · rintro ⟨h, rfl⟩
      cases h
      rfl

/-- What succeeds changes no knowledge, and with more knowledge it succeeds in the same way. -/
def steady : ReaderPairing Knowledge Knowledge where
  pairs x y := ∀ known known' a after, known.Within known' → x known = .ok a after →
    after = known ∧ y known' = .ok a known'
  pure a known known' b after _ h := by
    cases h
    exact ⟨rfl, rfl⟩
  bind {_ _ x y f g} hxy hfg known known' b after hwithin h := by
    cases hx : x known with
    | error e s => cases (bind_of_error hx).symm.trans h
    | ok a s =>
      obtain ⟨rfl, hy⟩ := hxy known known' a s hwithin hx
      obtain ⟨rfl, hg⟩ := hfg a s known' b after hwithin ((bind_of_ok hx).symm.trans h)
      exact ⟨rfl, (bind_of_ok hy).trans hg⟩
  placed _ _ _ := True
  member _ _ := trivial
  item _ _ := trivial
  fault _ _ _ _ _ _ h := by cases h

theorem fragment_steady {key location location' : String} :
    steady.pairs (fragment key location) (fragment key location') := by
  intro known known' schema after hwithin h
  obtain ⟨hschema, rfl⟩ := fragment_eq_ok.1 h
  exact ⟨rfl, fragment_eq_ok.2 ⟨hwithin _ _ hschema, rfl⟩⟩

end Knowledge

/-! ## Reading in rounds -/

/-- The types and the fragments that references in a document may lead to. -/
structure Glossary where
  /-- The names of the types. -/
  typeNames : List String
  /-- The raw fragments. -/
  fragment? : (key : String) → Option Value

namespace Glossary

variable {glossary : Glossary} {known known' : Knowledge} {raw : Value} {key : String} {schema : Schema}
  {m n : Nat}

/-- References, from what is known of fragments. -/
def refs (glossary : Glossary) : RefResolver Knowledge := localReference glossary.typeNames Knowledge.fragment

/-- What a raw schema is read as, from what is known of fragments. -/
def readWith (glossary : Glossary) (known : Knowledge) (raw : Value) : Option Schema :=
  result? (Schema.ofValue glossary.refs raw "") known

/-- What is known after some rounds. -/
def unfolded (glossary : Glossary) : (rounds : Nat) → Knowledge
  | 0 => fun _ => none
  | rounds + 1 => fun key => (glossary.fragment? key).bind (glossary.readWith (glossary.unfolded rounds))

open Classical in
/-- What a raw schema is read as after enough rounds. -/
noncomputable def read? (glossary : Glossary) (raw : Value) : Option Schema :=
  if h : ∃ rounds, (glossary.readWith (glossary.unfolded rounds) raw).isSome then
    glossary.readWith (glossary.unfolded h.choose) raw
  else none

theorem refs_steady {text location location' : String} :
    Knowledge.steady.pairs (glossary.refs text location) (glossary.refs text location') :=
  localReference_pairs (fun _ _ _ _ _ _ h => by cases h) fun _ => Knowledge.fragment_steady

/-- Reading changes no knowledge. More of it and another location change nothing in what is read. -/
theorem ofValue_steady {location location' : String} :
    Knowledge.steady.pairs (Schema.ofValue glossary.refs raw location)
      (Schema.ofValue glossary.refs raw location') := by
  exact Schema.ofValue_pairs (fun _ _ _ _ (_ : True) _ _ => refs_steady) raw (fun _ _ => trivial) _ _
    trivial

theorem readWith_eq_some (location : String) : glossary.readWith known raw = some schema ↔
    Schema.ofValue glossary.refs raw location known = .ok schema known := by
  unfold readWith
  rw [result?_eq_some]
  constructor
  · rintro ⟨after, h⟩
    exact (ofValue_steady known known schema after .refl h).2
  · intro h
    exact ⟨known, (ofValue_steady known known schema known .refl h).2⟩

theorem readWith_within (hwithin : known.Within known')
    (h : glossary.readWith known raw = some schema) : glossary.readWith known' raw = some schema :=
  (readWith_eq_some "").2 (ofValue_steady _ _ _ _ hwithin ((readWith_eq_some "").1 h)).2

/-- A reference to a fragment is read as what is known of it. -/
theorem readWith_reference {members : Members} {text : String}
    (href : members.lookup "$ref" = some (.string text))
    (htext : Reference.ofText text = .ok ⟨none, .fragment key⟩) :
    glossary.readWith known (.object members) = known key := by
  have hread : Schema.ofValue glossary.refs (.object members) "" =
      Knowledge.fragment key ("" ++ "/$ref") := by
    show Schema.readMapping _ _ members "" = _
    unfold Schema.readMapping
    rw [href]
    show glossary.refs text _ = _
    unfold refs localReference
    rw [htext]
    rfl
  ext schema
  rw [readWith_eq_some "", hread, Knowledge.fragment_eq_ok]
  exact and_iff_left rfl

theorem unfolded_within_succ : (glossary.unfolded n).Within (glossary.unfolded (n + 1)) := by
  induction n with
  | zero =>
    intro key schema h
    cases h
  | succ n ih =>
    intro key schema h
    obtain ⟨raw, hraw, hread⟩ := Option.bind_eq_some_iff.1 h
    exact Option.bind_eq_some_iff.2 ⟨raw, hraw, readWith_within ih hread⟩

/-- What is known stays known in later rounds. -/
theorem unfolded_within (h : m ≤ n) : (glossary.unfolded m).Within (glossary.unfolded n) := by
  induction h with
  | refl => exact .refl
  | step _ ih => exact ih.trans unfolded_within_succ

theorem read?_eq_some : glossary.read? raw = some schema ↔
    ∃ rounds, glossary.readWith (glossary.unfolded rounds) raw = some schema := by
  unfold read?
  constructor
  · intro h
    split at h
    · exact ⟨_, h⟩
    · cases h
  · rintro ⟨n, hn⟩
    have hsome : ∃ rounds, (glossary.readWith (glossary.unfolded rounds) raw).isSome := ⟨n, by rw [hn]; rfl⟩
    obtain ⟨schema', hschema'⟩ := Option.isSome_iff_exists.1 hsome.choose_spec
    -- In the later one of the two rounds both schemas are read.
    have hlater := readWith_within (unfolded_within (Nat.le_max_left n hsome.choose)) hn
    have hlater' := readWith_within (unfolded_within (Nat.le_max_right n hsome.choose)) hschema'
    rw [dif_pos hsome, hschema', ← hlater', hlater]

/-- The schema of a fragment after enough rounds. -/
noncomputable def schema? (glossary : Glossary) (key : String) : Option Schema :=
  (glossary.fragment? key).bind glossary.read?

theorem schema?_eq_some : glossary.schema? key = some schema ↔
    ∃ rounds, glossary.unfolded rounds key = some schema := by
  unfold schema?
  rw [Option.bind_eq_some_iff]
  constructor
  · rintro ⟨raw, hraw, hread⟩
    obtain ⟨n, hn⟩ := read?_eq_some.1 hread
    exact ⟨n + 1, Option.bind_eq_some_iff.2 ⟨raw, hraw, hn⟩⟩
  · rintro ⟨n, hn⟩
    cases n with
    | zero => cases hn
    | succ n =>
      obtain ⟨raw, hraw, hread⟩ := Option.bind_eq_some_iff.1 hn
      exact ⟨raw, hraw, read?_eq_some.2 ⟨n, hread⟩⟩

/-- A reference to a fragment is read as the schema of the fragment. -/
theorem read?_reference {members : Members} {text : String}
    (href : members.lookup "$ref" = some (.string text))
    (htext : Reference.ofText text = .ok ⟨none, .fragment key⟩) :
    glossary.read? (.object members) = glossary.schema? key := by
  ext schema
  rw [read?_eq_some, schema?_eq_some]
  exact exists_congr fun _ => by rw [readWith_reference href htext]

/-- A fragment that becomes known does so in some round: it is read from what was known before, and
then it was not known itself. -/
theorem exists_round (h : glossary.unfolded n key = some schema) :
    ∃ m raw, m < n ∧ glossary.unfolded m key = none ∧ glossary.fragment? key = some raw ∧
      glossary.readWith (glossary.unfolded m) raw = some schema := by
  induction n with
  | zero => cases h
  | succ n ih =>
    cases hbefore : glossary.unfolded n key with
    | some schema' =>
      cases (unfolded_within_succ key schema' hbefore).symm.trans h
      obtain ⟨m, raw, hm, hfirst⟩ := ih hbefore
      exact ⟨m, raw, Nat.lt_succ_of_lt hm, hfirst⟩
    | none =>
      obtain ⟨raw, hraw, hread⟩ := Option.bind_eq_some_iff.1 h
      exact ⟨n, raw, Nat.lt_succ_self n, hbefore, hraw, hread⟩

/-- The order of the types does not matter for what is read. -/
theorem read?_congr {glossary' : Glossary}
    (htypes : ∀ name, name ∈ glossary.typeNames ↔ name ∈ glossary'.typeNames)
    (hfragments : ∀ key, glossary.fragment? key = glossary'.fragment? key) :
    glossary.read? = glossary'.read? := by
  have hrefs : glossary.refs = glossary'.refs := by
    funext text location
    unfold refs localReference
    simp only [htypes]
  have hreadWith : glossary.readWith = glossary'.readWith := by
    unfold readWith
    rw [hrefs]
  have hunfolded : ∀ n, glossary.unfolded n = glossary'.unfolded n := by
    intro n
    induction n with
    | zero => rfl
    | succ n ih =>
      unfold unfolded
      rw [ih, hreadWith]
      exact funext fun key => by rw [hfragments]
  ext raw schema
  rw [read?_eq_some, read?_eq_some, hreadWith]
  exact exists_congr fun n => by rw [hunfolded n]

end Glossary

/-! ## Resolution -/

/-- The types and fragments of the document at hand. -/
def Surroundings.glossary {σ : Type} (here : Surroundings σ) (fragments : Members) : Glossary :=
  ⟨here.typeNames, fun key => fragments.lookup key⟩

/-- The fragments that were resolved have their schemas. -/
def Progress.Unfolded {σ : Type} (glossary : Glossary) (p : Progress σ) : Prop :=
  ∀ key schema, (key, schema) ∈ p.fragments → glossary.schema? key = some schema

/-- A step of resolution, while the fragments on a stack are being resolved, has the result that is
read from what is known after some rounds; and it has a result if one is read in a round in which the
fragments on the stack are not known yet. -/
structure Unfolds {σ α : Type} (glossary : Glossary) (stack : List String) (x : Resolving σ α)
    (y : EStateM Error Knowledge α) : Prop where
  /-- Reading changes no knowledge. -/
  steady : Knowledge.steady.pairs y y
  /-- A result is read in some round. -/
  sound : ∀ {p a p'}, p.Unfolded glossary → x p = .ok a p' →
    p'.Unfolded glossary ∧ ∃ n, y (glossary.unfolded n) = .ok a (glossary.unfolded n)
  /-- What is read is a result. -/
  complete : ∀ {p n a}, p.Unfolded glossary → (∀ key ∈ stack, glossary.unfolded n key = none) →
    y (glossary.unfolded n) = .ok a (glossary.unfolded n) → ∃ p', x p = .ok a p'

section Unfolds

variable {σ : Type} {glossary : Glossary} {stack : List String}

theorem Unfolds.bind {α β : Type} {x : Resolving σ α} {y : EStateM Error Knowledge α}
    {f : α → Resolving σ β} {g : α → EStateM Error Knowledge β} (h : Unfolds glossary stack x y)
    (hfg : ∀ a, Unfolds glossary stack (f a) (g a)) : Unfolds glossary stack (x >>= f) (y >>= g) where
  steady := Knowledge.steady.bind h.steady fun a => (hfg a).steady
  sound {p b p''} hp hb := by
    cases hx : x p with
    | error e p' => cases (bind_of_error hx).symm.trans hb
    | ok a p' =>
      obtain ⟨hp', m, hm⟩ := h.sound hp hx
      obtain ⟨hp'', n, hn⟩ := (hfg a).sound hp' ((bind_of_ok hx).symm.trans hb)
      have hy := (h.steady _ _ _ _ (Glossary.unfolded_within (Nat.le_max_left m n)) hm).2
      have hg := ((hfg a).steady _ _ _ _ (Glossary.unfolded_within (Nat.le_max_right m n)) hn).2
      exact ⟨hp'', max m n, (bind_of_ok hy).trans hg⟩
  complete {p n b} hp hstack hb := by
    cases hy : y (glossary.unfolded n) with
    | error e after => cases (bind_of_error hy).symm.trans hb
    | ok a after =>
      obtain ⟨rfl, -⟩ := h.steady _ _ _ _ .refl hy
      obtain ⟨p', hx⟩ := h.complete hp hstack hy
      obtain ⟨hp', -⟩ := h.sound hp hx
      obtain ⟨p'', hf⟩ := (hfg a).complete hp' hstack ((bind_of_ok hy).symm.trans hb)
      exact ⟨p'', (bind_of_ok hx).trans hf⟩

theorem Unfolds.pure {α : Type} (a : α) : Unfolds glossary stack (pure a : Resolving σ α) (pure a) where
  steady := Knowledge.steady.pure a
  sound hp h := by
    cases h
    exact ⟨hp, 0, rfl⟩
  complete _ _ h := by
    cases h
    exact ⟨_, rfl⟩

theorem Unfolds.throw {α : Type} {e e' : Error} :
    Unfolds glossary stack (throw e : Resolving σ α) (throw e') where
  steady _ _ _ _ _ h := by cases h
  sound _ h := by cases h
  complete _ _ h := by cases h

/-- Steps of resolution and reading from what is known. -/
def unfolding (σ : Type) (glossary : Glossary) (stack : List String) :
    ReaderPairing (Progress σ) Knowledge where
  pairs := Unfolds glossary stack
  pure := .pure
  bind := .bind
  placed _ _ _ := True
  member _ _ := trivial
  item _ _ := trivial
  fault _ := .throw

variable {here : Surroundings σ} {fragments : Members}

/-- Raw schemas are read alike if fragments are. -/
theorem ofValue_unfolds {fragment : (key location : String) → Resolving σ Schema} {raw : Value}
    {location location' : String} (hraw : RawSchema.NamesOnly (fun _ => False) raw)
    (hfragment : ∀ key location location', Unfolds (here.glossary fragments) stack
      (fragment key location) (Knowledge.fragment key location')) :
    Unfolds (here.glossary fragments) stack
      (Schema.ofValue (here.resolveReference fragment) raw location)
      (Schema.ofValue (here.glossary fragments).refs raw location') := by
  let P := unfolding σ (here.glossary fragments) stack
  have hrefs : ∀ text location location',
      (∀ name, Reference.documentOf? text = some name → False) →
      P.pairs (here.resolveReference fragment text location)
        ((here.glossary fragments).refs text location') := by
    intro text location location' htext
    rw [Surroundings.resolveReference_of_local (Option.eq_none_iff_forall_ne_some.2 htext)]
    exact localReference_pairs (fun _ => .throw) fun key => hfragment key location location'
  exact Schema.ofValue_pairs (fun text _ _ _ htext _ _ => hrefs text _ _ htext) raw hraw.followsOnly
    location location' trivial

theorem lookup_of_lookup_fragmentsOff {key : String} {raw : Value}
    (h : (fragmentsOff stack fragments).lookup key = some raw) : fragments.lookup key = some raw := by
  rw [lookup_fragmentsOff] at h
  split at h
  · cases h
  · exact h

/-! ## Fragments -/

section Fragment

variable {key location : String} {p p' : Progress σ} {schema : Schema} {n : Nat}
  (hread : ∀ raw location, (fragmentsOff stack fragments).lookup key = some raw →
    Unfolds (here.glossary fragments) (stack ++ [key])
      (Schema.ofValue (here.resolveReference
        (here.fragment (withoutKey key (fragmentsOff stack fragments)) (stack ++ [key]))) raw location)
      (Schema.ofValue (here.glossary fragments).refs raw ""))
  (hp : p.Unfolded (here.glossary fragments))

include hread hp

/-- A fragment that is resolved has the schema that becomes known of it, if reading its raw schema has
the result that is read. -/
theorem fragment_sound
    (h : here.fragment (fragmentsOff stack fragments) stack key location p = .ok schema p') :
    p'.Unfolded (here.glossary fragments) ∧ (here.glossary fragments).schema? key = some schema := by
  cases hknown : p.fragments.lookup key with
  | some found =>
    rw [Surroundings.fragment_of_known hknown] at h
    cases h
    exact ⟨hp, hp key schema (mem_of_lookup hknown)⟩
  | none =>
  cases hfree : (fragmentsOff stack fragments).lookup key with
  | none =>
    rw [Surroundings.fragment_of_not_free hknown hfree] at h
    split at h <;> cases h
  | some raw =>
    rw [Surroundings.fragment_of_free hknown hfree] at h
    cases hx : Schema.ofValue (here.resolveReference (here.fragment
        (withoutKey key (fragmentsOff stack fragments)) (stack ++ [key]))) raw
        (here.locate ("/schemas/" ++ key)) p with
    | error e p₁ => cases (bind_of_error hx).symm.trans h
    | ok found p₁ =>
      cases (bind_of_ok hx).symm.trans h
      obtain ⟨hp₁, n, hn⟩ := (hread raw _ hfree).sound hp hx
      have hread : (here.glossary fragments).read? raw = some schema :=
        Glossary.read?_eq_some.2 ⟨n, (Glossary.readWith_eq_some "").2 hn⟩
      have hschema : (here.glossary fragments).schema? key = some schema :=
        Option.bind_eq_some_iff.2 ⟨raw, lookup_of_lookup_fragmentsOff hfree, hread⟩
      refine ⟨fun key' schema' hmem => ?_, hschema⟩
      rcases mem_putEntry hmem with hentry | hentry
      · cases hentry
        exact hschema
      · exact hp₁ key' schema' hentry

/-- A fragment that becomes known in some round is resolved while fragments are being resolved that are
not known in this round. -/
theorem fragment_complete (hstack : ∀ k ∈ stack, (here.glossary fragments).unfolded n k = none)
    (h : (here.glossary fragments).unfolded n key = some schema) :
    ∃ p', here.fragment (fragmentsOff stack fragments) stack key location p = .ok schema p' := by
  cases hknown : p.fragments.lookup key with
  | some found =>
    cases (hp key found (mem_of_lookup hknown)).symm.trans (Glossary.schema?_eq_some.2 ⟨n, h⟩)
    exact ⟨p, Surroundings.fragment_of_known hknown⟩
  | none =>
    obtain ⟨m, raw, hm, hfirst, hthere, hreads⟩ := Glossary.exists_round h
    have hoff : key ∉ stack := fun hmem => by cases (hstack key hmem).symm.trans h
    have hfree : (fragmentsOff stack fragments).lookup key = some raw := by
      rw [lookup_fragmentsOff, if_neg hoff]
      exact hthere
    -- In the round before the fragment becomes known, nothing on the longer stack is known.
    have hstack' : ∀ k ∈ stack ++ [key], (here.glossary fragments).unfolded m k = none := by
      intro k hk
      rcases List.mem_append.1 hk with hk | hk
      · refine Option.eq_none_iff_forall_ne_some.2 fun schema' h' => ?_
        cases (hstack k hk).symm.trans (Glossary.unfolded_within (Nat.le_of_lt hm) k schema' h')
      · rw [List.mem_singleton.1 hk]
        exact hfirst
    obtain ⟨p₁, hx⟩ := (hread raw (here.locate ("/schemas/" ++ key)) hfree).complete hp hstack'
      ((Glossary.readWith_eq_some "").1 hreads)
    exact ⟨_, (Surroundings.fragment_of_free hknown hfree).trans (bind_of_ok hx)⟩

end Fragment

section Local

variable (hlocal : ∀ key raw, fragments.lookup key = some raw →
  RawSchema.NamesOnly (fun _ => False) raw)

include hlocal

/-- A fragment is resolved to what becomes known of it. -/
theorem fragment_unfolds {key location location' : String} :
    Unfolds (here.glossary fragments) stack
      (here.fragment (fragmentsOff stack fragments) stack key location)
      (Knowledge.fragment key location') := by
  induction hlength : (fragmentsOff stack fragments).length using Nat.strong_induction_on
    generalizing stack key location location' with
  | _ n ih =>
    subst hlength
    have hread : ∀ raw location, (fragmentsOff stack fragments).lookup key = some raw →
        Unfolds (here.glossary fragments) (stack ++ [key])
          (Schema.ofValue (here.resolveReference
            (here.fragment (withoutKey key (fragmentsOff stack fragments)) (stack ++ [key])))
            raw location)
          (Schema.ofValue (here.glossary fragments).refs raw "") := by
      intro raw location hfree
      have hshorter : (fragmentsOff (stack ++ [key]) fragments).length <
          (fragmentsOff stack fragments).length := by
        rw [fragmentsOff_append]
        exact length_withoutKey_lt hfree
      rw [← fragmentsOff_append]
      exact ofValue_unfolds (hlocal key raw (lookup_of_lookup_fragmentsOff hfree))
        fun _ _ _ => ih _ hshorter rfl
    refine ⟨Knowledge.fragment_steady, fun hp h => ?_, fun hp hstack h => ?_⟩
    · obtain ⟨hp', hschema⟩ := fragment_sound hread hp h
      obtain ⟨n, hn⟩ := Glossary.schema?_eq_some.1 hschema
      exact ⟨hp', n, Knowledge.fragment_eq_ok.2 ⟨hn, rfl⟩⟩
    · exact fragment_complete hread hp hstack (Knowledge.fragment_eq_ok.1 h).1

theorem fragment_unfolds_nil {key location location' : String} :
    Unfolds (here.glossary fragments) [] (here.fragment fragments [] key location)
      (Knowledge.fragment key location') := by
  have hunfolds : Unfolds (here.glossary fragments) [] (here.fragment (fragmentsOff [] fragments) [] key
      location) (Knowledge.fragment key location') := fragment_unfolds hlocal
  rwa [fragmentsOff_nil] at hunfolds

end Local

end Unfolds

/-! ## Results without state -/

/-- A step of resolution has this result, or none, whatever was resolved before. -/
structure Computes {σ α : Type} (glossary : Glossary) (x : Resolving σ α) (result : Option α) : Prop where
  /-- It has no other one. -/
  sound : ∀ {p a p'}, p.Unfolded glossary → x p = .ok a p' → p'.Unfolded glossary ∧ result = some a
  /-- It has this one. -/
  complete : ∀ {p a}, p.Unfolded glossary → result = some a → ∃ p', x p = .ok a p'

/-- Steps of resolution and their results. -/
def computing (σ : Type) (glossary : Glossary) : Pairing (EStateM Error (Progress σ)) Option where
  pairs := Computes glossary
  pure a :=
    { sound := fun hp h => by
        cases h
        exact ⟨hp, rfl⟩
      complete := fun _ h => by
        cases h
        exact ⟨_, rfl⟩ }
  bind {_ _ x r f g} h hfg :=
    { sound := fun {p b p''} hp hb => by
        cases hx : x p with
        | error e p' => cases (bind_of_error hx).symm.trans hb
        | ok a p' =>
          obtain ⟨hp', ha⟩ := h.sound hp hx
          obtain ⟨hp'', hb'⟩ := (hfg a).sound hp' ((bind_of_ok hx).symm.trans hb)
          exact ⟨hp'', Option.bind_eq_some_iff.2 ⟨a, ha, hb'⟩⟩
      complete := fun {p b} hp hb => by
        obtain ⟨a, ha, hb'⟩ := Option.bind_eq_some_iff.1 hb
        obtain ⟨p', hx⟩ := h.complete hp ha
        obtain ⟨p'', hf⟩ := (hfg a).complete (h.sound hp hx).1 hb'
        exact ⟨p'', (bind_of_ok hx).trans hf⟩ }

theorem Unfolds.computes {σ α : Type} {glossary : Glossary} {x : Resolving σ α}
    {y : EStateM Error Knowledge α} {result : Option α} (h : Unfolds glossary [] x y)
    (hresult : ∀ a, result = some a ↔ ∃ n, y (glossary.unfolded n) = .ok a (glossary.unfolded n)) :
    Computes glossary x result where
  sound {_ a _} hp hx := by
    obtain ⟨hp', hy⟩ := h.sound hp hx
    exact ⟨hp', (hresult a).2 hy⟩
  complete {_ a} hp ha := by
    obtain ⟨n, hn⟩ := (hresult a).1 ha
    exact h.complete hp (fun _ hmem => absurd hmem List.not_mem_nil) hn

section Computes

variable {σ : Type} {here : Surroundings σ} {fragments : Members}

theorem Computes.throw {α : Type} {glossary : Glossary} {e : Error} :
    Computes glossary (throw e : Resolving σ α) none where
  sound _ h := by cases h
  complete _ h := by cases h

theorem ofExcept_computes {α : Type} {glossary : Glossary} {x : Except Error α} :
    Computes glossary (Resolving.ofExcept x : Resolving σ α) x.toOption := by
  cases x with
  | ok a => exact (computing σ glossary).pure a
  | error e => exact .throw

variable (hlocal : ∀ key raw, fragments.lookup key = some raw →
  RawSchema.NamesOnly (fun _ => False) raw)

include hlocal

theorem schemaAt_computes {raw : Value} {path : String}
    (hraw : RawSchema.NamesOnly (fun _ => False) raw) :
    Computes (here.glossary fragments) (here.schemaAt fragments raw path)
      ((here.glossary fragments).read? raw) := by
  have hunfolds : Unfolds (here.glossary fragments) [] (here.schemaAt fragments raw path)
      (Schema.ofValue (here.glossary fragments).refs raw "") :=
    ofValue_unfolds hraw fun _ _ _ => fragment_unfolds_nil hlocal
  refine hunfolds.computes fun schema => Glossary.read?_eq_some.trans ?_
  exact exists_congr fun _ => Glossary.readWith_eq_some ""

theorem fragment_computes {key location : String} :
    Computes (here.glossary fragments) (here.fragment fragments [] key location)
      ((here.glossary fragments).schema? key) := by
  have hunfolds : Unfolds (here.glossary fragments) [] (here.fragment fragments [] key location)
      (Knowledge.fragment key "") := fragment_unfolds_nil hlocal
  refine hunfolds.computes fun schema => Glossary.schema?_eq_some.trans ?_
  exact exists_congr fun _ => (Knowledge.fragment_eq_ok.trans (and_iff_left rfl)).symm

end Computes

end ServiceContract
