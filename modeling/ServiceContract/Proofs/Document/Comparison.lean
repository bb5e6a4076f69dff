import Mathlib.Data.List.Induction
import ServiceContract.Proofs.Document.Answers
import ServiceContract.Proofs.Document.Graph

/-!
# Operations beside a steady source

Sources may fail now and then. What an operation of such a source does is compared with what a steady
source has, which answers every key in the same way at all times. While the store holds only what the
steady source has and what is resolved afresh from it, loading a document and checking the graph come
out as they do for the steady source, or they fail because a document could not be loaded. For the
check this is stated with a walk through the documents of the steady source that needs no store.
-/

namespace ServiceContract

open Json (Value)

namespace Source

/-! ## The check without a store -/

theorem length_unstacked_lt {keys stack : List String} {key : String} (hmem : key ∈ keys)
    (hstack : key ∉ stack) :
    (keys.filter (· ∉ stack ++ [key])).length < (keys.filter (· ∉ stack)).length := by
  have hwithout : keys.filter (· ∉ stack ++ [key]) = without key (keys.filter (· ∉ stack)) := by
    rw [without, List.filter_filter]
    refine List.filter_congr fun k _ => ?_
    simp [and_comm]
  rw [hwithout]
  exact length_without_lt (List.mem_filter.2 ⟨hmem, by simpa using hstack⟩)

/-- The documents that the check has gone through after a key, if every document is loaded in its
turn. The stack holds the keys on the way to it, the outermost first, and those that were gone
through before are in `done`. -/
def walk (source : Source) (stack done : List String) (key : String) :
    Except Error (List String) :=
  if key ∈ done then .ok done
  else if _stack : key ∈ stack then .error (documentCycle stack key)
  else
    match _load : source.loader.load key with
    | .error e => .error e
    | .ok raw => do
      let children ← source.children key raw
      let done ← children.foldlM (fun done child => walk source (stack ++ [key]) done child) done
      return key :: done
termination_by (source.loader.keys.filter (· ∉ stack)).length
decreasing_by exact length_unstacked_lt (Loader.mem_keys_of_load _load) _stack

variable {steady : Source} {stack done : List String} {key : String}

theorem walk_of_mem_done (h : key ∈ done) : steady.walk stack done key = .ok done := by
  rw [walk, if_pos h]

theorem walk_of_mem_stack (hdone : key ∉ done) (hstack : key ∈ stack) :
    steady.walk stack done key = .error (documentCycle stack key) := by
  rw [walk, if_neg hdone, dif_pos hstack]

theorem walk_of_not_mem (hdone : key ∉ done) (hstack : key ∉ stack) :
    steady.walk stack done key = do
      let raw ← steady.loader.load key
      let children ← steady.children key raw
      let done ← children.foldlM (steady.walk (stack ++ [key])) done
      return key :: done := by
  rw [walk, if_neg hdone, dif_neg hstack]
  split
  · next e he =>
    rw [he]
    rfl
  · next raw hraw =>
    rw [hraw]
    rfl

/-- A fold over a list keeps an invariant that tells which elements were gone through. -/
theorem foldlM_ok {α β : Type} {f : β → α → Except Error β} {l : List α} {b b' : β}
    (I : List α → β → Prop) (hb : I [] b)
    (hf : ∀ before a b b', I before b → f b a = .ok b' → I (before ++ [a]) b')
    (h : l.foldlM f b = .ok b') : I l b' := by
  induction l using List.reverseRecOn generalizing b' with
  | nil =>
    cases h
    exact hb
  | append_singleton l a ih =>
    rw [List.foldlM_append] at h
    obtain ⟨b₁, hl, ha⟩ := bind_eq_ok.1 h
    rw [List.foldlM_cons] at ha
    obtain ⟨b₂, ha, hnil⟩ := bind_eq_ok.1 ha
    cases hnil
    exact hf l a b₁ _ (ih hl) ha

/-- A walk that succeeds settles the document and keeps those settled that were before. -/
theorem walk_settles {done' : List String} (hdone : ∀ k ∈ done, Settled steady.loader k)
    (h : steady.walk stack done key = .ok done') :
    key ∈ done' ∧ Visited steady.loader done done' := by
  induction hlength : (steady.loader.keys.filter (· ∉ stack)).length using Nat.strong_induction_on
    generalizing stack done key done' with
  | _ n ih =>
    subst hlength
    by_cases hmem : key ∈ done
    · rw [walk_of_mem_done hmem] at h
      cases h
      exact ⟨hmem, fun _ hk => hk, hdone⟩
    by_cases hstack : key ∈ stack
    · rw [walk_of_mem_stack hmem hstack] at h
      cases h
    rw [walk_of_not_mem hmem hstack] at h
    obtain ⟨raw, hload, h⟩ := bind_eq_ok.1 h
    obtain ⟨children, hchildren, h⟩ := bind_eq_ok.1 h
    obtain ⟨done₁, hfold, h⟩ := bind_eq_ok.1 h
    cases h
    have hkeys := Loader.mem_keys_of_load hload
    have hvisited : (∀ k ∈ children, k ∈ done₁) ∧ Visited steady.loader done done₁ := by
      refine foldlM_ok (fun before done' =>
        (∀ k ∈ before, k ∈ done') ∧ Visited steady.loader done done') ⟨by simp, fun _ hk => hk, hdone⟩
        ?_ hfold
      rintro before child done₂ done₃ ⟨hbefore, hvisited⟩ hchild
      obtain ⟨hthere, hvisited'⟩ :=
        ih _ (length_unstacked_lt hkeys hstack) hvisited.settled hchild rfl
      refine ⟨fun k hk => ?_, fun k hk => hvisited'.kept k (hvisited.kept k hk), hvisited'.settled⟩
      rcases List.mem_append.1 hk with hk | hk
      · exact hvisited'.kept k (hbefore k hk)
      · rw [List.mem_singleton.1 hk]
        exact hthere
    obtain ⟨hthere, hvisited⟩ := hvisited
    have hkey : Settled steady.loader key := by
      refine ⟨hkeys, ⟨_, fun other hsees => ?_⟩⟩
      have hother := hthere other (mem_children_of_sees hload hchildren hsees)
      exact (hvisited.settled other hother).acc
    refine ⟨List.mem_cons_self .., fun k hk => List.mem_cons_of_mem _ (hvisited.kept k hk), ?_⟩
    intro k hk
    rcases List.mem_cons.1 hk with rfl | hk
    · exact hkey
    · exact hvisited.settled k hk

/-! ## Loading -/

section Loading

variable {source : Source} {s : Store} {raw : Value} {e : Error}

theorem rawAt_of_lookup (hraw : s.raws.lookup key = some raw) : source.rawAt key s = .ok raw s := by
  rw [rawAt, get_bind, hraw]
  rfl

theorem rawAt_of_load (hnone : s.raws.lookup key = none) (hload : source.loader.load key = .ok raw) :
    source.rawAt key s = .ok raw { s with
      raws := putEntry key raw s.raws
      attempts := s.attempts ++ [⟨key, true⟩] } := by
  rw [rawAt, get_bind, hnone]
  dsimp only
  rw [hload]
  rfl

theorem rawAt_of_fail (hnone : s.raws.lookup key = none)
    (hload : source.loader.load key = .error e) :
    source.rawAt key s = .error e { s with attempts := s.attempts ++ [⟨key, false⟩] } := by
  rw [rawAt, get_bind, hnone]
  dsimp only
  rw [hload]
  rfl

/-- Of a key that may not be entered there is only an attempt to load it. -/
theorem visit_of_not_mem {free : List String} (hdone : key ∉ done) (hfree : key ∉ free)
    (hstack : key ∉ stack) :
    source.visit free stack done key = do
      let _ ← source.rawAt key
      return done := by
  rw [visit, if_neg hdone, dif_neg hfree, if_neg hstack]
  simp [discard, map_const]

end Loading

/-! ## Sources that fail now and then -/

/-- What becomes of the interface under a key when nothing was loaded before. -/
def afresh (source : Source) (key : String) : Except Error Interface :=
  outcome (source.interfaceAt source.loader.keys source.loader.keys key) .empty

/-- The library of the interfaces that are resolved afresh. -/
def freshLibrary (source : Source) : Library Unit where
  resolveKey := source.loader.resolveKey
  interfaceAt := fun key => always (source.afresh key)

/-- What becomes of the interface under a key when those of other documents are resolved afresh. -/
def resolution (source : Source) (key : String) : Except Error Interface := do
  discard (source.walk [] [] key)
  let raw ← source.loader.load key
  outcome (resolveDocument source.rules (some key) (some source.freshLibrary) raw) ()

/-- The source has no other documents than the steady one and finds the same keys for names. It may
fail where the steady one does not. It stands for a loader that fails now and then, for as long as one
operation takes: an operation asks for no document twice. -/
structure Samples (source steady : Source) : Prop where
  /-- The rules are the same. -/
  rules : source.rules = steady.rules
  /-- Names have the same keys. -/
  resolveKey : source.loader.resolveKey = steady.loader.resolveKey
  /-- What is loaded is what the steady source has. -/
  load : ∀ {key raw}, source.loader.load key = .ok raw → steady.loader.load key = .ok raw

/-- The fault is that of the last attempt to load a document, which was made after the given ones. -/
def FailedLoad (source : Source) (before : List Attempt) (e : Error) (s : Store) : Prop :=
  ∃ later key, s.attempts = before ++ later ++ [⟨key, false⟩] ∧ source.loader.load key = .error e

end Source

/-- An operation under comparison with a steady source. -/
structure Comparison (steady : Source) where
  /-- The source that the operation uses. -/
  source : Source
  /-- The keys that there may be documents under. -/
  known : List String
  /-- The attempts to load a document that were made before. -/
  before : List Attempt
  /-- The loader may fail by chance. -/
  mayFail : Prop
  /-- The source goes with the steady one. -/
  samples : source.Samples steady
  /-- All keys of its loader are known. -/
  keys : ∀ key ∈ source.loader.keys, key ∈ known
  /-- Other faults of the loader are those of the steady one. -/
  faults : mayFail ∨ ∀ key e, source.loader.load key = .error e → steady.loader.load key = .error e

/-- What the store holds is what the steady source has and what is resolved afresh from it. -/
structure Store.Current (s : Store) (steady : Source) : Prop where
  /-- The raw documents. -/
  raws : ∀ key raw, s.raws.lookup key = some raw → steady.loader.load key = .ok raw
  /-- The interfaces. -/
  resolved : ∀ key i, s.resolved.lookup key = some i → steady.afresh key = .ok i

/-- After the given attempts to load a document there was at most one for each key. -/
def Store.AskedOnce (s : Store) (before : List Attempt) : Prop :=
  ∃ later, s.attempts = before ++ later ∧ (later.map Attempt.key).Nodup

namespace Comparison

variable {steady : Source} (c : Comparison steady)

/-- A store that the operation comes to, unless it fails. -/
structure Holds (s : Store) : Prop where
  /-- It is current. -/
  current : s.Current steady
  /-- There are only documents under known keys. -/
  known : ∀ key raw, s.raws.lookup key = some raw → key ∈ c.known
  /-- What was asked for is there, and so it is not asked for again. -/
  attempts : ∃ later, s.attempts = c.before ++ later ∧ (later.map Attempt.key).Nodup ∧
    ∀ key ∈ later.map Attempt.key, s.raws.lookup key ≠ none

/-- A store that the operation leaves, even if it fails. -/
structure Leaves (s : Store) : Prop where
  /-- It is current. -/
  current : s.Current steady
  /-- No document was asked for twice. -/
  askedOnce : s.AskedOnce c.before

variable {c} in
theorem Holds.leaves {s : Store} (hs : c.Holds s) : c.Leaves s where
  current := hs.current
  askedOnce := by
    obtain ⟨later, hlater, hnodup, -⟩ := hs.attempts
    exact ⟨later, hlater, hnodup⟩

/-- The operation may fail by chance, and it did. -/
def excuse (e : Error) (s : Store) : Prop := c.mayFail ∧ c.source.FailedLoad c.before e s

/-- What the operation is compared with is an answer of the steady source. -/
abbrev likeness : Likeness Error Store Unit := .towards c.Holds c.Leaves c.excuse Holds.leaves

/-- The steady source under comparison with itself, on an empty store. -/
def fresh (steady : Source) : Comparison steady where
  source := steady
  known := steady.loader.keys
  before := []
  mayFail := False
  samples := ⟨rfl, rfl, fun h => h⟩
  keys := fun _ hk => hk
  faults := .inr fun _ _ h => h

theorem fresh_holds : (fresh steady).Holds .empty where
  current := ⟨fun _ _ h => (by cases h), fun _ _ h => (by cases h)⟩
  known _ _ h := by cases h
  attempts := ⟨[], rfl, List.nodup_nil, fun _ h => (by cases h)⟩

variable {c} {key : String} {free stack done : List String} {s : Store}

/-! ## The check -/

theorem ofExcept_mirrors {α : Type} {x : Except Error α} :
    c.likeness.Mirrors (Source.ofExcept x) (always x) := by
  cases x with
  | ok a => exact .pure
  | error e => exact .throw

/-- The attempts with one more, for a document that is not there. -/
theorem Holds.askedOnce_append {a : Attempt} (hs : c.Holds s) (hnone : s.raws.lookup a.key = none) :
    ∃ later, s.attempts ++ [a] = c.before ++ (later ++ [a]) ∧
      ((later ++ [a]).map Attempt.key).Nodup ∧
      ∀ key ∈ later.map Attempt.key, s.raws.lookup key ≠ none := by
  obtain ⟨later, hlater, hnodup, hthere⟩ := hs.attempts
  have hnew : a.key ∉ later.map Attempt.key := fun hmem => hthere a.key hmem hnone
  refine ⟨later, ?_, ?_, hthere⟩
  · rw [hlater, List.append_assoc]
  · rw [List.map_append]
    refine List.nodup_append.2 ⟨hnodup, List.pairwise_singleton _ _, ?_⟩
    rintro k hk _ hk' rfl
    exact hnew (List.mem_singleton.1 hk' ▸ hk)

/-- The store after a document was loaded. -/
theorem Holds.load {raw : Value} (hs : c.Holds s) (hnone : s.raws.lookup key = none)
    (hload : c.source.loader.load key = .ok raw) :
    c.Holds { s with
      raws := putEntry key raw s.raws
      attempts := s.attempts ++ [⟨key, true⟩] } where
  current :=
    { raws := fun _ _ hr => forall_lookup_putEntry hs.current.raws (c.samples.load hload) hr
      resolved := hs.current.resolved }
  known k r hr := by
    have hkey : key ∈ c.known := c.keys key (Loader.mem_keys_of_load hload)
    exact forall_lookup_putEntry (P := fun k _ => k ∈ c.known) hs.known hkey hr
  attempts := by
    obtain ⟨later, hlater, hnodup, hthere⟩ := hs.askedOnce_append (a := ⟨key, true⟩) hnone
    refine ⟨later ++ [⟨key, true⟩], hlater, hnodup, fun k hk => ?_⟩
    rw [List.map_append] at hk
    rcases List.mem_append.1 hk with hk | hk
    · obtain ⟨r, hr⟩ := Option.ne_none_iff_exists'.1 (hthere k hk)
      exact Option.ne_none_iff_exists'.2 ⟨r, lookup_putEntry_of_some hnone hr⟩
    · rw [List.mem_singleton.1 hk]
      exact Option.ne_none_iff_exists'.2 ⟨raw, lookup_putEntry_self⟩

/-- The store after a document could not be loaded. -/
theorem Holds.fail (hs : c.Holds s) (hnone : s.raws.lookup key = none) :
    c.Leaves { s with attempts := s.attempts ++ [⟨key, false⟩] } where
  current := ⟨hs.current.raws, hs.current.resolved⟩
  askedOnce := by
    obtain ⟨later, hlater, hnodup, -⟩ := hs.askedOnce_append (a := ⟨key, false⟩) hnone
    exact ⟨later ++ [⟨key, false⟩], hlater, hnodup⟩

theorem Holds.failedLoad {e : Error} (hs : c.Holds s)
    (hload : c.source.loader.load key = .error e) :
    c.source.FailedLoad c.before e { s with attempts := s.attempts ++ [⟨key, false⟩] } := by
  obtain ⟨later, hlater, -⟩ := hs.attempts
  refine ⟨later, key, ?_, hload⟩
  rw [hlater]

/-- A raw document is the one of the steady source. -/
theorem rawAt_mirrors : c.likeness.Mirrors (c.source.rawAt key) (always (steady.loader.load key)) := by
  intro s _ hs
  cases hraw : s.raws.lookup key with
  | some raw =>
    rw [hs.current.raws key raw hraw]
    exact .of_ok (Source.rawAt_of_lookup hraw) rfl hs
  | none =>
    cases hload : c.source.loader.load key with
    | ok raw =>
      rw [c.samples.load hload]
      exact .of_ok (Source.rawAt_of_load hraw hload) rfl (hs.load hraw hload)
    | error e =>
      refine .of_error (Source.rawAt_of_fail hraw hload) (hs.fail hraw) ?_
      rcases c.faults with hfail | hfaults
      · exact .inl ⟨hfail, hs.failedLoad hload⟩
      · rw [hfaults key e hload]
        exact .inr ⟨(), rfl⟩

/-- Only documents under known keys are loaded. -/
theorem Holds.mem_known {raw : Value} {s' : Store} (hs : c.Holds s)
    (h : c.source.rawAt key s = .ok raw s') : key ∈ c.known := by
  cases hraw : s.raws.lookup key with
  | some raw => exact hs.known key raw hraw
  | none =>
    cases hload : c.source.loader.load key with
    | ok raw => exact c.keys key (Loader.mem_keys_of_load hload)
    | error e =>
      rw [Source.rawAt_of_fail hraw hload] at h
      cases h

/-- The check finds what a walk finds that loads every document in its turn. -/
theorem visit_mirrors (hfree : ∀ k, k ∈ free ↔ k ∈ c.known ∧ k ∉ stack) :
    c.likeness.Mirrors (c.source.visit free stack done key) (always (steady.walk stack done key)) := by
  induction hlength : free.length using Nat.strong_induction_on
    generalizing free stack done key with
  | _ n ih =>
    subst hlength
    by_cases hdone : key ∈ done
    · rw [Source.visit, if_pos hdone, Source.walk_of_mem_done hdone]
      exact .pure
    by_cases hstack : key ∈ stack
    · have hnot : key ∉ free := fun h => ((hfree key).1 h).2 hstack
      rw [Source.visit, if_neg hdone, dif_neg hnot, if_pos hstack,
        Source.walk_of_mem_stack hdone hstack]
      exact .throw
    rw [Source.walk_of_not_mem hdone hstack, Likeness.always_bind]
    by_cases hmem : key ∈ free
    · rw [Source.visit, if_neg hdone, dif_pos hmem]
      refine rawAt_mirrors.bind fun raw => ?_
      have hsame : c.source.children key raw = steady.children key raw := by
        unfold Source.children
        rw [c.samples.resolveKey]
      rw [Likeness.always_bind, hsame]
      refine ofExcept_mirrors.bind fun children => ?_
      rw [Likeness.always_bind, Likeness.always_foldlM]
      -- The key is on the stack while its children are visited.
      have hfree' : ∀ k, k ∈ Source.without key free ↔ k ∈ c.known ∧ k ∉ stack ++ [key] := by
        intro k
        rw [Source.mem_without, hfree k, List.mem_append, List.mem_singleton]
        tauto
      refine (Likeness.Mirrors.foldlM fun done child => ?_).map
      exact ih _ (Source.length_without_lt hmem) hfree' rfl
    · -- Such a key is not known, and so it cannot be loaded.
      rw [Source.visit_of_not_mem hdone hmem hstack]
      intro s _ hs
      refine (rawAt_mirrors s () hs).bind fun raw s' _ hx _ _ => ?_
      exact absurd ((hfree key).2 ⟨hs.mem_known hx, hstack⟩) hmem

theorem checkGraph_mirrors : c.likeness.Mirrors (c.source.checkGraph c.known key)
    (always (discard (steady.walk [] [] key))) := by
  have hvisit : c.likeness.Mirrors (c.source.visit c.known [] [] key)
      (always (steady.walk [] [] key)) := visit_mirrors fun k => by simp
  have hdiscard : always (discard (steady.walk [] [] key)) =
      discard (always (steady.walk [] [] key)) := by
    cases steady.walk [] [] key <;> rfl
  rw [hdiscard]
  exact hvisit.map

/-- A document that passes the check is known. -/
theorem Holds.mem_known_of_checkGraph {u : Unit} {s' : Store} (hs : c.Holds s)
    (h : c.source.checkGraph c.known key s = .ok u s') : key ∈ c.known := by
  by_contra hunknown
  have hcheck : c.source.checkGraph c.known key = do
      let _ ← c.source.rawAt key
      return () := by
    unfold Source.checkGraph
    rw [Source.visit_of_not_mem (by simp) hunknown (by simp)]
    simp [discard, map_const]
  rw [hcheck] at h
  cases hx : c.source.rawAt key s with
  | ok raw s₁ => exact hunknown (hs.mem_known hx)
  | error e s₁ => cases (bind_of_error hx).symm.trans h

end Comparison

end ServiceContract
