import ServiceContract.Proofs.Document.Answers
import ServiceContract.Proofs.Document.Fragments

/-!
# Fragments with one stack

Resolution hands each fragment the list of those that are being resolved around it. One stack that
is part of the state does as well: the key of a fragment goes on top before the fragment is read and
is taken off afterwards, whether reading succeeded or failed. Nothing in the arguments grows shorter
then, and that the recursion ends has to be seen from the stack: every fragment that is entered is
one more on it, and none is entered twice. So the calls are nested no deeper than there are fragments
that are not on the stack, and one more.
-/

namespace ServiceContract

open Json (Value Members)
open Likeness (Mirrors MirrorsFrom)

variable {σ α : Type}

/-! ## States with a stack -/

/-- The library with a stack beside its state, which it does not touch. -/
def Library.stacked (library : Library σ) : Library (σ × List String) where
  resolveKey := library.resolveKey
  interfaceAt := fun key (s, stack) =>
    match library.interfaceAt key s with
    | .ok i s' => .ok i (s', stack)
    | .error e s' => .error e (s', stack)

/-- The same document with a stack beside the state of its library. -/
def Surroundings.stacked (here : Surroundings σ) : Surroundings (σ × List String) where
  document := here.document
  typeNames := here.typeNames
  library := here.library.map Library.stacked

namespace Progress

/-- The fragments that are being resolved, the outermost first. -/
def stack (p : Progress (σ × List String)) : List String := p.library.2

/-- The state with another stack. -/
def withStack (p : Progress (σ × List String)) (stack : List String) : Progress (σ × List String) :=
  { p with library := (p.library.1, stack) }

/-- The state without the stack. -/
def unstacked (p : Progress (σ × List String)) : Progress σ :=
  { p with library := p.library.1 }

variable {p : Progress (σ × List String)} {stack : List String}

@[simp]
theorem stack_withStack : (p.withStack stack).stack = stack := rfl

@[simp]
theorem unstacked_withStack : (p.withStack stack).unstacked = p.unstacked := rfl

@[simp]
theorem fragments_withStack : (p.withStack stack).fragments = p.fragments := rfl

@[simp]
theorem externals_withStack : (p.withStack stack).externals = p.externals := rfl

end Progress

/-- Makes a step with a key on top of the stack, and takes it off however the step ends. -/
def Resolving.onStack (key : String) (step : Resolving (σ × List String) α) :
    Resolving (σ × List String) α := fun p =>
  match step (p.withStack (p.stack ++ [key])) with
  | .ok a p' => .ok a (p'.withStack p'.stack.dropLast)
  | .error e p' => .error e (p'.withStack p'.stack.dropLast)

section OnStack

variable {p p' : Progress (σ × List String)} {key : String}
  {step : Resolving (σ × List String) α}

theorem Resolving.onStack_ok {a : α} (h : step (p.withStack (p.stack ++ [key])) = .ok a p') :
    Resolving.onStack key step p = .ok a (p'.withStack p'.stack.dropLast) := by
  unfold Resolving.onStack
  rw [h]

theorem Resolving.onStack_error {e : Error}
    (h : step (p.withStack (p.stack ++ [key])) = .error e p') :
    Resolving.onStack key step p = .error e (p'.withStack p'.stack.dropLast) := by
  unfold Resolving.onStack
  rw [h]

end OnStack

/-- The fragments that are not on the stack. -/
def fragmentsOff (stack : List String) (fragments : Members) : Members :=
  fragments.filter fun entry => entry.1 ∉ stack

namespace Surroundings

/-- What a fragment stands for, by the stack in the state. Calls may be nested to some depth, and one
that would go deeper fails. -/
def fragmentWithin (here : Surroundings σ) (fragments : Members) (exhausted : Error) :
    (depth : Nat) → (key location : String) → Resolving (σ × List String) Schema
  | 0, _, _ => throw exhausted
  | depth + 1, key, location => do
    let progress ← get
    match progress.fragments.lookup key with
    | some schema => return schema
    | none =>
      if key ∈ progress.stack then throw (fragmentCycle progress.stack key location)
      else
        match fragments.lookup key with
        | none => throw (.unresolvedReference location ("#/schemas/" ++ key))
        | some raw =>
          let inner := here.fragmentWithin fragments exhausted depth
          let schema ← Resolving.onStack key
            (Schema.ofValue (here.stacked.resolveReference inner) raw
              (here.locate ("/schemas/" ++ key)))
          modify fun progress =>
            { progress with fragments := putEntry key schema progress.fragments }
          return schema

/-- What a raw schema of the document stands for, by the stack in the state. -/
def schemaWithin (here : Surroundings σ) (fragments : Members) (exhausted : Error) (depth : Nat)
    (raw : Value) (path : String) : Resolving (σ × List String) Schema :=
  Schema.ofValue (here.stacked.resolveReference (here.fragmentWithin fragments exhausted depth)) raw
    (here.locate path)

end Surroundings

/-! ## The fragments that may be entered -/

section FragmentsOff

variable {stack : List String} {fragments : Members} {key : String}

theorem fragmentsOff_nil : fragmentsOff [] fragments = fragments :=
  List.filter_eq_self.2 fun _ _ => by simp

theorem fragmentsOff_append :
    fragmentsOff (stack ++ [key]) fragments = withoutKey key (fragmentsOff stack fragments) := by
  unfold fragmentsOff withoutKey
  rw [List.filter_filter]
  refine List.filter_congr fun entry _ => ?_
  by_cases hkey : entry.1 = key <;> by_cases hstack : entry.1 ∈ stack <;> simp [hkey, hstack]

theorem lookup_fragmentsOff : (fragmentsOff stack fragments).lookup key =
    if key ∈ stack then none else fragments.lookup key := by
  induction fragments with
  | nil => simp [fragmentsOff]
  | cons entry rest ih =>
    obtain ⟨k, raw⟩ := entry
    unfold fragmentsOff at ih ⊢
    rw [List.filter_cons]
    by_cases hk : k ∈ stack
    · rw [if_neg (by simpa using hk), ih]
      by_cases hkey : key = k
      · subst hkey
        rw [if_pos hk, if_pos hk]
      · rw [lookup_cons, if_neg hkey]
    · rw [if_pos (by simpa using hk), lookup_cons, lookup_cons, ih]
      by_cases hkey : key = k
      · subst hkey
        simp [hk]
      · rw [if_neg hkey, if_neg hkey]

end FragmentsOff

/-! ## The recursion ends -/

/-- States with a stack beside those without it: the same was achieved, and the stack is known. -/
def besides (σ : Type) (stack : List String) :
    Likeness Error (Progress (σ × List String)) (Progress σ) where
  rel p q := p.unstacked = q ∧ p.stack = stack
  inv _ := True
  excuse _ _ := False
  inv_of_rel _ := trivial

namespace Surroundings

variable {here : Surroundings σ} {stack : List String}

theorem stacked_alike : here.stacked.Alike here where
  document := rfl
  typeNames := rfl
  documentKey r := by
    unfold documentKey stacked
    cases r.document with
    | none => rfl
    | some name => cases here.library <;> rfl

theorem library_of_stacked {library : Library (σ × List String)}
    (h : here.stacked.library = some library) :
    ∃ library', here.library = some library' ∧ library'.stacked = library :=
  Option.map_eq_some_iff.1 h

/-- A step of the library does not touch the stack. -/
theorem stacked_inLibrary_mirrors {library : Library σ} {key : String} :
    (besides σ stack).Mirrors (Resolving.inLibrary (library.stacked.interfaceAt key))
      (Resolving.inLibrary (library.interfaceAt key)) := by
  rintro p _ ⟨rfl, hstack⟩
  unfold MirrorsFrom Resolving.inLibrary
  have hstep : library.stacked.interfaceAt key p.library =
      match library.interfaceAt key p.unstacked.library with
      | .ok i s' => .ok i (s', p.stack)
      | .error e s' => .error e (s', p.stack) := rfl
  rw [hstep]
  cases library.interfaceAt key p.unstacked.library with
  | ok i s' => exact ⟨rfl, rfl, hstack⟩
  | error e s' => exact ⟨trivial, .inl rfl⟩

theorem stacked_external_mirrors {document location : String} :
    (besides σ stack).Mirrors (here.stacked.external document location)
      (here.external document location) := by
  refine external_mirrors ?_ ?_ ?_ ?_
  · rintro p _ ⟨rfl, -⟩
    rfl
  · rintro p _ found ⟨rfl, hstack⟩
    exact ⟨rfl, hstack⟩
  · intro hlibrary
    exact Option.map_eq_none_iff.1 hlibrary
  · intro library hlibrary
    obtain ⟨library', hhere, rfl⟩ := library_of_stacked hlibrary
    exact ⟨library', hhere, stacked_inLibrary_mirrors⟩

/-- Raw schemas are read alike if fragments are resolved alike. -/
theorem stacked_ofValue_mirrors {raw : Value} {location : String}
    {fragment : (key location : String) → Resolving (σ × List String) Schema}
    {fragment' : (key location : String) → Resolving σ Schema}
    (hfragment : ∀ key location,
      (besides σ stack).Mirrors (fragment key location) (fragment' key location)) :
    (besides σ stack).Mirrors (Schema.ofValue (here.stacked.resolveReference fragment) raw location)
      (Schema.ofValue (here.resolveReference fragment') raw location) :=
  Schema.ofValue_mirrors (fun _ _ _ => stacked_alike.resolveReference_mirrors
    (fun _ _ _ _ _ => stacked_external_mirrors) hfragment) raw (fun _ _ => trivial) location

/-- What mirrors a step while the key is on the stack mirrors it when it is made with the key. -/
theorem onStack_mirrors {key : String} {step : Resolving (σ × List String) α}
    {step' : Resolving σ α} (h : (besides σ (stack ++ [key])).Mirrors step step') :
    (besides σ stack).Mirrors (Resolving.onStack key step) step' := by
  rintro p _ ⟨rfl, rfl⟩
  have hstep := h (p.withStack (p.stack ++ [key])) p.unstacked ⟨rfl, rfl⟩
  cases hx : step (p.withStack (p.stack ++ [key])) with
  | ok a p' =>
    obtain ⟨_, hy, rfl, hstack⟩ := hstep.ok hx
    exact .of_ok (Resolving.onStack_ok hx) hy ⟨rfl, by simp [hstack]⟩
  | error e p' =>
    exact .of_error (Resolving.onStack_error hx) trivial (hstep.error hx).2

/-- Calls that are nested deep enough do what resolution does with the fragments that are not on the
stack. -/
theorem fragmentWithin_mirrors {fragments : Members} {exhausted : Error} {depth : Nat}
    {key location : String} (hdepth : (fragmentsOff stack fragments).length < depth) :
    (besides σ stack).Mirrors (here.fragmentWithin fragments exhausted depth key location)
      (here.fragment (fragmentsOff stack fragments) stack key location) := by
  induction depth generalizing stack key location with
  | zero => exact absurd hdepth (Nat.not_lt_zero _)
  | succ depth ih =>
    rw [fragment, fragmentWithin]
    refine .afterGet ?_
    rintro p _ ⟨rfl, rfl⟩
    dsimp only [Progress.unstacked]
    cases hmemo : p.fragments.lookup key with
    | some schema => exact .pure ⟨rfl, rfl⟩
    | none =>
      dsimp only
      by_cases hstack : key ∈ p.stack
      · have hnone : (fragmentsOff p.stack fragments).lookup key = none := by
          rw [lookup_fragmentsOff, if_pos hstack]
        rw [if_pos hstack]
        split
        · next raw hraw => cases hnone.symm.trans hraw
        · rw [if_pos hstack]
          exact .throw ⟨rfl, rfl⟩
      · have hlookup : (fragmentsOff p.stack fragments).lookup key = fragments.lookup key := by
          rw [lookup_fragmentsOff, if_neg hstack]
        rw [if_neg hstack, ← hlookup]
        cases hraw : (fragmentsOff p.stack fragments).lookup key with
        | none =>
          dsimp only
          rw [if_neg hstack]
          exact .throw ⟨rfl, rfl⟩
        | some raw =>
          have hinner : ∀ key' location', (besides σ (p.stack ++ [key])).Mirrors
              (here.fragmentWithin fragments exhausted depth key' location')
              (here.fragment (withoutKey key (fragmentsOff p.stack fragments)) (p.stack ++ [key])
                key' location') := by
            intro key' location'
            have hshorter := length_withoutKey_lt hraw
            rw [← fragmentsOff_append] at hshorter ⊢
            exact ih (by omega)
          refine MirrorsFrom.bind (onStack_mirrors (stacked_ofValue_mirrors hinner) p _ ⟨rfl, rfl⟩)
            fun schema p' q' _ _ hpq => ?_
          refine ((Mirrors.modify ?_).bind fun _ => .pure) p' q' hpq
          rintro p' _ ⟨rfl, hp'⟩
          exact ⟨rfl, hp'⟩

/-- However deep calls may be nested beyond the number of fragments that are not on the stack, the
outcome is that of resolution, and so is what was achieved. -/
theorem fragmentWithin_ends {fragments : Members} {exhausted : Error} {depth : Nat}
    {key location : String} {p : Progress (σ × List String)}
    (hdepth : (fragmentsOff p.stack fragments).length < depth) :
    outcome (here.fragmentWithin fragments exhausted depth key location) p =
        outcome (here.fragment (fragmentsOff p.stack fragments) p.stack key location) p.unstacked ∧
      ∀ schema p', here.fragmentWithin fragments exhausted depth key location p = .ok schema p' →
        here.fragment (fragmentsOff p.stack fragments) p.stack key location p.unstacked =
          .ok schema p'.unstacked := by
  have hmirrors : (besides σ p.stack).MirrorsFrom
      (here.fragmentWithin fragments exhausted depth key location) p
      (here.fragment (fragmentsOff p.stack fragments) p.stack key location) p.unstacked :=
    fragmentWithin_mirrors hdepth p p.unstacked ⟨rfl, rfl⟩
  refine ⟨hmirrors.outcome_eq fun _ _ h => h, fun schema p' hok => ?_⟩
  obtain ⟨_, hsame, rfl, -⟩ := hmirrors.ok hok
  exact hsame

/-- So it is when a raw schema of the document is resolved while no fragment is. -/
theorem schemaWithin_ends {fragments : Members} {exhausted : Error} {depth : Nat} {raw : Value}
    {path : String} {p : Progress (σ × List String)} (hdepth : fragments.length < depth)
    (hstack : p.stack = []) :
    outcome (here.schemaWithin fragments exhausted depth raw path) p =
      outcome (here.schemaAt fragments raw path) p.unstacked := by
  have hfragment : ∀ key location, (besides σ []).Mirrors
      (here.fragmentWithin fragments exhausted depth key location)
      (here.fragment fragments [] key location) := by
    intro key location
    have hoff : fragmentsOff [] fragments = fragments := fragmentsOff_nil
    have hmirrors : (besides σ []).Mirrors
        (here.fragmentWithin fragments exhausted depth key location)
        (here.fragment (fragmentsOff [] fragments) [] key location) :=
      fragmentWithin_mirrors (hoff.symm ▸ hdepth)
    rwa [hoff] at hmirrors
  have hmirrors : (besides σ []).Mirrors (here.schemaWithin fragments exhausted depth raw path)
      (here.schemaAt fragments raw path) := stacked_ofValue_mirrors hfragment
  exact (hmirrors p p.unstacked ⟨rfl, hstack⟩).outcome_eq fun _ _ h => h

/-! ## What calls leave behind -/

/-- The stack is this one. -/
def stacking (σ : Type) (stack : List String) : Discipline Error (σ × List String) where
  inv s := s.2 = stack
  le _ _ := True
  fault _ _ := True
  refl _ := trivial
  trans _ _ := trivial

theorem stacked_interfaceAt_runs {library : Library σ} {key : String} {s : σ × List String}
    (hs : s.2 = stack) :
    (stacking σ stack).Runs (library.stacked.interfaceAt key) s fun _ _ => True := by
  unfold Discipline.Runs Library.stacked
  dsimp only
  cases library.interfaceAt key s.1 with
  | ok i s' => exact ⟨hs, trivial, trivial⟩
  | error e s' => exact ⟨hs, trivial, trivial⟩

/-- While the stack is known, fragments are resolved completely. -/
theorem stacked_resolves (here : Surroundings σ) (fragments : Members) (stack : List String) :
    Resolves (stacking σ stack) here.stacked fragments (fun _ => True) (fun _ _ _ => True)
      (fun _ externals => here.stacked.Resolved fragments externals) := by
  refine resolves_resolved _ _ (fun _ _ => trivial) fun library key s hlibrary hs => ?_
  obtain ⟨library', -, rfl⟩ := library_of_stacked hlibrary
  exact stacked_interfaceAt_runs hs

variable {fragments : Members} {p : Progress (σ × List String)}

theorem inv_of_settled (h : here.stacked.Settled fragments p) :
    (stacked_resolves here fragments p.stack).progress.inv p :=
  ⟨rfl, fun key i hi => ⟨h.externals key i hi, trivial⟩, h.fragments⟩

theorem settled_of_inv (h : (stacked_resolves here fragments stack).progress.inv p) :
    p.stack = stack ∧ here.stacked.Settled fragments p :=
  ⟨h.1, fun key i hi => (h.2.1 key i hi).1, h.2.2⟩

/-- The key is off the stack again, and what was resolved meanwhile is kept. -/
theorem onStack_runs {key : String} {raw : Value} {step : Resolving (σ × List String) Schema}
    (h : (stacked_resolves here fragments (stack ++ [key])).progress.Runs step
      (p.withStack (p.stack ++ [key])) fun schema p' =>
        here.stacked.Resolved fragments p'.externals raw schema) :
    (stacked_resolves here fragments stack).progress.Runs (Resolving.onStack key step) p
      fun schema p' => here.stacked.Resolved fragments p'.externals raw schema := by
  have hpop : ∀ p', (stacked_resolves here fragments (stack ++ [key])).progress.inv p' →
      (stacked_resolves here fragments stack).progress.inv (p'.withStack p'.stack.dropLast) := by
    rintro p' ⟨hstack, hsettled⟩
    have hdrop : p'.library.2.dropLast = stack := by
      rw [show p'.library.2 = stack ++ [key] from hstack, List.dropLast_concat]
    exact ⟨hdrop, hsettled⟩
  unfold Discipline.Runs
  cases hx : step (p.withStack (p.stack ++ [key])) with
  | ok schema p' =>
    obtain ⟨hp', hle, hresolved⟩ := h.ok hx
    rw [Resolving.onStack_ok hx]
    exact ⟨hpop p' hp', hle, hresolved⟩
  | error e p' =>
    obtain ⟨hp', hle, -⟩ := h.error hx
    rw [Resolving.onStack_error hx]
    exact ⟨hpop p' hp', hle, trivial⟩

/-- A call leaves the stack as it was and remembers complete fragments only, whether it succeeds or
fails, and even if it would have had to go deeper. -/
theorem fragmentWithin_runs {exhausted : Error} {depth : Nat} {key location : String}
    (hp : (stacked_resolves here fragments stack).progress.inv p) :
    (stacked_resolves here fragments stack).progress.Runs
      (here.fragmentWithin fragments exhausted depth key location) p
      (Resolves.FragmentStands (fun _ externals => here.stacked.Resolved fragments externals)
        fragments key) := by
  induction depth generalizing stack p key location with
  | zero => exact .throw hp trivial
  | succ depth ih =>
    rw [fragmentWithin]
    refine .afterGet ?_
    cases hmemo : p.fragments.lookup key with
    | some schema => exact .pure hp ⟨by simp [hmemo], hp.2.2 key schema (mem_of_lookup hmemo)⟩
    | none =>
      dsimp only
      by_cases hstack : key ∈ p.stack
      · rw [if_pos hstack]
        exact .throw hp trivial
      rw [if_neg hstack]
      cases hraw : fragments.lookup key with
      | none => exact .throw hp trivial
      | some raw =>
        have hpushed : (stacked_resolves here fragments (stack ++ [key])).progress.inv
            (p.withStack (p.stack ++ [key])) := by
          refine ⟨?_, hp.2⟩
          show p.stack ++ [key] = stack ++ [key]
          rw [show p.stack = stack from hp.1]
        have hresolves := stacked_resolves here fragments (stack ++ [key])
        have hinner : ∀ key' location' p', hresolves.progress.inv p' → hresolves.progress.Runs
            (here.fragmentWithin fragments exhausted depth key' location') p'
            (Resolves.FragmentStands (fun _ externals => here.stacked.Resolved fragments externals)
              fragments key') := fun key' location' p' hp' => ih hp'
        refine (onStack_runs (hresolves.ofValue_runs (fun _ _ => trivial) hpushed hinner)).bind
          fun schema p₁ hp₁ _ hschema => ?_
        exact (stacked_resolves here fragments stack).remember_runs hp₁ hraw hschema

/-- After every call the stack is what it was before, and what is remembered was resolved
completely. -/
theorem settled_of_fragmentWithin {exhausted : Error} {depth : Nat} {key location : String}
    (hp : here.stacked.Settled fragments p) :
    (stateAfter (here.fragmentWithin fragments exhausted depth key location) p).stack = p.stack ∧
      here.stacked.Settled fragments
        (stateAfter (here.fragmentWithin fragments exhausted depth key location) p) := by
  have hruns : (stacked_resolves here fragments p.stack).progress.Runs
      (here.fragmentWithin fragments exhausted depth key location) p _ :=
    fragmentWithin_runs (inv_of_settled hp)
  exact settled_of_inv hruns.inv_stateAfter

/-- So it is after a raw schema of the document is resolved. -/
theorem settled_of_schemaWithin {exhausted : Error} {depth : Nat} {raw : Value} {path : String}
    (hp : here.stacked.Settled fragments p) :
    (stateAfter (here.schemaWithin fragments exhausted depth raw path) p).stack = p.stack ∧
      here.stacked.Settled fragments
        (stateAfter (here.schemaWithin fragments exhausted depth raw path) p) := by
  have hruns : (stacked_resolves here fragments p.stack).progress.Runs
      (here.schemaWithin fragments exhausted depth raw path) p _ :=
    (stacked_resolves here fragments p.stack).ofValue_runs (fun _ _ => trivial) (inv_of_settled hp)
      fun _ _ _ => fragmentWithin_runs
  exact settled_of_inv hruns.inv_stateAfter

/-- The states that calls lead to one after another, whether they succeed or fail. -/
inductive Called (here : Surroundings σ) (fragments : Members) :
    Progress (σ × List String) → Prop where
  /-- Nothing was achieved so far. -/
  | start {s : σ} : Called here fragments ⟨[], [], (s, [])⟩
  /-- A fragment is asked for. -/
  | fragment {p : Progress (σ × List String)} {exhausted : Error} {depth : Nat}
      {key location : String} (h : Called here fragments p) :
      Called here fragments
        (stateAfter (here.fragmentWithin fragments exhausted depth key location) p)
  /-- A raw schema is resolved. -/
  | schema {p : Progress (σ × List String)} {exhausted : Error} {depth : Nat} {raw : Value}
      {path : String} (h : Called here fragments p) :
      Called here fragments (stateAfter (here.schemaWithin fragments exhausted depth raw path) p)

/-- Between calls the stack is empty, and what is remembered was resolved completely. -/
theorem Called.settled (h : here.Called fragments p) :
    p.stack = [] ∧ here.stacked.Settled fragments p := by
  induction h with
  | start => exact ⟨rfl, .start⟩
  | fragment _ ih =>
    obtain ⟨hstack, hsettled⟩ := settled_of_fragmentWithin ih.2
    exact ⟨hstack.trans ih.1, hsettled⟩
  | schema _ ih =>
    obtain ⟨hstack, hsettled⟩ := settled_of_schemaWithin ih.2
    exact ⟨hstack.trans ih.1, hsettled⟩

end Surroundings

end ServiceContract
