import ServiceContract.Proofs.Runs

/-!
# Runs that mirror one another

Two computations with states of their own are compared run by run. The first one mirrors the second
one if both end in the same way, with the same result and related states or with the same fault; only
the first one may also fail for reasons of its own, which are excused. The rules follow the shape of
the computations, as those for single runs do. A second computation that has no state to speak of is
just an answer.
-/

namespace ServiceContract

/-- How a computation ends, whatever state it leaves behind. -/
def outcome {ε σ α : Type} (x : EStateM ε σ α) (s : σ) : Except ε α :=
  match x s with
  | .ok a _ => .ok a
  | .error e _ => .error e

theorem outcome_eq_ok {ε σ α : Type} {x : EStateM ε σ α} {s : σ} {a : α} :
    outcome x s = .ok a ↔ ∃ s', x s = .ok a s' := by
  unfold outcome
  cases x s <;> simp

theorem outcome_eq_error {ε σ α : Type} {x : EStateM ε σ α} {s : σ} {e : ε} :
    outcome x s = .error e ↔ ∃ s', x s = .error e s' := by
  unfold outcome
  cases x s <;> simp

/-- The computation that always ends in the same way. -/
def always {ε α : Type} : Except ε α → EStateM ε Unit α
  | .ok a => pure a
  | .error e => throw e

theorem eq_ok_of_always {ε α : Type} {r : Except ε α} {a : α} {u : Unit}
    (h : always r () = .ok a u) : r = .ok a := by
  cases r with
  | ok b =>
    cases h
    rfl
  | error e => cases h

theorem eq_error_of_always {ε α : Type} {r : Except ε α} {e : ε} {u : Unit}
    (h : always r () = .error e u) : r = .error e := by
  cases r with
  | ok a => cases h
  | error e' =>
    cases h
    rfl

theorem bind_of_ok {ε σ α β : Type} {x : EStateM ε σ α} {f : α → EStateM ε σ β} {s s' : σ} {a : α}
    (h : x s = .ok a s') : (x >>= f) s = f a s' := by
  show (match x s with | .ok a s' => f a s' | .error e s' => .error e s') = _
  rw [h]

theorem bind_of_error {ε σ α β : Type} {x : EStateM ε σ α} {f : α → EStateM ε σ β} {s s' : σ}
    {e : ε} (h : x s = .error e s') : (x >>= f) s = .error e s' := by
  show (match x s with | .ok a s' => f a s' | .error e s' => .error e s') = _
  rw [h]

theorem get_bind {ε σ β : Type} {f : σ → EStateM ε σ β} {s : σ} :
    ((get : EStateM ε σ σ) >>= f) s = f s s := rfl

/-- How the states of two computations are related, and what the first one may do alone. -/
structure Likeness (ε σ τ : Type) where
  /-- The states go together. -/
  rel : σ → τ → Prop
  /-- What the states of the first computation keep, even after a fault. -/
  inv : σ → Prop
  /-- A fault that may occur in the first computation alone, with the state that it leaves. -/
  excuse : ε → σ → Prop
  /-- States that go together keep it. -/
  inv_of_rel : ∀ {s t}, rel s t → inv s

namespace Likeness

variable {ε σ τ α β : Type} {M : Likeness ε σ τ}

/-- The run from `s` ends as the run from `t` does, or it fails with an excuse. -/
def MirrorsFrom (M : Likeness ε σ τ) (x : EStateM ε σ α) (s : σ) (y : EStateM ε τ α) (t : τ) : Prop :=
  match x s, y t with
  | .ok a s', .ok b t' => a = b ∧ M.rel s' t'
  | .ok .., .error .. => False
  | .error e s', .ok .. => M.inv s' ∧ M.excuse e s'
  | .error e s', .error e' _ => M.inv s' ∧ (e = e' ∨ M.excuse e s')

/-- Runs from related states mirror one another. -/
def Mirrors (M : Likeness ε σ τ) (x : EStateM ε σ α) (y : EStateM ε τ α) : Prop :=
  ∀ s t, M.rel s t → M.MirrorsFrom x s y t

/-! ## Single runs -/

namespace MirrorsFrom

variable {x : EStateM ε σ α} {y : EStateM ε τ α} {s s' : σ} {t : τ}

theorem ok {a : α} (h : M.MirrorsFrom x s y t) (hx : x s = .ok a s') :
    ∃ t', y t = .ok a t' ∧ M.rel s' t' := by
  unfold MirrorsFrom at h
  rw [hx] at h
  cases hy : y t with
  | ok b t' =>
    rw [hy] at h
    obtain ⟨rfl, hrel⟩ := h
    exact ⟨t', rfl, hrel⟩
  | error e t' =>
    rw [hy] at h
    exact h.elim

theorem error {e : ε} (h : M.MirrorsFrom x s y t) (hx : x s = .error e s') :
    M.inv s' ∧ (M.excuse e s' ∨ ∃ t', y t = .error e t') := by
  unfold MirrorsFrom at h
  rw [hx] at h
  cases hy : y t with
  | ok b t' =>
    rw [hy] at h
    exact ⟨h.1, .inl h.2⟩
  | error e' t' =>
    rw [hy] at h
    refine ⟨h.1, h.2.symm.imp_right ?_⟩
    rintro rfl
    exact ⟨t', rfl⟩

theorem of_ok {a : α} {t' : τ} (hx : x s = .ok a s') (hy : y t = .ok a t') (hrel : M.rel s' t') :
    M.MirrorsFrom x s y t := by
  unfold MirrorsFrom
  rw [hx, hy]
  exact ⟨rfl, hrel⟩

theorem of_error {e : ε} (hx : x s = .error e s') (hinv : M.inv s')
    (h : M.excuse e s' ∨ ∃ t', y t = .error e t') : M.MirrorsFrom x s y t := by
  unfold MirrorsFrom
  rw [hx]
  cases hy : y t with
  | ok b t' =>
    refine ⟨hinv, h.resolve_right ?_⟩
    rintro ⟨t'', ht⟩
    cases hy.symm.trans ht
  | error e' t' =>
    refine ⟨hinv, ?_⟩
    rcases h with h | ⟨t'', ht⟩
    · exact .inr h
    · cases hy.symm.trans ht
      exact .inl rfl

/-- What the states of the first computation keep holds after the run, however it ends. -/
theorem inv_stateAfter (h : M.MirrorsFrom x s y t) : M.inv (stateAfter x s) := by
  unfold stateAfter
  cases hx : x s with
  | ok a s' =>
    obtain ⟨t', -, hrel⟩ := h.ok hx
    exact M.inv_of_rel hrel
  | error e s' => exact (h.error hx).1

/-- Only the run from the given state matters. -/
theorem congr {x' : EStateM ε σ α} (h : M.MirrorsFrom x s y t) (heq : x' s = x s) :
    M.MirrorsFrom x' s y t := by
  unfold MirrorsFrom at h ⊢
  rw [heq]
  exact h

theorem pure {a : α} (hrel : M.rel s t) : M.MirrorsFrom (pure a) s (pure a) t :=
  ⟨rfl, hrel⟩

theorem throw {e : ε} (hrel : M.rel s t) :
    M.MirrorsFrom (throw e : EStateM ε σ α) s (throw e) t :=
  ⟨M.inv_of_rel hrel, .inl rfl⟩

/-- Computations one after another; what the first two did is known of the others. -/
theorem bind {f : α → EStateM ε σ β} {g : α → EStateM ε τ β} (h : M.MirrorsFrom x s y t)
    (hfg : ∀ a s' t', x s = .ok a s' → y t = .ok a t' → M.rel s' t' →
      M.MirrorsFrom (f a) s' (g a) t') : M.MirrorsFrom (x >>= f) s (y >>= g) t := by
  cases hx : x s with
  | ok a s' =>
    obtain ⟨t', hy, hrel⟩ := h.ok hx
    have hrest := hfg a s' t' hx hy hrel
    unfold MirrorsFrom at hrest ⊢
    rw [bind_of_ok hx, bind_of_ok hy]
    exact hrest
  | error e s' =>
    obtain ⟨hinv, hfault⟩ := h.error hx
    refine of_error (bind_of_error hx) hinv (hfault.imp_right ?_)
    rintro ⟨t', hy⟩
    exact ⟨t', bind_of_error hy⟩

theorem afterGet {f : σ → EStateM ε σ α} (h : M.MirrorsFrom (f s) s y t) :
    M.MirrorsFrom (do f (← get)) s y t := h

end MirrorsFrom

/-! ## Runs from all related states -/

namespace Mirrors

theorem pure {a : α} : M.Mirrors (pure a) (pure a) := fun _ _ => .pure

theorem throw {e : ε} : M.Mirrors (throw e : EStateM ε σ α) (throw e) := fun _ _ => .throw

theorem bind {x : EStateM ε σ α} {y : EStateM ε τ α} {f : α → EStateM ε σ β}
    {g : α → EStateM ε τ β} (h : M.Mirrors x y) (hfg : ∀ a, M.Mirrors (f a) (g a)) :
    M.Mirrors (x >>= f) (y >>= g) :=
  fun s t hrel => (h s t hrel).bind fun a s' t' _ _ hrel' => hfg a s' t' hrel'

theorem afterGet {f : σ → EStateM ε σ α} {g : τ → EStateM ε τ α}
    (h : ∀ s t, M.rel s t → M.MirrorsFrom (f s) s (g t) t) :
    M.Mirrors (do f (← get)) (do g (← get)) := h

theorem modify {f : σ → σ} {g : τ → τ} (h : ∀ s t, M.rel s t → M.rel (f s) (g t)) :
    M.Mirrors (modify f) (modify g) := fun s t hrel => ⟨rfl, h s t hrel⟩

theorem map {x : EStateM ε σ α} {y : EStateM ε τ α} {f : α → β} (h : M.Mirrors x y) :
    M.Mirrors (do return f (← x)) (do return f (← y)) :=
  h.bind fun _ => .pure

theorem foldlM {f : β → α → EStateM ε σ β} {g : β → α → EStateM ε τ β} {l : List α} {b : β}
    (hfg : ∀ b a, M.Mirrors (f b a) (g b a)) : M.Mirrors (l.foldlM f b) (l.foldlM g b) := by
  induction l generalizing b with
  | nil => exact .pure
  | cons a l ih =>
    rw [List.foldlM_cons, List.foldlM_cons]
    exact (hfg b a).bind fun _ => ih

end Mirrors

/-- The second likeness asks for no more than the first one. -/
structure Weakens (M M' : Likeness ε σ τ) : Prop where
  /-- States that go together still do. -/
  rel : ∀ {s t}, M.rel s t → M'.rel s t
  /-- What was kept is enough. -/
  inv : ∀ {s}, M.inv s → M'.inv s
  /-- Excuses stay excuses. -/
  excuse : ∀ {e s}, M.excuse e s → M'.excuse e s

theorem Weakens.refl : Weakens M M := ⟨fun h => h, fun h => h, fun h => h⟩

/-- Less may be asked for. -/
theorem MirrorsFrom.mono {M' : Likeness ε σ τ} {x : EStateM ε σ α} {y : EStateM ε τ α} {s : σ} {t : τ}
    (h : M.MirrorsFrom x s y t) (hM : M.Weakens M') : M'.MirrorsFrom x s y t := by
  cases hx : x s with
  | ok a s' =>
    obtain ⟨t', hy, hs'⟩ := h.ok hx
    exact .of_ok hx hy (hM.rel hs')
  | error e s' =>
    obtain ⟨hs', hfault⟩ := h.error hx
    exact .of_error hx (hM.inv hs') (hfault.imp_left hM.excuse)

/-! ## Answers -/

/-- The likeness of a computation with an answer, which has no state. -/
def towards (rel inv : σ → Prop) (excuse : ε → σ → Prop) (hinv : ∀ {s}, rel s → inv s) :
    Likeness ε σ Unit where
  rel s _ := rel s
  inv := inv
  excuse := excuse
  inv_of_rel := hinv

/-- Who mirrors a run without a state mirrors what comes out of it. -/
theorem MirrorsFrom.outcome {M : Likeness ε σ Unit} {x : EStateM ε σ α} {y : EStateM ε Unit α} {s : σ}
    {t : Unit} (h : M.MirrorsFrom x s y t) :
    M.MirrorsFrom x s (always (outcome y t)) () := by
  unfold ServiceContract.outcome
  cases hx : x s with
  | ok a s' =>
    obtain ⟨t', hy, hrel⟩ := h.ok hx
    rw [hy]
    exact .of_ok hx (show always (.ok a) () = .ok a () from rfl) hrel
  | error e s' =>
    obtain ⟨hinv, hfault⟩ := h.error hx
    refine .of_error hx hinv (hfault.imp_right ?_)
    rintro ⟨t', hy⟩
    rw [hy]
    exact ⟨(), rfl⟩

/-- A run without excuses comes out as what it mirrors. -/
theorem MirrorsFrom.outcome_eq {x : EStateM ε σ α} {y : EStateM ε τ α} {s : σ} {t : τ}
    (h : M.MirrorsFrom x s y t) (hnone : ∀ e s, ¬ M.excuse e s) :
    ServiceContract.outcome x s = ServiceContract.outcome y t := by
  unfold ServiceContract.outcome
  cases hx : x s with
  | ok a s' =>
    obtain ⟨t', hy, -⟩ := h.ok hx
    rw [hy]
  | error e s' =>
    obtain ⟨t', hy⟩ := (h.error hx).2.resolve_left (hnone e s')
    rw [hy]

theorem outcome_always {r : Except ε α} : outcome (always r) () = r := by
  cases r <;> rfl

theorem always_bind {r : Except ε α} {g : α → Except ε β} :
    always (r >>= g) = always r >>= fun a => always (g a) := by
  cases r <;> rfl

theorem always_foldlM {g : β → α → Except ε β} {l : List α} {b : β} :
    always (l.foldlM g b) = l.foldlM (fun b a => always (g b a)) b := by
  induction l generalizing b with
  | nil => rfl
  | cons a l ih =>
    rw [List.foldlM_cons, List.foldlM_cons, always_bind]
    exact bind_congr fun _ => ih

end Likeness

/-! ## Disciplines with answers -/

namespace Discipline

variable {ε σ α : Type} {D : Discipline ε σ} {x : EStateM ε σ α} {s : σ} {a : α}

/-- The likeness of a computation that keeps a discipline with an answer. Its faults are excused. -/
def likeness (D : Discipline ε σ) : Likeness ε σ Unit := .towards D.inv D.inv D.fault fun h => h

/-- A run that can only have one result mirrors this as an answer. -/
theorem Runs.mirrors (h : D.Runs x s fun b _ => b = a) :
    D.likeness.MirrorsFrom x s (always (.ok a)) () := by
  cases hx : x s with
  | ok b s' =>
    obtain ⟨hs', -, rfl⟩ := h.ok hx
    exact .of_ok hx rfl hs'
  | error e s' =>
    obtain ⟨hs', -, hfault⟩ := h.error hx
    exact .of_error hx hs' (.inl hfault)

/-- A run that mirrors an answer can only have this as its result. -/
theorem runs_of_mirrors (hle : ∀ s', D.le s s')
    (h : D.likeness.MirrorsFrom x s (always (.ok a)) ()) : D.Runs x s fun b _ => b = a := by
  unfold Runs
  cases hx : x s with
  | ok b s' =>
    obtain ⟨_, hanswer, hs'⟩ := h.ok hx
    exact ⟨hs', hle s', (Except.ok.inj (eq_ok_of_always hanswer)).symm⟩
  | error e s' =>
    obtain ⟨hs', hfault | ⟨_, hanswer⟩⟩ := h.error hx
    · exact ⟨hs', hle s', hfault⟩
    · cases hanswer

end Discipline

end ServiceContract
