import Mathlib.Data.List.Forall2

/-!
# Runs with a state

Computations that change a state and may fail are reasoned about by what a run of theirs keeps: an
invariant of the states, a preorder that only lets states grow, and a condition on the faults. These
three make a discipline. `Runs` says that a computation keeps a discipline from a given state and
that its result meets a postcondition; the rules below follow the shape of the computation. Of checks
without a state that are made one after the other it matters only which one is the first to fail.
-/

namespace ServiceContract

/-- What the runs of computations have to keep. -/
structure Discipline (ε σ : Type) where
  /-- The invariant of the states. -/
  inv : σ → Prop
  /-- The second state may follow on the first one. -/
  le : σ → σ → Prop
  /-- A fault that may occur, with the state that it leaves. -/
  fault : ε → σ → Prop
  /-- A state may stay as it is. -/
  refl : ∀ s, le s s
  /-- Steps may follow on one another. -/
  trans : ∀ {s₁ s₂ s₃}, le s₁ s₂ → le s₂ s₃ → le s₁ s₃

/-- The state that a computation leaves behind, whether it succeeds or fails. -/
def stateAfter {ε σ α : Type} (x : EStateM ε σ α) (s : σ) : σ :=
  match x s with
  | .ok _ s' => s'
  | .error _ s' => s'

/-- The result of a computation, if it succeeds. -/
def result? {ε σ α : Type} (x : EStateM ε σ α) (s : σ) : Option α :=
  match x s with
  | .ok a _ => some a
  | .error .. => none

/-- The fault of a computation, if it fails. -/
def fault? {ε σ α : Type} (x : EStateM ε σ α) (s : σ) : Option ε :=
  match x s with
  | .ok .. => none
  | .error e _ => some e

theorem result?_eq_some {ε σ α : Type} {x : EStateM ε σ α} {s : σ} {a : α} :
    result? x s = some a ↔ ∃ s', x s = .ok a s' := by
  unfold result?
  cases x s <;> simp

theorem fault?_eq_some {ε σ α : Type} {x : EStateM ε σ α} {s : σ} {e : ε} :
    fault? x s = some e ↔ ∃ s', x s = .error e s' := by
  unfold fault?
  cases x s <;> simp

theorem stateAfter_of_ok {ε σ α : Type} {x : EStateM ε σ α} {s s' : σ} {a : α} (h : x s = .ok a s') :
    stateAfter x s = s' := by
  rw [stateAfter, h]

theorem eq_ok_of_toOption {ε α : Type} {x : Except ε α} {a : α} (h : x.toOption = some a) :
    x = .ok a := by
  cases x with
  | error e => cases h
  | ok b =>
    cases h
    rfl

theorem bind_eq_ok {ε α β : Type} {x : Except ε α} {f : α → Except ε β} {b : β} :
    (x >>= f) = .ok b ↔ ∃ a, x = .ok a ∧ f a = .ok b := by
  cases x <;> simp [bind, Except.bind]

theorem map_eq_ok {ε α β : Type} {x : Except ε α} {f : α → β} {b : β} :
    x.map f = .ok b ↔ ∃ a, x = .ok a ∧ f a = b := by
  cases x <;> simp [Except.map]

theorem map_eq_error {ε α β : Type} {x : Except ε α} {f : α → β} {e : ε} :
    x.map f = .error e ↔ x = .error e := by
  cases x <;> simp [Except.map]

section Checks

variable {ε α β : Type} {check : α → Except ε Unit} {l : List α} {a : α} {e : ε}

theorem forM_cons_eq : (a :: l).forM check = check a >>= fun _ => l.forM check := rfl

theorem forM_eq_ok : l.forM check = .ok () ↔ ∀ a ∈ l, check a = .ok () := by
  induction l with
  | nil => exact ⟨fun _ => by simp, fun _ => rfl⟩
  | cons a rest ih =>
    rw [List.forall_mem_cons, ← ih, forM_cons_eq]
    refine bind_eq_ok.trans ⟨?_, fun h => ⟨(), h⟩⟩
    rintro ⟨⟨⟩, h⟩
    exact h

/-- Checks fail with the error of the first one that fails: those before it pass. -/
theorem first_of_forM_eq_error (h : l.forM check = .error e) :
    ∃ before a after, l = before ++ a :: after ∧ (∀ b ∈ before, check b = .ok ()) ∧ check a = .error e := by
  induction l with
  | nil => cases h
  | cons first rest ih =>
    rw [forM_cons_eq] at h
    cases hfirst : check first with
    | error e' =>
      rw [hfirst] at h
      cases h
      exact ⟨[], first, rest, rfl, List.forall_mem_nil _, hfirst⟩
    | ok =>
      rw [hfirst] at h
      obtain ⟨before, a, after, rfl, hbefore, ha⟩ := ih h
      exact ⟨first :: before, a, after, rfl, List.forall_mem_cons.2 ⟨hfirst, hbefore⟩, ha⟩

theorem forM_eq_error_of_first {before after : List α} (hbefore : ∀ b ∈ before, check b = .ok ())
    (ha : check a = .error e) : (before ++ a :: after).forM check = .error e := by
  induction before with
  | nil =>
    rw [List.nil_append, forM_cons_eq, ha]
    rfl
  | cons first rest ih =>
    rw [List.forall_mem_cons] at hbefore
    rw [List.cons_append, forM_cons_eq, hbefore.1]
    exact ih hbefore.2

/-- Where every step is a check, what it puts in does not matter to the others. -/
theorem foldlM_check (check : α → Except ε Unit) (put : β → α → β) {step : β → α → Except ε β}
    (hstep : ∀ b a, step b a = check a >>= fun _ => .ok (put b a)) (b : β) :
    l.foldlM step b = l.forM check >>= fun _ => .ok (l.foldl put b) := by
  induction l generalizing b with
  | nil => rfl
  | cons a rest ih =>
    rw [List.foldlM_cons, forM_cons_eq, hstep]
    cases check a with
    | error e => rfl
    | ok => exact ih (put b a)

end Checks

section Steps

variable {ε α β : Type} {step : α → Except ε β} {as : List α} {bs : List β} {e : ε}

/-- One step for each element of a list succeeds if all of them do, with their results. -/
theorem mapM_eq_ok : as.mapM step = .ok bs ↔ List.Forall₂ (fun a b => step a = .ok b) as bs := by
  induction as generalizing bs with
  | nil => exact ⟨fun h => by cases h; exact .nil, fun h => by cases h; rfl⟩
  | cons a rest ih =>
    simp only [List.mapM_cons, bind_eq_ok]
    constructor
    · rintro ⟨b, hb, bs', hrest, hpure⟩
      cases hpure
      exact .cons hb (ih.1 hrest)
    · intro h
      cases h with
      | cons hb hrest => exact ⟨_, hb, _, ih.2 hrest, rfl⟩

/-- They fail with the error of one that fails. -/
theorem exists_of_mapM_eq_error (h : as.mapM step = .error e) : ∃ a ∈ as, step a = .error e := by
  induction as with
  | nil => cases h
  | cons a rest ih =>
    rw [List.mapM_cons] at h
    cases hstep : step a with
    | error e' =>
      rw [hstep] at h
      cases h
      exact ⟨a, List.mem_cons_self, hstep⟩
    | ok b =>
      rw [hstep] at h
      cases hrest : rest.mapM step with
      | error e' =>
        rw [hrest] at h
        cases h
        obtain ⟨a', hmem, ha'⟩ := ih hrest
        exact ⟨a', List.mem_cons_of_mem a hmem, ha'⟩
      | ok bs =>
        rw [hrest] at h
        cases h

end Steps

namespace Discipline

variable {ε σ α β : Type} {D : Discipline ε σ}

/-- The run from `s` keeps the discipline, and its result, if there is one, meets `Q`. -/
def Runs (D : Discipline ε σ) (x : EStateM ε σ α) (s : σ) (Q : α → σ → Prop) : Prop :=
  match x s with
  | .ok a s' => D.inv s' ∧ D.le s s' ∧ Q a s'
  | .error e s' => D.inv s' ∧ D.le s s' ∧ D.fault e s'

theorem Runs.ok {x : EStateM ε σ α} {s s' : σ} {a : α} {Q : α → σ → Prop} (h : D.Runs x s Q)
    (hx : x s = .ok a s') : D.inv s' ∧ D.le s s' ∧ Q a s' := by
  unfold Runs at h
  rw [hx] at h
  exact h

theorem Runs.error {x : EStateM ε σ α} {s s' : σ} {e : ε} {Q : α → σ → Prop} (h : D.Runs x s Q)
    (hx : x s = .error e s') : D.inv s' ∧ D.le s s' ∧ D.fault e s' := by
  unfold Runs at h
  rw [hx] at h
  exact h

/-- The invariant holds whether the run succeeds or fails. -/
theorem Runs.inv_stateAfter {x : EStateM ε σ α} {s : σ} {Q : α → σ → Prop} (h : D.Runs x s Q) :
    D.inv (stateAfter x s) := by
  unfold stateAfter
  cases hx : x s with
  | ok a s' => exact (h.ok hx).1
  | error e s' => exact (h.error hx).1

theorem Runs.le_stateAfter {x : EStateM ε σ α} {s : σ} {Q : α → σ → Prop} (h : D.Runs x s Q) :
    D.le s (stateAfter x s) := by
  unfold stateAfter
  cases hx : x s with
  | ok a s' => exact (h.ok hx).2.1
  | error e s' => exact (h.error hx).2.1

/-- Only the run from the given state matters. -/
theorem Runs.congr {x y : EStateM ε σ α} {s : σ} {Q : α → σ → Prop} (h : D.Runs x s Q)
    (heq : y s = x s) : D.Runs y s Q := by
  unfold Runs at h ⊢
  rw [heq]
  exact h

theorem Runs.pure {s : σ} {a : α} {Q : α → σ → Prop} (hs : D.inv s) (h : Q a s) :
    D.Runs (pure a) s Q :=
  ⟨hs, D.refl s, h⟩

theorem Runs.throw {s : σ} {e : ε} {Q : α → σ → Prop} (hs : D.inv s) (h : D.fault e s) :
    D.Runs (throw e) s Q :=
  ⟨hs, D.refl s, h⟩

theorem Runs.imp {x : EStateM ε σ α} {s : σ} {Q R : α → σ → Prop} (h : D.Runs x s Q)
    (hQ : ∀ a s', D.inv s' → D.le s s' → Q a s' → R a s') : D.Runs x s R := by
  unfold Runs at h ⊢
  cases hx : x s with
  | ok a s' =>
    rw [hx] at h
    exact ⟨h.1, h.2.1, hQ a s' h.1 h.2.1 h.2.2⟩
  | error e s' =>
    rw [hx] at h
    exact h

/-- The result of a run is the result of the computation. -/
theorem Runs.result {x : EStateM ε σ α} {s : σ} {Q : α → σ → Prop} (h : D.Runs x s Q) :
    D.Runs x s fun a s' => x s = .ok a s' ∧ Q a s' := by
  unfold Runs at h ⊢
  cases hx : x s with
  | ok a s' =>
    rw [hx] at h
    exact ⟨h.1, h.2.1, rfl, h.2.2⟩
  | error e s' =>
    rw [hx] at h
    exact h

theorem Runs.bind {x : EStateM ε σ α} {f : α → EStateM ε σ β} {s : σ} {Q : α → σ → Prop}
    {R : β → σ → Prop} (hx : D.Runs x s Q)
    (hf : ∀ a s', D.inv s' → D.le s s' → Q a s' → D.Runs (f a) s' R) : D.Runs (x >>= f) s R := by
  have hbind : (x >>= f) s = match x s with
      | .ok a s' => f a s'
      | .error e s' => .error e s' := rfl
  unfold Runs at hx
  cases hxs : x s with
  | error e s' =>
    rw [hxs] at hx hbind
    unfold Runs
    rw [hbind]
    exact hx
  | ok a s' =>
    rw [hxs] at hx hbind
    obtain ⟨hinv, hle, hQ⟩ := hx
    have hrest := hf a s' hinv hle hQ
    unfold Runs at hrest ⊢
    rw [hbind]
    dsimp only
    cases hfs : f a s' with
    | ok b s'' =>
      rw [hfs] at hrest
      exact ⟨hrest.1, D.trans hle hrest.2.1, hrest.2.2⟩
    | error e s'' =>
      rw [hfs] at hrest
      exact ⟨hrest.1, D.trans hle hrest.2.1, hrest.2.2⟩

theorem Runs.afterGet {f : σ → EStateM ε σ α} {s : σ} {Q : α → σ → Prop} (h : D.Runs (f s) s Q) :
    D.Runs (do f (← get)) s Q := h

theorem Runs.afterModify {f : σ → σ} {g : Unit → EStateM ε σ α} {s : σ} {Q : α → σ → Prop}
    (hs : D.inv (f s)) (hle : D.le s (f s)) (h : D.Runs (g ()) (f s) Q) :
    D.Runs (modify f >>= g) s Q := by
  have hmodify : D.Runs (modify f) s fun _ s' => s' = f s := ⟨hs, hle, rfl⟩
  refine hmodify.bind fun _ s' _ _ heq => ?_
  rw [heq]
  exact h

theorem Runs.map {x : EStateM ε σ α} {f : α → β} {s : σ} {Q : α → σ → Prop} {R : β → σ → Prop}
    (hx : D.Runs x s Q) (hf : ∀ a s', D.inv s' → D.le s s' → Q a s' → R (f a) s') :
    D.Runs (do return f (← x)) s R :=
  hx.bind fun a s' hinv hle hQ => .pure hinv (hf a s' hinv hle hQ)

/-- One computation for each element of a list, with all the results; what is known of a result has
to stay true of later states. -/
theorem Runs.mapM {f : α → EStateM ε σ β} {l : List α} {s : σ} {Q : α → β → σ → Prop}
    (hs : D.inv s) (hstable : ∀ {a b s₁ s₂}, D.le s₁ s₂ → Q a b s₁ → Q a b s₂)
    (hf : ∀ a ∈ l, ∀ s', D.inv s' → D.le s s' → D.Runs (f a) s' (Q a)) :
    D.Runs (l.mapM f) s fun bs s' => List.Forall₂ (fun a b => Q a b s') l bs := by
  induction l generalizing s with
  | nil => exact .pure hs .nil
  | cons a l ih =>
    rw [List.mapM_cons]
    refine (hf a (List.mem_cons_self ..) s hs (D.refl s)).bind fun b s₁ hs₁ hle₁ hb => ?_
    have hrest : ∀ a ∈ l, ∀ s', D.inv s' → D.le s₁ s' → D.Runs (f a) s' (Q a) :=
      fun a ha s' hs' hle' => hf a (List.mem_cons_of_mem _ ha) s' hs' (D.trans hle₁ hle')
    refine (ih hs₁ hrest).bind fun bs s₂ hs₂ hle₂ hbs => ?_
    exact .pure hs₂ (.cons (hstable hle₂ hb) hbs)

/-- Nothing needs to be known of the results. -/
theorem Runs.mapM_keeps {f : α → EStateM ε σ β} {l : List α} {s : σ} (hs : D.inv s)
    (hf : ∀ a s', D.inv s' → D.Runs (f a) s' fun _ _ => True) :
    D.Runs (l.mapM f) s fun _ _ => True :=
  (Runs.mapM (Q := fun _ _ _ => True) hs (fun _ h => h) fun a _ s' hs' _ => hf a s' hs').imp
    fun _ _ _ _ _ => trivial

theorem Runs.forM {f : α → EStateM ε σ Unit} {l : List α} {s : σ} {Q : α → σ → Prop}
    (hs : D.inv s) (hstable : ∀ {a s₁ s₂}, D.le s₁ s₂ → Q a s₁ → Q a s₂)
    (hf : ∀ a ∈ l, ∀ s', D.inv s' → D.le s s' → D.Runs (f a) s' fun _ => Q a) :
    D.Runs (l.forM f) s fun _ s' => ∀ a ∈ l, Q a s' := by
  induction l generalizing s with
  | nil => exact .pure hs (by simp)
  | cons a l ih =>
    show D.Runs (do f a; l.forM f) s _
    refine (hf a (List.mem_cons_self ..) s hs (D.refl s)).bind fun _ s₁ hs₁ hle₁ ha => ?_
    have hrest : ∀ a ∈ l, ∀ s', D.inv s' → D.le s₁ s' → D.Runs (f a) s' fun _ => Q a :=
      fun a ha s' hs' hle' => hf a (List.mem_cons_of_mem _ ha) s' hs' (D.trans hle₁ hle')
    refine (ih hs₁ hrest).imp fun _ s₂ _ hle₂ hl => ?_
    rintro b (_ | ⟨_, hb⟩)
    · exact hstable hle₂ ha
    · exact hl b hb

/-- A fold over a list; the invariant tells which elements were gone through. -/
theorem Runs.foldlM {f : β → α → EStateM ε σ β} {l : List α} {b : β} {s : σ}
    {I : List α → β → σ → Prop} (hs : D.inv s) (hb : I [] b s)
    (hf : ∀ before a b s', a ∈ l → D.inv s' → D.le s s' → I before b s' →
      D.Runs (f b a) s' (I (before ++ [a]))) : D.Runs (l.foldlM f b) s (I l) := by
  have hrest : ∀ before, I before b s → (∀ before a b s', a ∈ l → D.inv s' → D.le s s' →
      I before b s' → D.Runs (f b a) s' (I (before ++ [a]))) →
      D.Runs (l.foldlM f b) s (I (before ++ l)) := by
    clear hb hf
    induction l generalizing b s with
    | nil =>
      intro before hb _
      rw [List.append_nil]
      exact .pure hs hb
    | cons a l ih =>
      intro before hb hf
      rw [List.foldlM_cons]
      refine (hf before a b s (List.mem_cons_self ..) hs (D.refl s) hb).bind
        fun b₁ s₁ hs₁ hle₁ hb₁ => ?_
      rw [List.append_cons]
      exact ih hs₁ _ hb₁ fun before a b s' ha hs' hle =>
        hf before a b s' (List.mem_cons_of_mem _ ha) hs' (D.trans hle₁ hle)
  exact hrest [] hb hf

/-! ## Invariants alone -/

/-- The discipline that asks for an invariant and nothing else. -/
def ofInv (P : σ → Prop) : Discipline ε σ where
  inv := P
  le _ _ := True
  fault _ _ := True
  refl _ := trivial
  trans _ _ := trivial

theorem Runs.of_stateAfter {P : σ → Prop} {x : EStateM ε σ α} {s : σ} (h : P (stateAfter x s)) :
    (ofInv P).Runs x s fun _ _ => True := by
  unfold stateAfter at h
  unfold Runs
  cases hx : x s with
  | ok a s' =>
    rw [hx] at h
    exact ⟨h, trivial, trivial⟩
  | error e s' =>
    rw [hx] at h
    exact ⟨h, trivial, trivial⟩

/-! ## Change of discipline -/

/-- A run that keeps one discipline keeps another one that asks for no more. -/
theorem Runs.weaken {D' : Discipline ε σ} {x : EStateM ε σ α} {s : σ} {Q : α → σ → Prop}
    (h : D.Runs x s Q) (hinv : ∀ s', D.inv s' → D.le s s' → D'.inv s')
    (hle : ∀ s', D.le s s' → D'.le s s') (hfault : ∀ e s', D.le s s' → D.fault e s' → D'.fault e s') :
    D'.Runs x s fun a s' => D.le s s' ∧ Q a s' := by
  unfold Runs at h ⊢
  cases hx : x s with
  | ok a s' =>
    rw [hx] at h
    exact ⟨hinv s' h.1 h.2.1, hle s' h.2.1, h.2.1, h.2.2⟩
  | error e s' =>
    rw [hx] at h
    exact ⟨hinv s' h.1 h.2.1, hle s' h.2.1, hfault e s' h.2.1 h.2.2⟩

/-- The discipline with other faults. -/
def withFault (D : Discipline ε σ) (fault : ε → σ → Prop) : Discipline ε σ where
  inv := D.inv
  le := D.le
  fault := fault
  refl := D.refl
  trans := D.trans

theorem Runs.withFault {fault : ε → σ → Prop} {x : EStateM ε σ α} {s : σ} {Q : α → σ → Prop}
    (h : D.Runs x s Q) (hfault : ∀ e s', D.fault e s' → fault e s') :
    (D.withFault fault).Runs x s Q := by
  have hweak : (D.withFault fault).Runs x s fun a s' => D.le s s' ∧ Q a s' :=
    h.weaken (fun _ hs' _ => hs') (fun _ hle => hle) fun e s' _ he => hfault e s' he
  exact hweak.imp fun _ _ _ _ hQ => hQ.2

/-- Both disciplines at once. -/
def and (D D' : Discipline ε σ) : Discipline ε σ where
  inv s := D.inv s ∧ D'.inv s
  le s s' := D.le s s' ∧ D'.le s s'
  fault e s := D.fault e s ∧ D'.fault e s
  refl s := ⟨D.refl s, D'.refl s⟩
  trans h h' := ⟨D.trans h.1 h'.1, D'.trans h.2 h'.2⟩

theorem Runs.and {D' : Discipline ε σ} {x : EStateM ε σ α} {s : σ} {Q Q' : α → σ → Prop}
    (h : D.Runs x s Q) (h' : D'.Runs x s Q') :
    (D.and D').Runs x s fun a s' => Q a s' ∧ Q' a s' := by
  unfold Runs at h h' ⊢
  cases hx : x s with
  | ok a s' =>
    rw [hx] at h h'
    exact ⟨⟨h.1, h'.1⟩, ⟨h.2.1, h'.2.1⟩, h.2.2, h'.2.2⟩
  | error e s' =>
    rw [hx] at h h'
    exact ⟨⟨h.1, h'.1⟩, ⟨h.2.1, h'.2.1⟩, h.2.2, h'.2.2⟩

/-- The discipline with one more condition on the states. -/
def pin (D : Discipline ε σ) (P : σ → Prop) : Discipline ε σ where
  inv s := D.inv s ∧ P s
  le := D.le
  fault := D.fault
  refl := D.refl
  trans := D.trans

/-- A condition that states keep as they grow may be added. -/
theorem Runs.pin {P : σ → Prop} {x : EStateM ε σ α} {s : σ} {Q : α → σ → Prop}
    (h : D.Runs x s Q) (hP : ∀ s', D.le s s' → P s') : (D.pin P).Runs x s Q := by
  have hweak : (D.pin P).Runs x s fun a s' => D.le s s' ∧ Q a s' :=
    h.weaken (fun s' hs' hle => ⟨hs', hP s' hle⟩) (fun _ hle => hle) fun _ _ _ he => he
  exact hweak.imp fun _ _ _ _ hQ => hQ.2

end Discipline

end ServiceContract
