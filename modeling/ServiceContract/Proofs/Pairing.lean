import Mathlib.Data.List.Forall2

/-!
# Computations that go together

Two programs of the same shape are compared step by step. What it means that two computations go
together is left open here; it has to hold of computations that only return the same result, and of
sequences whose steps go together. Then it holds of all loops over the same list.
-/

namespace ServiceContract

/-- Computations in two monads that go together. -/
structure Pairing (m n : Type → Type) [Monad m] [Monad n] where
  /-- They go together. -/
  pairs : {α : Type} → m α → n α → Prop
  /-- Those that return the same result do. -/
  pure : ∀ {α : Type} (a : α), pairs (Pure.pure a) (Pure.pure a)
  /-- Those that take steps which go together do. -/
  bind : ∀ {α β : Type} {x : m α} {y : n α} {f : α → m β} {g : α → n β}, pairs x y →
    (∀ a, pairs (f a) (g a)) → pairs (x >>= f) (y >>= g)

namespace Pairing

variable {m n : Type → Type} [Monad m] [Monad n] {α β : Type} (P : Pairing m n)

theorem map {x : m α} {y : n α} {f : α → β} (h : P.pairs x y) :
    P.pairs (do return f (← x)) (do return f (← y)) :=
  P.bind h fun a => P.pure (f a)

theorem mapM [LawfulMonad m] [LawfulMonad n] {f : α → m β} {g : α → n β} {l : List α}
    (hfg : ∀ a ∈ l, P.pairs (f a) (g a)) : P.pairs (l.mapM f) (l.mapM g) := by
  induction l with
  | nil => exact P.pure []
  | cons a l ih =>
    rw [List.mapM_cons, List.mapM_cons]
    refine P.bind (hfg a (List.mem_cons_self ..)) fun b => ?_
    exact P.map (ih fun a ha => hfg a (List.mem_cons_of_mem _ ha))

theorem forM {f : α → m PUnit} {g : α → n PUnit} {l : List α}
    (hfg : ∀ a ∈ l, P.pairs (f a) (g a)) : P.pairs (l.forM f) (l.forM g) := by
  induction l with
  | nil => exact P.pure _
  | cons a l ih =>
    refine P.bind (hfg a (List.mem_cons_self ..)) fun _ => ?_
    exact ih fun a ha => hfg a (List.mem_cons_of_mem _ ha)

end Pairing

end ServiceContract
