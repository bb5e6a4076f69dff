import Mathlib.Algebra.Group.Nat.Defs
import Mathlib.Data.List.Nodup
import Mathlib.Data.List.Induction
import ServiceContract.Boundary.Client

/-!
# The scopes of a thread

A thread binds clients and drops guards in any order, while clients are made and other threads take
tokens from the counter. What happened is a history, and it alone says which scopes are open: those
that were opened and whose guards were not dropped since. As long as the counter has not come round,
no two guards have the same token. So the context holds exactly the open scopes, the newest first;
dropping a guard takes out its own scope, wherever it is; and a client calls and publishes under the
bindings of its last scope that is open.
-/

namespace ServiceContract

open Json (Value Members)

/-- What happens to the scopes of a thread. -/
inductive ScopeEvent where
  /-- A scope is opened for a client or a clone of it. Scopes are numbered in this order. -/
  | bind (client : Nat) (bindings : Bindings)
  /-- The guard of the scope with a number is dropped. -/
  | drop (scope : Nat)
  /-- Numbers are taken from the counter for clients or by other threads. -/
  | elsewhere (count : Nat)

/-- What happened to the scopes of a thread, the first event first. -/
abbrev ScopeHistory := List ScopeEvent

/-- A thread with its open scopes and the guards that it was given, the first one first. -/
structure ScopedThread where
  /-- The open scopes. -/
  context : Context
  /-- The guards. -/
  guards : List Guard

namespace ScopedThread

/-- A thread that no client was bound on. -/
def fresh : ScopedThread := ⟨.empty, []⟩

/-- One event. Only a guard that was given can be dropped. -/
def step (thread : ScopedThread) : ScopeEvent → ScopedThread
  | .bind client bindings =>
    let (guard, context) := thread.context.bind client bindings
    ⟨context, thread.guards ++ [guard]⟩
  | .drop scope =>
    match thread.guards[scope]? with
    | some guard => { thread with context := thread.context.drop guard }
    | none => thread
  | .elsewhere count => { thread with context := thread.context.skip count }

theorem step_drop (thread : ScopedThread) (n : Nat) : thread.step (.drop n) =
    match thread.guards[n]? with
    | some guard => { thread with context := thread.context.drop guard }
    | none => thread := rfl

end ScopedThread

namespace ScopeHistory

variable {history : ScopeHistory} {event : ScopeEvent} {thread : ScopedThread}
  {live : List (Nat × Scope)} {client n : Nat} {bindings : Bindings}

/-- The thread after a history. -/
def run (history : ScopeHistory) : ScopedThread := history.foldl ScopedThread.step .fresh

theorem run_append : run (history ++ [event]) = (run history).step event := by
  unfold run
  rw [List.foldl_append, List.foldl_cons, List.foldl_nil]

/-! ## What a history says -/

/-- How many numbers an event takes from the counter. -/
def numbersOf : ScopeEvent → Nat
  | .bind .. => 1
  | .drop _ => 0
  | .elsewhere count => count

/-- How many numbers were taken from the counter. -/
def numbersTaken : ScopeHistory → Nat
  | [] => 0
  | event :: rest => numbersOf event + numbersTaken rest

/-- The event opens a scope. -/
def opensScope : ScopeEvent → Bool
  | .bind .. => true
  | _ => false

/-- How many scopes were opened. -/
def scopeCount (history : ScopeHistory) : Nat := history.countP opensScope

/-- The scope with the number was opened for the client with these bindings, and its guard was not
dropped since. -/
def IsOpen (history : ScopeHistory) (n client : Nat) (bindings : Bindings) : Prop :=
  ∃ before after, history = before ++ .bind client bindings :: after ∧ scopeCount before = n ∧
    .drop n ∉ after

/-- It is the last of the client's scopes that are open. -/
def IsLast (history : ScopeHistory) (n client : Nat) (bindings : Bindings) : Prop :=
  history.IsOpen n client bindings ∧ ∀ m other, history.IsOpen m client other → m ≤ n

theorem numbersTaken_append :
    numbersTaken (history ++ [event]) = numbersTaken history + numbersOf event := by
  induction history with
  | nil => simp [numbersTaken]
  | cons first rest ih => rw [List.cons_append, numbersTaken, ih, numbersTaken, Nat.add_assoc]

theorem scopeCount_append :
    scopeCount (history ++ [event]) = scopeCount history + if opensScope event then 1 else 0 := by
  simp [scopeCount, List.countP_append, List.countP_singleton]

/-- After one more event the open scopes are those whose guard was not dropped by it, and the scope
that it opened. -/
theorem isOpen_append :
    IsOpen (history ++ [event]) n client bindings ↔
      history.IsOpen n client bindings ∧ event ≠ .drop n ∨
        event = .bind client bindings ∧ n = scopeCount history := by
  constructor
  · rintro ⟨before, after, hsplit, hcount, hkept⟩
    rcases List.eq_nil_or_concat after with rfl | ⟨earlier, last, rfl⟩
    · obtain ⟨rfl, hevent⟩ := List.append_inj' hsplit rfl
      exact .inr ⟨(List.cons.inj hevent).1, hcount.symm⟩
    · rw [List.concat_eq_append] at hsplit hkept
      have hsplit' : history ++ [event] = (before ++ .bind client bindings :: earlier) ++ [last] := by
        rw [hsplit, List.append_assoc, List.cons_append]
      obtain ⟨rfl, hevent⟩ := List.append_inj' hsplit' rfl
      obtain rfl : event = last := (List.cons.inj hevent).1
      rw [List.mem_append, List.mem_singleton, not_or] at hkept
      exact .inl ⟨⟨before, earlier, rfl, hcount, hkept.1⟩, fun h => hkept.2 h.symm⟩
  · rintro (⟨⟨before, after, rfl, hcount, hkept⟩, hother⟩ | ⟨rfl, rfl⟩)
    · refine ⟨before, after ++ [event], by simp, hcount, ?_⟩
      rw [List.mem_append, List.mem_singleton, not_or]
      exact ⟨hkept, fun h => hother h.symm⟩
    · exact ⟨history, [], rfl, rfl, List.not_mem_nil⟩

/-! ## Guards -/

/-- The guards that were given have different tokens, and the counter has gone through all of them. -/
structure Numbered (history : ScopeHistory) (thread : ScopedThread) : Prop where
  /-- The counter has gone through the numbers that were taken. -/
  next : thread.context.nextToken = .ofNat (1 + numbersTaken history)
  /-- A guard was given for each scope. -/
  count : thread.guards.length = scopeCount history
  /-- The tokens of the guards are numbers that were taken. -/
  taken : ∀ guard ∈ thread.guards, guard.token.toNat ≤ numbersTaken history
  /-- No two guards have the same token. -/
  nodup : thread.guards.Nodup

theorem Numbered.step (h : Numbered history thread)
    (hcount : numbersTaken (history ++ [event]) < 2 ^ 64) :
    Numbered (history ++ [event]) (thread.step event) := by
  rw [numbersTaken_append] at hcount
  cases event with
  | bind client bindings =>
    simp only [numbersOf] at hcount
    have hnext : thread.context.nextToken.toNat = 1 + numbersTaken history := by
      rw [h.next, UInt64.toNat_ofNat', Nat.mod_eq_of_lt (by omega)]
    have hnew : (⟨thread.context.nextToken⟩ : Guard) ∉ thread.guards := by
      intro hmem
      have hle : thread.context.nextToken.toNat ≤ numbersTaken history := h.taken _ hmem
      omega
    refine ⟨?_, ?_, ?_, ?_⟩
    · simp only [ScopedThread.step, Context.bind, numbersTaken_append, numbersOf, h.next]
      rw [← Nat.add_assoc, UInt64.ofNat_add _ 1]
      rfl
    · simp [ScopedThread.step, scopeCount_append, opensScope, h.count]
    · intro guard hguard
      rw [numbersTaken_append, numbersOf]
      simp only [ScopedThread.step, Context.bind, List.mem_append, List.mem_singleton] at hguard
      rcases hguard with hguard | rfl
      · have := h.taken guard hguard
        omega
      · rw [hnext]
        omega
    · simp only [ScopedThread.step, Context.bind]
      refine List.nodup_append.2 ⟨h.nodup, List.nodup_singleton _, ?_⟩
      intro old hold new hmem heq
      rw [List.mem_singleton.1 hmem] at heq
      exact hnew (heq ▸ hold)
  | drop scope =>
    have hsame : numbersTaken (history ++ [.drop scope]) = numbersTaken history := by
      simp [numbersTaken_append, numbersOf]
    have hscopes : scopeCount (history ++ [.drop scope]) = scopeCount history := by
      simp [scopeCount_append, opensScope]
    rw [ScopedThread.step_drop]
    split
    · exact ⟨hsame ▸ h.next, hscopes ▸ h.count, hsame ▸ h.taken, h.nodup⟩
    · exact ⟨hsame ▸ h.next, hscopes ▸ h.count, hsame ▸ h.taken, h.nodup⟩
  | elsewhere count =>
    refine ⟨?_, ?_, ?_, h.nodup⟩
    · simp only [ScopedThread.step, Context.skip, numbersTaken_append, numbersOf, h.next]
      rw [← Nat.add_assoc, UInt64.ofNat_add _ count]
    · simp [ScopedThread.step, scopeCount_append, opensScope, h.count]
    · intro guard hguard
      have := h.taken guard hguard
      rw [numbersTaken_append, numbersOf]
      omega

/-! ## Scopes -/

/-- The scopes of the context, with their numbers, are those that are open, the newest first, and each
has the token of its guard. -/
structure Tracks (history : ScopeHistory) (thread : ScopedThread) (live : List (Nat × Scope)) :
    Prop where
  /-- They are the scopes of the context. -/
  scopes : thread.context.scopes = live.map Prod.snd
  /-- The newest is the first. -/
  newestFirst : live.Pairwise fun newer older => older.1 < newer.1
  /-- They are those that are open. -/
  isOpen : ∀ n client bindings, history.IsOpen n client bindings ↔
    ∃ token, (n, ⟨client, token, bindings⟩) ∈ live
  /-- Each has the token of its guard. -/
  guards : ∀ entry ∈ live, thread.guards[entry.1]? = some ⟨entry.2.token⟩

/-- The scope with the token of a guard is the one with the guard's number. -/
theorem Tracks.token_eq (h : Tracks history thread live) (hnumbered : Numbered history thread)
    {guard : Guard} (hguard : thread.guards[n]? = some guard) :
    ∀ entry ∈ live, entry.2.token = guard.token ↔ entry.1 = n := by
  intro entry hentry
  have hown := h.guards entry hentry
  constructor
  · intro htoken
    have hlt : entry.1 < thread.guards.length := (List.getElem?_eq_some_iff.1 hown).1
    refine (List.getElem?_inj hlt hnumbered.nodup).1 ?_
    rw [hown, hguard, htoken]
  · intro hn
    rw [hn, hguard, Option.some.injEq] at hown
    rw [hown]

theorem filter_ne_eq_self (h : ∀ entry ∈ live, entry.1 ≠ n) :
    live.filter (fun entry => entry.1 ≠ n) = live := by
  rw [List.filter_eq_self]
  intro entry hentry
  simp [h entry hentry]

/-- Dropping a guard takes out the scope with its number. -/
theorem Tracks.drop_scopes (h : Tracks history thread live) (hnumbered : Numbered history thread)
    {guard : Guard} (hguard : thread.guards[n]? = some guard) :
    (thread.context.drop guard).scopes = (live.filter fun entry => entry.1 ≠ n).map Prod.snd := by
  have htoken := h.token_eq hnumbered hguard
  have hordered := h.newestFirst
  unfold Context.drop
  dsimp only
  rw [h.scopes]
  clear h
  induction live with
  | nil => rfl
  | cons entry rest ih =>
    obtain ⟨hlater, hrest⟩ := List.pairwise_cons.1 hordered
    rw [List.map_cons]
    by_cases hn : entry.1 = n
    · have hothers : ∀ other ∈ rest, other.1 ≠ n := by
        intro other hother
        have hlt := hlater other hother
        omega
      have heq := (htoken entry List.mem_cons_self).2 hn
      rw [List.eraseP_cons_of_pos (by simp [heq]), List.filter_cons_of_neg (by simp [hn]),
        filter_ne_eq_self hothers]
    · have hne := (htoken entry List.mem_cons_self).not.2 hn
      rw [List.eraseP_cons_of_neg (by simp [hne]), List.filter_cons_of_pos (by simp [hn]),
        List.map_cons, ih (fun other hother => htoken other (List.mem_cons_of_mem _ hother)) hrest]

/-- A scope that is opened is the newest. -/
theorem Tracks.bind (h : Tracks history thread live) (hnumbered : Numbered history thread)
    (client : Nat) (bindings : Bindings) :
    Tracks (history ++ [.bind client bindings]) (thread.step (.bind client bindings))
      ((scopeCount history, ⟨client, thread.context.nextToken, bindings⟩) :: live) := by
  have hlt : ∀ entry ∈ live, entry.1 < thread.guards.length := fun entry hentry =>
    (List.getElem?_eq_some_iff.1 (h.guards entry hentry)).1
  refine ⟨?_, ?_, ?_, ?_⟩
  · simp [ScopedThread.step, Context.bind, h.scopes]
  · refine List.pairwise_cons.2 ⟨fun entry hentry => ?_, h.newestFirst⟩
    rw [← hnumbered.count]
    exact hlt entry hentry
  · intro n other bound
    rw [isOpen_append, h.isOpen]
    simp only [List.mem_cons, Prod.mk.injEq, Scope.mk.injEq, ScopeEvent.bind.injEq, ne_eq, reduceCtorEq,
      not_false_eq_true, and_true]
    constructor
    · rintro (⟨token, hmem⟩ | ⟨⟨rfl, rfl⟩, rfl⟩)
      · exact ⟨token, .inr hmem⟩
      · exact ⟨_, .inl ⟨rfl, rfl, rfl, rfl⟩⟩
    · rintro ⟨token, ⟨rfl, rfl, rfl, rfl⟩ | hmem⟩
      · exact .inr ⟨⟨rfl, rfl⟩, rfl⟩
      · exact .inl ⟨token, hmem⟩
  · intro entry hentry
    simp only [ScopedThread.step, Context.bind]
    rcases List.mem_cons.1 hentry with rfl | hentry
    · rw [← hnumbered.count]
      exact List.getElem?_concat_length
    · rw [List.getElem?_append_left (hlt entry hentry)]
      exact h.guards entry hentry

/-- A guard that is dropped ends the scope with its number. -/
theorem Tracks.drop (h : Tracks history thread live) (hnumbered : Numbered history thread) (n : Nat) :
    Tracks (history ++ [.drop n]) (thread.step (.drop n)) (live.filter fun entry => entry.1 ≠ n) := by
  have hopen : ∀ m client bindings, IsOpen (history ++ [.drop n]) m client bindings ↔
      ∃ token, (m, ⟨client, token, bindings⟩) ∈ live.filter fun entry => entry.1 ≠ n := by
    intro m client bindings
    rw [isOpen_append, h.isOpen]
    simp only [List.mem_filter, ne_eq, ScopeEvent.drop.injEq, reduceCtorEq, false_and, or_false,
      decide_not, Bool.not_eq_true', decide_eq_false_iff_not, exists_and_right]
    exact and_congr_right fun _ => not_congr eq_comm
  refine ⟨?_, h.newestFirst.filter _, hopen, ?_⟩
  · rw [ScopedThread.step_drop]
    split
    · next guard hguard => exact h.drop_scopes hnumbered hguard
    · next hnone =>
      -- The guard was never given, so no scope has its number.
      have hall : ∀ entry ∈ live, entry.1 ≠ n := by
        intro entry hentry hn
        have hown := h.guards entry hentry
        rw [hn, hnone] at hown
        cases hown
      rw [filter_ne_eq_self hall]
      exact h.scopes
  · intro entry hentry
    have hown := h.guards entry (List.mem_of_mem_filter hentry)
    rw [ScopedThread.step_drop]
    split <;> exact hown

/-- Numbers that are taken elsewhere leave the scopes as they are. -/
theorem Tracks.elsewhere (h : Tracks history thread live) (count : Nat) :
    Tracks (history ++ [.elsewhere count]) (thread.step (.elsewhere count)) live := by
  refine ⟨h.scopes, h.newestFirst, fun n client bindings => ?_, h.guards⟩
  rw [isOpen_append, ← h.isOpen]
  simp

/-- After every history the context holds the scopes that are open. -/
theorem exists_tracks (history : ScopeHistory) (hcount : numbersTaken history < 2 ^ 64) :
    Numbered history (run history) ∧ ∃ live, Tracks history (run history) live := by
  induction history using List.reverseRecOn with
  | nil =>
    refine ⟨⟨rfl, rfl, fun guard hguard => ?_, List.nodup_nil⟩, [], rfl, .nil, ?_, ?_⟩
    · cases hguard
    · intro n client bindings
      constructor
      · rintro ⟨before, after, hsplit, -⟩
        simp at hsplit
      · rintro ⟨token, hmem⟩
        cases hmem
    · intro entry hentry
      cases hentry
  | append_singleton history event ih =>
    have hbefore : numbersTaken history < 2 ^ 64 := by
      rw [numbersTaken_append] at hcount
      omega
    obtain ⟨hnumbered, live, htracks⟩ := ih hbefore
    rw [run_append]
    refine ⟨hnumbered.step hcount, ?_⟩
    cases event with
    | bind client bindings => exact ⟨_, htracks.bind hnumbered client bindings⟩
    | drop n => exact ⟨_, htracks.drop hnumbered n⟩
    | elsewhere count => exact ⟨_, htracks.elsewhere count⟩

/-! ## What is active -/

/-- The first scope of a kind is the newest of the kind. -/
theorem Tracks.find?_eq_some (h : Tracks history thread live) {p : Nat × Scope → Bool}
    {entry : Nat × Scope} : live.find? p = some entry ↔
      entry ∈ live ∧ p entry = true ∧ ∀ other ∈ live, p other = true → other.1 ≤ entry.1 := by
  have hordered := h.newestFirst
  clear h
  induction live with
  | nil => simp
  | cons newest rest ih =>
    obtain ⟨hlater, hrest⟩ := List.pairwise_cons.1 hordered
    by_cases hp : p newest = true
    · rw [List.find?_cons_of_pos hp]
      constructor
      · intro heq
        obtain rfl := Option.some.inj heq
        refine ⟨List.mem_cons_self, hp, fun other hother _ => ?_⟩
        rcases List.mem_cons.1 hother with rfl | hother
        · exact Nat.le_refl _
        · exact Nat.le_of_lt (hlater other hother)
      · rintro ⟨hmem, -, hlast⟩
        rcases List.mem_cons.1 hmem with rfl | hmem
        · rfl
        · have hle := hlast newest List.mem_cons_self hp
          have hlt := hlater entry hmem
          omega
    · rw [List.find?_cons_of_neg hp]
      refine (ih hrest).trans ?_
      simp only [List.mem_cons, forall_eq_or_imp]
      constructor
      · rintro ⟨hmem, hentry, hlast⟩
        exact ⟨.inr hmem, hentry, fun h => absurd h hp, hlast⟩
      · rintro ⟨rfl | hmem, hentry, -, hlast⟩
        · exact absurd hentry hp
        · exact ⟨hmem, hentry, hlast⟩

/-- The first open scope of a client, with its number. -/
theorem Tracks.active_eq (h : Tracks history thread live) : thread.context.active client =
    (live.find? fun entry => entry.2.client == client).map fun entry => entry.2.bindings := by
  unfold Context.active
  rw [h.scopes, List.find?_map, Option.map_map]
  rfl

theorem Tracks.active_eq_some (h : Tracks history thread live) :
    thread.context.active client = some bindings ↔ ∃ n, history.IsLast n client bindings := by
  rw [h.active_eq, Option.map_eq_some_iff]
  constructor
  · rintro ⟨⟨n, found⟩, hfound, rfl⟩
    obtain ⟨hmem, hclient, hlast⟩ := h.find?_eq_some.1 hfound
    obtain rfl := eq_of_beq hclient
    refine ⟨n, (h.isOpen ..).2 ⟨found.token, hmem⟩, fun m other hother => ?_⟩
    obtain ⟨token, hmem⟩ := (h.isOpen ..).1 hother
    exact hlast _ hmem (beq_self_eq_true _)
  · rintro ⟨n, hopen, hlast⟩
    obtain ⟨token, hmem⟩ := (h.isOpen ..).1 hopen
    refine ⟨_, h.find?_eq_some.2 ⟨hmem, beq_self_eq_true _, ?_⟩, rfl⟩
    rintro ⟨m, other⟩ hother hclient
    obtain rfl := eq_of_beq hclient
    exact hlast m other.bindings ((h.isOpen ..).2 ⟨other.token, hother⟩)

theorem Tracks.active_eq_none (h : Tracks history thread live) :
    thread.context.active client = none ↔ ∀ n bindings, ¬ history.IsOpen n client bindings := by
  rw [h.active_eq, Option.map_eq_none_iff, List.find?_eq_none]
  constructor
  · intro hnone n bindings hopen
    obtain ⟨token, hmem⟩ := (h.isOpen ..).1 hopen
    exact hnone _ hmem (beq_self_eq_true _)
  · rintro hnone ⟨n, scope⟩ hmem hclient
    obtain rfl := eq_of_beq hclient
    exact hnone n scope.bindings ((h.isOpen ..).2 ⟨scope.token, hmem⟩)

/-! ## What a drop takes out -/

/-- The guard of an open scope takes out that scope and nothing else. -/
theorem Tracks.drop_isOpen (h : Tracks history thread live) (hnumbered : Numbered history thread)
    (hopen : history.IsOpen n client bindings) : ∃ token inner outer,
      thread.guards[n]? = some ⟨token⟩ ∧
      thread.context.scopes = inner ++ ⟨client, token, bindings⟩ :: outer ∧
      (thread.step (.drop n)).context.scopes = inner ++ outer ∧
      ∀ scope ∈ inner ++ outer, scope.token ≠ token := by
  obtain ⟨token, hmem⟩ := (h.isOpen ..).1 hopen
  have hguard : thread.guards[n]? = some ⟨token⟩ := h.guards _ hmem
  have hdrop := h.drop_scopes hnumbered hguard
  have htoken := h.token_eq hnumbered hguard
  obtain ⟨newer, older, rfl⟩ := List.append_of_mem hmem
  obtain ⟨-, hfirst, hnewer⟩ := List.pairwise_append.1 h.newestFirst
  obtain ⟨holder, -⟩ := List.pairwise_cons.1 hfirst
  have hothers : ∀ entry ∈ newer ++ older, entry.1 ≠ n := by
    intro entry hentry
    rcases List.mem_append.1 hentry with hentry | hentry
    · have hlt := hnewer entry hentry _ List.mem_cons_self
      dsimp only at hlt
      omega
    · have hlt := holder entry hentry
      dsimp only at hlt
      omega
  have hkept : (newer ++ (n, ⟨client, token, bindings⟩) :: older).filter (fun entry => entry.1 ≠ n) =
      newer ++ older := by
    rw [List.filter_append, List.filter_cons_of_neg (by simp), ← List.filter_append,
      filter_ne_eq_self hothers]
  refine ⟨token, newer.map Prod.snd, older.map Prod.snd, hguard, ?_, ?_, ?_⟩
  · rw [h.scopes, List.map_append, List.map_cons]
  · rw [ScopedThread.step_drop, hguard]
    dsimp only
    rw [hdrop, hkept, List.map_append]
  · intro scope hscope
    rw [← List.map_append, List.mem_map] at hscope
    obtain ⟨entry, hentry, rfl⟩ := hscope
    have hlive : entry ∈ newer ++ (n, ⟨client, token, bindings⟩) :: older := by
      rw [List.mem_append] at hentry ⊢
      exact hentry.imp_right (List.mem_cons_of_mem _)
    exact (htoken entry hlive).not.2 (hothers entry hentry)

/-- The guard of a scope that is not open takes out nothing. -/
theorem Tracks.drop_not_isOpen (h : Tracks history thread live) (hnumbered : Numbered history thread)
    (hclosed : ∀ client bindings, ¬ history.IsOpen n client bindings) :
    thread.step (.drop n) = thread := by
  rw [ScopedThread.step_drop]
  split
  · next guard hguard =>
    have hothers : ∀ entry ∈ live, entry.1 ≠ n := by
      rintro ⟨m, scope⟩ hentry rfl
      exact hclosed scope.client scope.bindings ((h.isOpen ..).2 ⟨scope.token, hentry⟩)
    have hsame : (thread.context.drop guard).scopes = thread.context.scopes := by
      rw [h.drop_scopes hnumbered hguard, filter_ne_eq_self hothers, h.scopes]
    have hcontext : thread.context.drop guard = thread.context := congrArg (Context.mk · _) hsame
    rw [hcontext]
  · rfl

end ScopeHistory

/-! ## Calls under the active bindings -/

namespace Client

variable {σ : Type} {client : Client σ} {context : Context} {bindings : Bindings} {name : String}

theorem requireActive_of_some (h : context.active client.id = some bindings) :
    client.requireActive context name = .ok bindings := by
  rw [requireActive, h]

theorem requireActive_of_none (h : context.active client.id = none) :
    client.requireActive context name = .error (.unbound name) := by
  rw [requireActive, h]

/-- A client that is bound calls and publishes under its bindings, whatever other scopes there are. -/
theorem calls_of_active (h : context.active client.id = some bindings) (arguments : Members)
    (payload : Value) :
    client.call context name arguments = client.callWith bindings name arguments ∧
    (∀ invoke nanoseconds token next,
      client.callWithin context invoke nanoseconds name arguments =
        client.callWithin ⟨[⟨client.id, token, bindings⟩], next⟩ invoke nanoseconds name
          arguments) ∧
    client.publish context name payload = client.publishWith bindings name payload := by
  have hactive : client.requireActive context name = .ok bindings := requireActive_of_some h
  refine ⟨?_, fun invoke nanoseconds token next => ?_, ?_⟩
  · unfold call
    rw [hactive]
    rfl
  · have honly : client.requireActive ⟨[⟨client.id, token, bindings⟩], next⟩ name = .ok bindings :=
      requireActive_of_some (by simp [Context.active])
    unfold callWithin
    rw [hactive, honly]
  · unfold publish
    rw [hactive]
    rfl

/-- A client that is not bound neither calls nor publishes. -/
theorem unbound_of_inactive (h : context.active client.id = none) (arguments : Members)
    (payload : Value) :
    client.call context name arguments = throw (.unbound name) ∧
    (∀ invoke nanoseconds,
      client.callWithin context invoke nanoseconds name arguments = throw (.unbound name)) ∧
    client.publish context name payload = throw (.unbound name) := by
  have hactive : client.requireActive context name = .error (.unbound name) :=
    requireActive_of_none h
  refine ⟨?_, fun invoke nanoseconds => ?_, ?_⟩
  · unfold call
    rw [hactive]
    rfl
  · unfold callWithin
    rw [hactive]
    rfl
  · unfold publish
    rw [hactive]
    rfl

end Client

/-- As long as fewer than 2^64 numbers were taken: a client is bound to the bindings of its last scope
that is open, and to none when none of its scopes is open; dropping a guard takes out its own scope
and keeps the others in their order; and a client calls and publishes under exactly the bindings that
it is bound to. -/
theorem scopes_follow_history (history : ScopeHistory) (hcount : history.numbersTaken < 2 ^ 64) :
    (∀ client bindings, history.run.context.active client = some bindings ↔
      ∃ n, history.IsLast n client bindings) ∧
    (∀ client, history.run.context.active client = none ↔
      ∀ n bindings, ¬ history.IsOpen n client bindings) ∧
    (∀ n client bindings, history.IsOpen n client bindings → ∃ token inner outer,
      history.run.guards[n]? = some ⟨token⟩ ∧
      history.run.context.scopes = inner ++ ⟨client, token, bindings⟩ :: outer ∧
      (ScopeHistory.run (history ++ [.drop n])).context.scopes = inner ++ outer ∧
      ∀ scope ∈ inner ++ outer, scope.token ≠ token) ∧
    (∀ n, (∀ client bindings, ¬ history.IsOpen n client bindings) →
      ScopeHistory.run (history ++ [.drop n]) = history.run) ∧
    (∀ (σ : Type) (client : Client σ) (n : Nat) (bindings : Bindings),
      history.IsLast n client.id bindings → ∀ name arguments payload,
        client.call history.run.context name arguments =
          client.callWith bindings name arguments ∧
        (∀ invoke nanoseconds token next,
          client.callWithin history.run.context invoke nanoseconds name arguments =
            client.callWithin ⟨[⟨client.id, token, bindings⟩], next⟩ invoke nanoseconds name
              arguments) ∧
        client.publish history.run.context name payload =
          client.publishWith bindings name payload) ∧
    ∀ (σ : Type) (client : Client σ), (∀ n bindings, ¬ history.IsOpen n client.id bindings) →
      ∀ name arguments payload,
        client.call history.run.context name arguments = throw (.unbound name) ∧
        (∀ invoke nanoseconds, client.callWithin history.run.context invoke nanoseconds name
          arguments = throw (.unbound name)) ∧
        client.publish history.run.context name payload = throw (.unbound name) := by
  obtain ⟨hnumbered, live, htracks⟩ := ScopeHistory.exists_tracks history hcount
  refine ⟨fun client bindings => htracks.active_eq_some, fun client => htracks.active_eq_none,
    fun n client bindings hopen => ?_, fun n hclosed => ?_, ?_, ?_⟩
  · rw [ScopeHistory.run_append]
    exact htracks.drop_isOpen hnumbered hopen
  · rw [ScopeHistory.run_append]
    exact htracks.drop_not_isOpen hnumbered hclosed
  · intro σ client n bindings hlast name arguments payload
    exact Client.calls_of_active (htracks.active_eq_some.2 ⟨n, hlast⟩) arguments payload
  · intro σ client hnone name arguments payload
    exact Client.unbound_of_inactive (htracks.active_eq_none.2 hnone) arguments payload

/-- Two clients are bound in turn, and the guard that came first is the first to be dropped. -/
def crosswise : ScopeHistory :=
  [.bind 1 (Bindings.empty.withFunction "add" "first"), .elsewhere 2,
    .bind 2 (Bindings.empty.withFunction "add" "second"),
    .bind 1 (Bindings.empty.withFunction "add" "third"), .drop 0]

theorem scopes_follow_history_crosswise : crosswise.numbersTaken < 2 ^ 64 ∧
    (∃ n, crosswise.IsLast n 1 (Bindings.empty.withFunction "add" "third")) ∧
    (∃ n, crosswise.IsLast n 2 (Bindings.empty.withFunction "add" "second")) ∧
    ∀ n bindings, ¬ ScopeHistory.IsOpen (crosswise ++ [.drop 2]) n 1 bindings := by
  have hcount : crosswise.numbersTaken < 2 ^ 64 := by decide
  have hlast : ScopeHistory.numbersTaken (crosswise ++ [.drop 2]) < 2 ^ 64 := by decide
  obtain ⟨hactive, -⟩ := scopes_follow_history crosswise hcount
  obtain ⟨-, hnone, -⟩ := scopes_follow_history (crosswise ++ [.drop 2]) hlast
  exact ⟨hcount, (hactive 1 _).1 (by decide), (hactive 2 _).1 (by decide), (hnone 1).1 (by decide)⟩

end ServiceContract
