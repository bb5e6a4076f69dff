import ServiceContract.Proofs.Boundary.Serving
import ServiceContract.Proofs.Document.Identity

/-!
# Registration and routing

Handlers are registered with a dispatcher one after the other, and the first that is refused ends the
registration. So what a dispatcher holds is what was registered, each handler under its name and under
no other, and a request runs no handler but the one that was registered for its function.
-/

namespace ServiceContract

open Json (Value Members)
open Client (ofExcept)

variable {σ : Type}

/-- The names of the functions that an interface declares, in the order of declaration. -/
def Interface.declared (i : Interface) : List String := i.functions.map Function.name

/-- Handlers by the names they are to be registered under, in the order of registration. -/
abbrev Registrations (σ : Type) := List (String × Handler σ)

namespace Registrations

/-- The names that handlers are registered under. -/
def names (registrations : Registrations σ) : List String := registrations.map Prod.fst

/-- The handlers with a common record, of the name and of the arguments of each run. -/
def logged (registrations : Registrations σ) : Registrations (σ × List (String × Members)) :=
  registrations.map fun (name, handler) => (name, handler.traced fun arguments => (name, arguments))

end Registrations

namespace Dispatcher

/-- Registers handlers with a new dispatcher, one after the other. -/
def registering (contract : Contract) (registrations : Registrations σ) :
    Except Error (Dispatcher σ) :=
  registrations.foldlM (fun dispatcher (name, handler) => dispatcher.withFunction name handler)
    (new contract)

/-- How one more registration ends, where handlers are registered under the given names. -/
structure Registers (declared registered : List String) (name : String)
    (outcome : Except Error (Dispatcher σ)) : Prop where
  /-- It succeeds for the declared functions that have no handler, and only for them. -/
  succeeds : (∃ extended, outcome = .ok extended) ↔ name ∈ declared ∧ name ∉ registered
  /-- A second handler is refused. -/
  repeated : name ∈ registered → outcome = .error (.config s!"function '{name}' already has a handler")
  /-- So is a function that is not declared. -/
  undeclared : name ∉ declared → outcome = .error (.unknownFunction name)

/-- How a request for a function may end, with the state that is left and with the name and the
arguments of each run of a handler. -/
inductive Answers (contract : Contract) (registrations : Registrations σ) (name : String)
    (payload : Payload) (s : σ) : Except Error Value → σ → List (String × Members) → Prop where
  /-- The function is not declared. -/
  | undeclared (h : name ∉ contract.interface.declared) :
      Answers contract registrations name payload s (.error (.unknownFunction name)) s []
  /-- It is declared, and nothing is registered for it. -/
  | unhandled (hdeclared : name ∈ contract.interface.declared) (h : name ∉ registrations.names) :
      Answers contract registrations name payload s
        (.error (.handler s!"no handler registered for '{name}'")) s []
  /-- The handler that is registered for it answers, and whatever runs is this handler. -/
  | handled {function : FunctionContract} {handler : Handler σ} {r : Except Error Value} {s' : σ}
      {runs : List Members} (hdeclared : contract.function name = .ok function)
      (hregistered : (name, handler) ∈ registrations)
      (h : Served function handler payload s r s' runs) :
      Answers contract registrations name payload s r s' (runs.map fun arguments => (name, arguments))

/-! ## What is declared -/

theorem function_ok_iff {i : Interface} {maxDepth : Nat} {name : String} :
    (∃ function, (Contract.ofInterface i maxDepth).function name = .ok function) ↔
      name ∈ i.declared := by
  rw [Contract.function_ofInterface]
  unfold Interface.declared Interface.function?
  constructor
  · rintro ⟨function, h⟩
    cases hfind : i.functions.find? fun f => f.name == name with
    | none =>
      rw [hfind] at h
      cases h
    | some f =>
      have hname : f.name = name := by simpa using List.find?_some hfind
      exact hname ▸ List.mem_map_of_mem (List.mem_of_find?_eq_some hfind)
  · intro h
    cases hfind : i.functions.find? fun f => f.name == name with
    | none => exact absurd h (find?_name_eq_none.1 hfind)
    | some f => exact ⟨_, rfl⟩

theorem function_of_not_declared {i : Interface} {maxDepth : Nat} {name : String}
    (h : name ∉ i.declared) :
    (Contract.ofInterface i maxDepth).function name = .error (.unknownFunction name) := by
  cases hfunction : (Contract.ofInterface i maxDepth).function name with
  | ok function => exact absurd (function_ok_iff.1 ⟨function, hfunction⟩) h
  | error e => rw [Contract.function_error hfunction]

/-! ## What is registered -/

/-- A dispatcher of the contract that holds what was registered. -/
structure Holds (contract : Contract) (registrations : Registrations σ) (dispatcher : Dispatcher σ) :
    Prop where
  dispatches : dispatcher.Over contract
  handlers : ∀ name, dispatcher.handler? name = registrations.lookup name

section Holding

variable {contract : Contract} {registrations : Registrations σ} {dispatcher : Dispatcher σ}
  {name : String}

theorem Holds.lookup_eq_none (h : dispatcher.Holds contract registrations) :
    dispatcher.entries.lookup name = none ↔ name ∉ registrations.names := by
  unfold Registrations.names
  rw [← ServiceContract.lookup_eq_none, ← h.handlers name, handler?, Option.map_eq_none_iff]

/-- What is registered is declared. -/
theorem Holds.function (h : dispatcher.Holds contract registrations) (hname : name ∈ registrations.names) :
    ∃ function, contract.function name = .ok function := by
  cases hlookup : dispatcher.entries.lookup name with
  | none => exact absurd hname (h.lookup_eq_none.1 hlookup)
  | some entry => exact ⟨entry.function, h.dispatches.entries.2 name entry hlookup⟩

/-- One more registration ends by the names that are declared and registered. -/
theorem Holds.registers {i : Interface} {maxDepth : Nat}
    (h : dispatcher.Holds (.ofInterface i maxDepth) registrations) (name : String)
    (handler : Handler σ) :
    Registers i.declared registrations.names name (dispatcher.withFunction name handler) := by
  have hcontract := h.dispatches.entries.1
  by_cases hregistered : name ∈ registrations.names
  · have hdeclared : name ∈ i.declared := function_ok_iff.1 (h.function hregistered)
    have hoccupied : (dispatcher.entries.lookup name).isSome = true := by
      rw [Option.isSome_iff_ne_none]
      exact fun hnone => h.lookup_eq_none.1 hnone hregistered
    have houtcome : dispatcher.withFunction name handler =
        .error (.config s!"function '{name}' already has a handler") := by
      unfold withFunction
      rw [if_pos hoccupied]
    rw [houtcome]
    exact ⟨⟨nofun, fun hfree => absurd hregistered hfree.2⟩, fun _ => rfl, fun hno => absurd hdeclared hno⟩
  · have hfree : ¬ (dispatcher.entries.lookup name).isSome = true := by
      rw [h.lookup_eq_none.2 hregistered]
      exact Bool.false_ne_true
    unfold withFunction EntryPoint.new
    rw [if_neg hfree, hcontract]
    by_cases hdeclared : name ∈ i.declared
    · obtain ⟨function, hfunction⟩ := (@function_ok_iff i maxDepth name).2 hdeclared
      rw [hfunction]
      exact ⟨⟨fun _ => ⟨hdeclared, hregistered⟩, fun _ => ⟨_, rfl⟩⟩, fun hyes => absurd hyes hregistered,
        fun hno => absurd hdeclared hno⟩
    · rw [function_of_not_declared hdeclared]
      exact ⟨⟨nofun, fun hyes => absurd hyes.1 hdeclared⟩, fun hyes => absurd hyes hregistered,
        fun _ => rfl⟩

/-- A registration adds its handler, under its name only. -/
theorem Holds.withFunction {handler : Handler σ} {extended : Dispatcher σ}
    (h : dispatcher.Holds contract registrations)
    (hadd : dispatcher.withFunction name handler = .ok extended) :
    extended.Holds contract (registrations ++ [(name, handler)]) := by
  refine ⟨h.dispatches.withFunction hadd, fun key => ?_⟩
  have hfree : dispatcher.entries.lookup name = none := by
    unfold Dispatcher.withFunction at hadd
    split at hadd
    · cases hadd
    next hnone => exact Option.not_isSome_iff_eq_none.1 hnone
  have hunregistered : registrations.lookup name = none := by
    rw [← h.handlers, handler?, hfree]
    rfl
  obtain ⟨function, -, rfl⟩ := withFunction_ok hadd
  rw [handler?, lookup_putEntry, List.lookup_append, lookup_cons]
  by_cases hkey : key = name
  · subst hkey
    rw [if_pos rfl, if_pos rfl, hunregistered]
    rfl
  · rw [if_neg hkey, if_neg hkey, ← h.handlers key]
    simp [handler?]

/-! ## Sequences of registrations -/

theorem registering_concat {handler : Handler σ} :
    registering contract (registrations ++ [(name, handler)]) =
      registering contract registrations >>= fun dispatcher => dispatcher.withFunction name handler := by
  unfold registering
  rw [List.foldlM_append]
  refine bind_congr fun dispatcher => ?_
  rw [List.foldlM_cons]
  exact bind_pure _

/-- A dispatcher holds what was registered with it. -/
theorem holds_of_registering (h : registering contract registrations = .ok dispatcher) :
    dispatcher.Holds contract registrations := by
  induction registrations using List.reverseRecOn generalizing dispatcher with
  | nil =>
    cases h
    exact ⟨.new, fun _ => rfl⟩
  | append_singleton earlier registration ih =>
    obtain ⟨name, handler⟩ := registration
    rw [registering_concat] at h
    cases hearlier : registering contract earlier with
    | error e =>
      rw [hearlier] at h
      cases h
    | ok before =>
      rw [hearlier] at h
      exact (ih hearlier).withFunction h

/-- Handlers are registered one after the other exactly if each of the names is declared and none comes
twice. -/
theorem registering_ok_iff {i : Interface} {maxDepth : Nat} :
    (∃ dispatcher, registering (.ofInterface i maxDepth) registrations = .ok dispatcher) ↔
      registrations.names.Nodup ∧ ∀ name ∈ registrations.names, name ∈ i.declared := by
  induction registrations using List.reverseRecOn with
  | nil => exact ⟨fun _ => ⟨List.nodup_nil, nofun⟩, fun _ => ⟨_, rfl⟩⟩
  | append_singleton earlier registration ih =>
    obtain ⟨name, handler⟩ := registration
    have hnames : Registrations.names (earlier ++ [(name, handler)]) =
        Registrations.names earlier ++ [name] := List.map_append
    rw [registering_concat, hnames, List.nodup_append]
    cases hearlier : registering (.ofInterface i maxDepth) earlier with
    | error e =>
      rw [hearlier] at ih
      refine ⟨nofun, fun h => absurd (ih.2 ⟨h.1.1, fun key hkey => ?_⟩) nofun⟩
      exact h.2 key (List.mem_append_left _ hkey)
    | ok before =>
      have hstep := ((holds_of_registering hearlier).registers name handler).succeeds
      obtain ⟨hnodup, hdeclared⟩ := ih.1 ⟨before, hearlier⟩
      show (∃ dispatcher, before.withFunction name handler = .ok dispatcher) ↔ _
      rw [hstep]
      simp only [List.mem_append, List.mem_singleton]
      constructor
      · rintro ⟨hyes, hnew⟩
        refine ⟨⟨hnodup, List.nodup_singleton name, ?_⟩, ?_⟩
        · rintro key hkey _ rfl rfl
          exact hnew hkey
        · rintro key (hkey | rfl)
          · exact hdeclared key hkey
          · exact hyes
      · rintro ⟨⟨-, -, hdistinct⟩, hall⟩
        exact ⟨hall name (.inr rfl), fun hkey => hdistinct name hkey name rfl rfl⟩

end Holding

/-! ## Requests -/

theorem names_logged {registrations : Registrations σ} :
    registrations.logged.names = registrations.names := by
  unfold Registrations.logged Registrations.names
  rw [List.map_map]
  rfl

theorem lookup_logged {registrations : Registrations σ} {name : String} :
    registrations.logged.lookup name =
      (registrations.lookup name).map (Handler.traced fun arguments => (name, arguments)) := by
  unfold Registrations.logged
  induction registrations with
  | nil => rfl
  | cons registration rest ih =>
    obtain ⟨key, handler⟩ := registration
    rw [List.map_cons, lookup_cons, lookup_cons, ih]
    by_cases hname : name = key
    · rw [if_pos hname, if_pos hname, hname]
      rfl
    · rw [if_neg hname, if_neg hname]

/-- The handler of a function answers its requests, and no other handler runs. -/
theorem Holds.answers {i : Interface} {maxDepth : Nat} {registrations : Registrations σ}
    {dispatcher : Dispatcher σ} {logging : Dispatcher (σ × List (String × Members))}
    (h : dispatcher.Holds (.ofInterface i maxDepth) registrations)
    (hlogging : logging.Holds (.ofInterface i maxDepth) registrations.logged)
    (name : String) (payload : Payload) (s : σ) (log : List (String × Members)) :
    ∃ r s' runs, dispatcher.dispatch name payload s = ofExcept r s' ∧
      logging.dispatch name payload (s, log) = ofExcept r (s', log ++ runs) ∧
      Answers (.ofInterface i maxDepth) registrations name payload s r s' runs := by
  have hcontract := h.dispatches.entries.1
  have hcontract' := hlogging.dispatches.entries.1
  by_cases hdeclared : name ∈ i.declared
  · obtain ⟨function, hfunction⟩ := (@function_ok_iff i maxDepth name).2 hdeclared
    cases hlookup : registrations.lookup name with
    | none =>
      have hunregistered : name ∉ registrations.names := ServiceContract.lookup_eq_none.1 hlookup
      have hnone := h.lookup_eq_none.2 hunregistered
      have hnone' := hlogging.lookup_eq_none.2 (names_logged ▸ hunregistered)
      refine ⟨_, s, [], ?_, ?_, .unhandled hdeclared hunregistered⟩
      · unfold dispatch entry
        rw [hcontract, hfunction, hnone]
        rfl
      · unfold dispatch entry
        rw [hcontract', hfunction, hnone', List.append_nil]
        rfl
    | some handler =>
      have hentry := h.dispatches.entry hfunction ((h.handlers name).trans hlookup)
      have hentry' := hlogging.dispatches.entry hfunction
        ((hlogging.handlers name).trans (lookup_logged.trans (congrArg _ hlookup)))
      obtain ⟨r, s', runs, hplain, htraced, hserved⟩ := EntryPoint.handle_traced
        (fun arguments => (name, arguments)) function handler payload s log
      refine ⟨r, s', _, ?_, ?_, .handled hfunction (mem_of_lookup hlookup) hserved⟩
      · unfold dispatch
        rw [hentry]
        exact hplain
      · unfold dispatch
        rw [hentry']
        exact htraced
  · have hunknown := @function_of_not_declared i maxDepth name hdeclared
    refine ⟨_, s, [], ?_, ?_, .undeclared hdeclared⟩
    · unfold dispatch entry
      rw [hcontract, hunknown]
      rfl
    · unfold dispatch entry
      rw [hcontract', hunknown, List.append_nil]
      rfl

/-- Handlers are registered one after the other exactly if their functions are declared and none comes
twice. The dispatcher that is made takes one more handler for the declared functions that have none and
for no other; these are the ones it reports as missing, in the order of declaration; and it answers a
request by the handler that was registered under the very name. A function that is not declared is
unknown, and one without a handler is answered by an error, with no handler run for either. -/
theorem routes_by_name (i : Interface) (maxDepth : Nat) (registrations : Registrations σ) :
    ((∃ dispatcher, registering (.ofInterface i maxDepth) registrations = .ok dispatcher) ↔
      registrations.names.Nodup ∧ ∀ name ∈ registrations.names, name ∈ i.declared) ∧
    ∀ dispatcher, registering (.ofInterface i maxDepth) registrations = .ok dispatcher →
      (∀ name handler, Registers i.declared registrations.names name
        (dispatcher.withFunction name handler)) ∧
      dispatcher.missing = i.declared.filter (fun name => decide (name ∉ registrations.names)) ∧
      ∃ logging, registering (.ofInterface i maxDepth) registrations.logged = .ok logging ∧
        ∀ name payload s log, ∃ r s' runs,
          dispatcher.dispatch name payload s = ofExcept r s' ∧
          logging.dispatch name payload (s, log) = ofExcept r (s', log ++ runs) ∧
          Answers (.ofInterface i maxDepth) registrations name payload s r s' runs := by
  refine ⟨registering_ok_iff, fun dispatcher h => ?_⟩
  have hholds := holds_of_registering h
  refine ⟨hholds.registers, ?_, ?_⟩
  · unfold missing
    rw [hholds.dispatches.entries.1]
    refine List.filter_congr fun name _ => ?_
    rw [Bool.eq_iff_iff, Option.isNone_iff_eq_none, hholds.lookup_eq_none, decide_eq_true_iff]
  · -- Success depends on the names only, which are the same with the record.
    have hnames := registering_ok_iff.1 ⟨dispatcher, h⟩
    obtain ⟨logging, hlogging⟩ :=
      (@registering_ok_iff _ registrations.logged i maxDepth).2 (names_logged.symm ▸ hnames)
    exact ⟨logging, hlogging, hholds.answers (holds_of_registering hlogging)⟩

/-- With its only function registered the sample misses none, takes no second handler for it, and answers
that another function is unknown. -/
theorem routes_by_name_echo :
    ∃ dispatcher, registering Sample.echo [("echo", Sample.echoing)] = .ok dispatcher ∧
      dispatcher.missing = [] ∧
      dispatcher.withFunction "echo" Sample.echoing =
        .error (.config "function 'echo' already has a handler") ∧
      ∀ payload s, dispatcher.dispatch "sing" payload s = .error (.unknownFunction "sing") s := by
  have hdeclared : Sample.echo.interface.declared = ["echo"] := rfl
  have hecho : ∀ name ∈ Registrations.names [("echo", Sample.echoing)],
      name ∈ Sample.echo.interface.declared := fun _ => id
  have hsing : "sing" ∉ Sample.echo.interface.declared := by
    rw [hdeclared]
    decide
  obtain ⟨hsucceeds, hroutes⟩ :=
    routes_by_name Sample.echo.interface defaultMaxDepth [("echo", Sample.echoing)]
  obtain ⟨dispatcher, hdispatcher⟩ := hsucceeds.2 ⟨List.nodup_singleton _, hecho⟩
  obtain ⟨hregisters, hmissing, logging, -, hanswers⟩ := hroutes dispatcher hdispatcher
  refine ⟨dispatcher, hdispatcher, ?_, ?_, fun payload s => ?_⟩
  · rw [hmissing, hdeclared]
    rfl
  · exact (hregisters "echo" Sample.echoing).repeated (List.mem_singleton.2 rfl)
  · obtain ⟨r, s', runs, hdispatch, -, hends⟩ := hanswers "sing" payload s []
    rw [hdispatch]
    cases hends with
    | undeclared => rfl
    | unhandled hyes => exact absurd hyes hsing
    | handled hyes => exact absurd (function_ok_iff.1 ⟨_, hyes⟩) hsing

end Dispatcher

end ServiceContract
