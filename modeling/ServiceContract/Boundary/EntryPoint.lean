import ServiceContract.Boundary.Client

/-!
# The implementing side of functions

An entry point wraps the handler of one declared function. The handler runs only on arguments that
the contract accepts, and its result is checked before it leaves. A dispatcher holds one entry point
for each function that has a handler and answers requests by function name, so it can stand in for
a remote side: the endpoint is then the name of the function.
-/

namespace ServiceContract

open Json (Value Members)

/-- Implements a function, with a state of any kind. -/
abbrev Handler (σ : Type) := Members → EStateM Error σ Value

/-- The handler of a declared function. -/
structure EntryPoint (σ : Type) where
  /-- The checks of the function. -/
  function : FunctionContract
  /-- What runs. -/
  handler : Handler σ

namespace EntryPoint

variable {σ : Type}

/-- Wraps a handler for a function that the contract declares. -/
def new (contract : Contract) (name : String) (handler : Handler σ) :
    Except Error (EntryPoint σ) := do
  return ⟨← contract.function name, handler⟩

/-- Checks the arguments, runs the handler and checks its result. Where no result is declared the
answer is null. -/
def invoke (entry : EntryPoint σ) (arguments : Members) : EStateM Error σ Value := do
  Client.ofExcept (entry.function.checkArguments arguments)
  let value ← entry.handler arguments
  if entry.function.returns.isNone then return .null
  match entry.function.checkResult value with
  | .ok () => return value
  | .error violation => throw (.contractViolation entry.function.name violation)

/-- Answers a raw request. -/
def handle (entry : EntryPoint σ) (payload : Payload) : EStateM Error σ Value := do
  entry.invoke (← Client.ofExcept (decodeArguments payload))

/-- The envelope for the outcome of a step, which never fails. -/
def enveloped (step : EStateM Error σ Value) : StateM σ Payload := fun state =>
  match step state with
  | .ok value state => ((Response.result value).encode, state)
  | .error e state => ((Response.ofError e).encode, state)

/-- Answers a raw request by an envelope. -/
def respond (entry : EntryPoint σ) (payload : Payload) : StateM σ Payload :=
  enveloped (entry.handle payload)

end EntryPoint

/-- The entry points of a contract by function name. -/
structure Dispatcher (σ : Type) where
  /-- The contract. -/
  contract : Contract
  /-- The entry points, in the order of the names. -/
  entries : List (String × EntryPoint σ)

namespace Dispatcher

variable {σ : Type}

/-- A dispatcher without handlers. -/
def new (contract : Contract) : Dispatcher σ := ⟨contract, []⟩

/-- Registers the handler of a declared function that has none yet. -/
def withFunction (dispatcher : Dispatcher σ) (name : String) (handler : Handler σ) :
    Except Error (Dispatcher σ) :=
  if (dispatcher.entries.lookup name).isSome then
    .error (.config s!"function '{name}' already has a handler")
  else do
    let entry ← EntryPoint.new dispatcher.contract name handler
    return { dispatcher with entries := putEntry name entry dispatcher.entries }

/-- The declared functions that have no handler, in the order of declaration. -/
def missing (dispatcher : Dispatcher σ) : List String :=
  (dispatcher.contract.interface.functions.map Function.name).filter fun name =>
    (dispatcher.entries.lookup name).isNone

/-- The entry point of a declared function. -/
def entry (dispatcher : Dispatcher σ) (name : String) : Except Error (EntryPoint σ) := do
  discard (dispatcher.contract.function name)
  match dispatcher.entries.lookup name with
  | some entry => return entry
  | none => throw (.handler s!"no handler registered for '{name}'")

/-- Answers a raw request for a function. -/
def dispatch (dispatcher : Dispatcher σ) (name : String) (payload : Payload) :
    EStateM Error σ Value := do
  (← Client.ofExcept (dispatcher.entry name)).handle payload

/-- Answers a raw request for a function by an envelope. -/
def respond (dispatcher : Dispatcher σ) (name : String) (payload : Payload) : StateM σ Payload :=
  EntryPoint.enveloped (dispatcher.dispatch name payload)

/-- The dispatcher as a remote side in the same process. -/
def invoker (dispatcher : Dispatcher σ) : Invoker σ := fun endpoint payload state =>
  let (response, state) := dispatcher.respond endpoint payload state
  .ok response state

end Dispatcher

end ServiceContract
