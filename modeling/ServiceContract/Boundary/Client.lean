import ServiceContract.Boundary.Bindings
import ServiceContract.Boundary.Envelope
import ServiceContract.Contract
import ServiceContract.Text.Duration

/-!
# The calling side

A client calls functions and publishes messages of one contract. It checks what it sends before it
sends it and what it gets back before it returns it. How bytes travel is not its business: an
invoker and a publisher do that, with a state of any kind and with any error; what they report leaves
the client as a failure of the transport.
-/

namespace ServiceContract

open Json (Value Members)

/-- Sends a request to an endpoint and returns the raw response. -/
abbrev Invoker (σ : Type) := (endpoint : String) → Payload → EStateM Error σ Payload

/-- Hands a message to an endpoint. -/
abbrev Publisher (σ : Type) := (endpoint : String) → Payload → EStateM Error σ Unit

/-- What becomes of a request within a time limit. -/
inductive Reply where
  /-- The invoker answered or failed. -/
  | answered (outcome : Except Error Payload)
  /-- The invoker did not answer in time. -/
  | silent
  /-- The invoker broke down without an answer. -/
  | stopped
  /-- No worker could be started that would run the invoker. -/
  | unstarted (reason : String)

/-- Sends a request and waits for the reply no longer than a time limit. -/
abbrev TimedInvoker (σ : Type) := (endpoint : String) → Payload → StateM σ Reply

/-- The invoker that always answers in time. -/
def Invoker.timed {σ : Type} (invoke : Invoker σ) : TimedInvoker σ := fun endpoint payload state =>
  match invoke endpoint payload state with
  | .ok response state => (.answered (.ok response), state)
  | .error e state => (.answered (.error e), state)

/-- The caller's handle for a contract. -/
structure Client (σ : Type) where
  /-- The number by which its scopes are known. -/
  id : Nat
  /-- The contract of both sides. -/
  contract : Contract
  /-- How requests are sent. -/
  invoke : Invoker σ
  /-- How messages are sent, if they can be. -/
  publish? : Option (Publisher σ)

/-- A request that has been checked. -/
structure Request where
  /-- The checks of the function. -/
  function : FunctionContract
  /-- Where the request goes. -/
  endpoint : String
  /-- The arguments. -/
  payload : Payload

/-- A failure that reaches the caller: whatever the other side of the transport reports is one. -/
def Error.toTransport : Error → Error
  | .transport fault message => .transport fault message
  | other => .transport .unavailable other.text

namespace Client

variable {σ : Type}

/-- A step without state. -/
def ofExcept {α : Type} : Except Error α → EStateM Error σ α
  | .ok a => pure a
  | .error e => throw e

/-- Runs a step of the transport. -/
def inTransport {α : Type} (step : EStateM Error σ α) : EStateM Error σ α := fun state =>
  match step state with
  | .ok a state => .ok a state
  | .error e state => .error e.toTransport state

/-- Checks a call: the function must be declared, bound, and get what it declares. -/
def prepare (contract : Contract) (bindings : Bindings) (name : String) (arguments : Members) :
    Except Error Request := do
  let function ← contract.function name
  match bindings.function? name with
  | none => throw (.unbound name)
  | some endpoint =>
    function.checkArguments arguments
    return ⟨function, endpoint, encodeArguments arguments⟩

/-- Checks a response. Where no result is declared the answer is null. -/
def finish (function : FunctionContract) (response : Payload) : Except Error Value := do
  let value ← (← Response.decode response).toExcept
  if function.returns.isNone then return .null
  match function.checkResult value with
  | .ok () => return value
  | .error violation => throw (.contractViolation function.name violation)

/-- Calls a function under given bindings. -/
def callWith (client : Client σ) (bindings : Bindings) (name : String) (arguments : Members) :
    EStateM Error σ Value := do
  let request ← ofExcept (prepare client.contract bindings name arguments)
  let response ← inTransport (client.invoke request.endpoint request.payload)
  ofExcept (finish request.function response)

/-- The bindings that are active for the client in a context. -/
def requireActive (client : Client σ) (context : Context) (name : String) : Except Error Bindings :=
  match context.active client.id with
  | some bindings => .ok bindings
  | none => .error (.unbound name)

/-- Calls a function under the active bindings. -/
def call (client : Client σ) (context : Context) (name : String) (arguments : Members) :
    EStateM Error σ Value := do
  client.callWith (← ofExcept (client.requireActive context name)) name arguments

/-- Calls a function under the active bindings, through an invoker with a time limit. -/
def callWithin (client : Client σ) (context : Context) (invoke : TimedInvoker σ)
    (nanoseconds : Nat) (name : String) (arguments : Members) : EStateM Error σ Value := do
  let bindings ← ofExcept (client.requireActive context name)
  let request ← ofExcept (prepare client.contract bindings name arguments)
  let reply ← fun state =>
    let (reply, state) := invoke request.endpoint request.payload state
    .ok reply state
  match reply with
  | .answered outcome =>
    let response ← inTransport (ofExcept outcome)
    ofExcept (finish request.function response)
  | .silent =>
    throw (.transport .timeout (s!"'{name}' did not answer within " ++ Text.duration nanoseconds))
  | .stopped => throw (.transport .unavailable s!"invoker for '{name}' stopped without answering")
  | .unstarted reason =>
    throw (.transport .unavailable s!"cannot start worker thread for '{name}': {reason}")

/-- Publishes a message under given bindings. -/
def publishWith (client : Client σ) (bindings : Bindings) (name : String) (payload : Value) :
    EStateM Error σ Unit := do
  let validator ← ofExcept (client.contract.message name)
  match bindings.message? name with
  | none => throw (.unbound name)
  | some endpoint =>
    ofExcept ((validator.check payload).mapError .validation)
    match client.publish? with
    | none => throw (.config s!"no publisher configured for message '{name}'")
    | some publish => inTransport (publish endpoint (encodeMessage payload))

/-- Publishes a message under the active bindings. -/
def publish (client : Client σ) (context : Context) (name : String) (payload : Value) :
    EStateM Error σ Unit := do
  client.publishWith (← ofExcept (client.requireActive context name)) name payload

end Client

end ServiceContract
