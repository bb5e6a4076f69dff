import ServiceContract.Boundary.EntryPoint

/-!
# The receiving side of messages

A message entry point wraps the handler of one declared message, which takes payloads one by one or
in batches. Every payload is checked; a batch is checked as a whole before any of it is handed on.
-/

namespace ServiceContract

open Json (Value)

/-- How payloads reach the handler. -/
inductive Delivery (σ : Type) where
  /-- One by one. -/
  | single (handler : Value → EStateM Error σ Unit)
  /-- All payloads of a batch together. -/
  | batched (handler : List Value → EStateM Error σ Unit)

/-- The handler of a declared message. -/
structure MessageEntryPoint (σ : Type) where
  /-- The name of the message. -/
  message : String
  /-- The check of its payload. -/
  validator : Validator
  /-- What runs. -/
  delivery : Delivery σ

namespace MessageEntryPoint

variable {σ : Type}

/-- Wraps a handler for a message that the contract declares. -/
def new (contract : Contract) (name : String) (delivery : Delivery σ) :
    Except Error (MessageEntryPoint σ) := do
  return ⟨name, ← contract.message name, delivery⟩

/-- The handler takes batches. -/
def isBatched (entry : MessageEntryPoint σ) : Bool :=
  match entry.delivery with
  | .single _ => false
  | .batched _ => true

/-- Reads and checks a payload. -/
def decode (entry : MessageEntryPoint σ) (payload : Payload) : Except Error Value := do
  let value ← decodeMessage payload
  (entry.validator.check value).mapError .validation
  return value

/-- Receives one payload. -/
def handle (entry : MessageEntryPoint σ) (payload : Payload) : EStateM Error σ Unit := do
  let value ← Client.ofExcept (entry.decode payload)
  match entry.delivery with
  | .single handler => handler value
  | .batched handler => handler [value]

/-- The error of a payload in a batch: a violation says which payload it is in. -/
def inBatch (index : Nat) : Error → Error
  | .validation violation => .validation (violation.within (.index index))
  | other => other

/-- Reads and checks the payloads of a batch, numbered from `index` on. -/
def decodeBatch (entry : MessageEntryPoint σ) : (index : Nat) → List Payload →
    Except Error (List Value)
  | _, [] => .ok []
  | index, payload :: rest => do
    let value ← (entry.decode payload).mapError (inBatch index)
    return value :: (← entry.decodeBatch (index + 1) rest)

/-- Receives a batch. The handler runs only if every payload is accepted. -/
def handleBatch (entry : MessageEntryPoint σ) (payloads : List Payload) :
    EStateM Error σ Unit := do
  let values ← Client.ofExcept (entry.decodeBatch 0 payloads)
  match entry.delivery with
  | .single handler => values.forM handler
  | .batched handler => handler values

end MessageEntryPoint

end ServiceContract
