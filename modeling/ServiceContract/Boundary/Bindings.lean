import ServiceContract.Text.NameOrder

/-!
# Bindings

Bindings say which endpoint serves each function and each message. Clients are bound in scopes: on
each thread a context holds the scopes that are open there, the innermost first. A scope ends when
its guard is dropped, which takes out exactly the scope that the guard stands for, wherever it is;
so scopes need not end in the reverse order of their beginnings.

A guard knows its scope by a token. Tokens are taken from a counter of 64 bits that the whole process
shares, and that clients are numbered from as well.
-/

namespace ServiceContract

/-- The endpoints of functions and messages by name. -/
structure Bindings where
  /-- The endpoints of functions, in the order of the names. -/
  functions : List (String × String)
  /-- The endpoints of messages, in the order of the names. -/
  messages : List (String × String)
deriving DecidableEq, Repr

namespace Bindings

/-- Nothing is bound. -/
def empty : Bindings := ⟨[], []⟩

/-- Binds a function; an earlier endpoint is replaced. -/
def withFunction (bindings : Bindings) (name endpoint : String) : Bindings :=
  { bindings with functions := putEntry name endpoint bindings.functions }

/-- Binds a message; an earlier endpoint is replaced. -/
def withMessage (bindings : Bindings) (name endpoint : String) : Bindings :=
  { bindings with messages := putEntry name endpoint bindings.messages }

/-- The endpoint of a function. -/
def function? (bindings : Bindings) (name : String) : Option String :=
  bindings.functions.lookup name

/-- The endpoint of a message. -/
def message? (bindings : Bindings) (name : String) : Option String :=
  bindings.messages.lookup name

end Bindings

/-- A scope in which a client is bound. -/
structure Scope where
  /-- The client; clones of a client share its number. -/
  client : Nat
  /-- What tells this scope from all others of the context. -/
  token : UInt64
  /-- The bindings of the scope. -/
  bindings : Bindings
deriving DecidableEq, Repr

/-- Keeps a scope open until it is dropped. -/
structure Guard where
  /-- The token of the scope. -/
  token : UInt64
deriving DecidableEq, Repr

/-- The open scopes of a thread. -/
structure Context where
  /-- The scopes, the innermost first. -/
  scopes : List Scope
  /-- The counter that tokens are taken from; behind the greatest number it starts again. -/
  nextToken : UInt64
deriving Repr

namespace Context

/-- No scope is open, and no number was taken yet. -/
def empty : Context := ⟨[], 1⟩

/-- Numbers are taken from the counter elsewhere: for clients, and for the scopes of other threads. -/
def skip (context : Context) (count : Nat) : Context :=
  { context with nextToken := context.nextToken + .ofNat count }

/-- Opens a scope for a client. -/
def bind (context : Context) (client : Nat) (bindings : Bindings) : Guard × Context :=
  (⟨context.nextToken⟩,
    ⟨⟨client, context.nextToken, bindings⟩ :: context.scopes, context.nextToken + 1⟩)

/-- Drops a guard, which ends its scope. -/
def drop (context : Context) (guard : Guard) : Context :=
  { context with scopes := context.scopes.eraseP fun scope => scope.token == guard.token }

/-- The bindings of the innermost scope of a client. -/
def active (context : Context) (client : Nat) : Option Bindings :=
  (context.scopes.find? fun scope => scope.client == client).map Scope.bindings

/-- A scope of the client is open. -/
def isBound (context : Context) (client : Nat) : Bool := (context.active client).isSome

end Context

end ServiceContract
