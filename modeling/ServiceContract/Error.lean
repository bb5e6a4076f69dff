import ServiceContract.Text.Blank

/-!
# Errors

A violation says where in a value a schema is broken and why. An error is one of a fixed list of
causes, each with a short kind for machines and a wording for people; two of them carry a violation.
Only failures of the transport are worth a retry.
-/

namespace ServiceContract

/-- One step from a value into a part of it. -/
inductive Step where
  /-- The member of an object under a key. -/
  | field (name : String)
  /-- The item of an array at a position, counted from zero. -/
  | index (position : Nat)
deriving DecidableEq, Repr

namespace Step

/-- The step without decoration. -/
def label : Step → String
  | .field name => name
  | .index position => toString position

/-- The step as it is written behind the steps before it. -/
def text : Step → String
  | .field name => "." ++ name
  | .index position => "[" ++ toString position ++ "]"

end Step

/-- Where in a value a schema is broken, and why. -/
structure Violation where
  /-- The way from the root of the value to the failing part. -/
  path : List Step
  /-- What is wrong there. -/
  reason : String
deriving DecidableEq, Repr

namespace Violation

/-- A violation at the root. -/
def here (reason : String) : Violation := ⟨[], reason⟩

/-- The violation as seen from one level further up. -/
def within (step : Step) (v : Violation) : Violation := { v with path := step :: v.path }

/-- The labels of the path. -/
def labels (v : Violation) : List String := v.path.map Step.label

/-- The path behind a dollar sign for the root, then the reason. -/
def text (v : Violation) : String :=
  "$" ++ String.join (v.path.map Step.text) ++ ": " ++ v.reason

end Violation

/-- What went wrong between the two sides. -/
inductive TransportFault where
  /-- No answer came in time. -/
  | timeout
  /-- The caller may not use the endpoint. -/
  | accessDenied
  /-- The endpoint cannot be reached. -/
  | unavailable
  /-- The answer is not a response. -/
  | malformedResponse
deriving DecidableEq, Repr

/-- The wording of a transport fault. -/
def TransportFault.text : TransportFault → String
  | .timeout => "timeout"
  | .accessDenied => "access denied"
  | .unavailable => "unavailable"
  | .malformedResponse => "malformed response"

/-- The causes of failure. -/
inductive Error where
  /-- A declared name is not in kebab case. -/
  | naming (message : String)
  /-- Two declarations share a name or derive the same identifier. -/
  | identifierCollision (message : String)
  /-- A chain of references comes back to its start. -/
  | cyclicReference (location cycle : String)
  /-- A reference names something that does not exist. -/
  | unresolvedReference (location reference : String)
  /-- A document is malformed at a location. -/
  | document (location message : String)
  /-- A document cannot be loaded. -/
  | load (document message : String)
  /-- A document is asked for while it is itself being resolved, by a reference that the check of
  the document graph does not see. -/
  | stalled (document : String)
  /-- No endpoint is bound for a name. -/
  | unbound (name : String)
  /-- No such function is declared. -/
  | unknownFunction (name : String)
  /-- No such message is declared. -/
  | unknownMessage (name : String)
  /-- A call names an argument that is not declared. -/
  | unknownArgument (function argument : String)
  /-- A call lacks declared arguments. -/
  | arity (function : String) (missing : List String)
  /-- A value from the calling side breaks its schema. -/
  | validation (violation : Violation)
  /-- The implementing side breaks its own declaration. -/
  | contractViolation (name : String) (violation : Violation)
  /-- Communication between the sides failed. -/
  | transport (fault : TransportFault) (message : String)
  /-- The remote side reported a failure. -/
  | remote (kind message : String)
  /-- A local handler failed. -/
  | handler (message : String)
  /-- The configuration is invalid. -/
  | config (message : String)
  /-- A payload cannot be read or written. -/
  | serialization (message : String)
  /-- A file cannot be read. -/
  | io (message : String)
deriving DecidableEq, Repr

namespace Error

/-- The short name of the cause. -/
def kind : Error → String
  | .naming _ => "naming"
  | .identifierCollision _ => "identifier-collision"
  | .cyclicReference .. => "cyclic-reference"
  | .unresolvedReference .. => "unresolved-reference"
  | .document .. => "document"
  | .load .. => "load"
  | .stalled _ => "stalled"
  | .unbound _ => "unbound"
  | .unknownFunction _ => "unknown-function"
  | .unknownMessage _ => "unknown-message"
  | .unknownArgument .. => "unknown-argument"
  | .arity .. => "arity"
  | .validation _ => "validation"
  | .contractViolation .. => "contract-violation"
  | .transport .. => "transport"
  | .remote .. => "remote"
  | .handler _ => "handler"
  | .config _ => "config"
  | .serialization _ => "serialization"
  | .io _ => "io"

/-- The wording of the error. -/
def text : Error → String
  | .naming message => s!"naming error: {message}"
  | .identifierCollision message => s!"identifier collision: {message}"
  | .cyclicReference location cycle => s!"cyclic reference at {location}: {cycle}"
  | .unresolvedReference location reference => s!"unresolved reference at {location}: {reference}"
  | .document location message => s!"document error at {location}: {message}"
  | .load key message => s!"failed to load document '{key}': {message}"
  | .stalled key => s!"document '{key}' is needed to resolve itself"
  | .unbound name => s!"no binding active for '{name}'"
  | .unknownFunction name => s!"unknown function '{name}'"
  | .unknownMessage name => s!"unknown message '{name}'"
  | .unknownArgument function argument =>
    s!"unknown argument '{argument}' for function '{function}'"
  | .arity function missing =>
    s!"function '{function}' called without arguments: " ++ Text.join ", " missing
  | .validation violation => "validation error: " ++ violation.text
  | .contractViolation name violation =>
    s!"contract violation in '{name}': " ++ violation.text
  | .transport fault message => "transport error (" ++ fault.text ++ "): " ++ message
  | .remote kind message => s!"remote error ({kind}): {message}"
  | .handler message => s!"handler error: {message}"
  | .config message => s!"config error: {message}"
  | .serialization message => s!"serialization error: {message}"
  | .io message => s!"io error: {message}"

/-- The violation that the error carries. -/
def violation? : Error → Option Violation
  | .validation violation => some violation
  | .contractViolation _ violation => some violation
  | _ => none

/-- The operation may succeed when it is tried again. -/
def isRetryable : Error → Bool
  | .transport .. => true
  | _ => false

end Error

end ServiceContract
