import ServiceContract.Error
import ServiceContract.Json.Printer
import ServiceContract.Json.Reader

/-!
# Payloads

What crosses the boundary is JSON in UTF-8. A request is an object of named arguments, a message is
a bare value, and a response is an envelope: an object with one member, `result` or `error`. An
error says its kind and a message; it may also be written as an array of the two. Bytes that are no
envelope are a failure of the transport.
-/

namespace ServiceContract

open Json (Value Members Fault Reading)

/-- Bytes that cross the boundary. -/
abbrev Payload := List UInt8

/-- A failure that the implementing side reports. -/
structure RemoteError where
  /-- The kind of the error there. -/
  kind : String
  /-- Its wording. -/
  message : String
deriving DecidableEq, Repr

/-- The response to a request. -/
inductive Response where
  /-- The function returned a value. -/
  | result (value : Value)
  /-- The function failed. -/
  | error (e : RemoteError)

namespace Response

/-- The response that reports an error. -/
def ofError (e : Error) : Response := .error ⟨e.kind, e.text⟩

/-- The result, or the reported error as one of the remote side. -/
def toExcept : Response → Except Error Value
  | .result value => .ok value
  | .error e => .error (.remote e.kind e.message)

/-- The envelope. -/
def describe : Response → Value
  | .result value => .object [("result", value)]
  | .error e =>
    .object [("error", .object [("kind", .string e.kind), ("message", .string e.message)])]

/-- Writes the envelope. -/
def encode (response : Response) : Payload := response.describe.encode

end Response

namespace Json

/-! ## Reading envelopes -/

/-- A member of an error object. -/
inductive ErrorMember where
  /-- The kind. -/
  | kind (text : String)
  /-- The message. -/
  | message (text : String)
  /-- Anything else, which does not count. -/
  | other

/-- A member of an error object: the two that matter are texts, all others are passed over. -/
def errorMember : Reading ErrorMember := fun text => do
  let (key, text) ← string text
  let text ← colon text
  match key with
  | "kind" =>
    let (s, rest) ← string text
    return (.kind s, rest)
  | "message" =>
    let (s, rest) ← string text
    return (.message s, rest)
  | _ =>
    let ((), rest) ← skipValue text.length text
    return (.other, rest)

/-- The error of its members: each of the two that matter exactly once. -/
def errorOfMembers (members : List ErrorMember) : Except Fault RemoteError :=
  let kinds := members.filterMap fun
    | .kind text => some text
    | _ => none
  let messages := members.filterMap fun
    | .message text => some text
    | _ => none
  match kinds, messages with
  | [kind], [message] => .ok ⟨kind, message⟩
  | _, _ => .error (.shape "one kind and one message")

/-- A reported error, as an object or as an array of kind and message. -/
def remoteError : Reading RemoteError := fun text =>
  match skipBlanks text with
  | 0x7b :: rest => do
    let (members, rest) ← delimited 0x7d errorMember rest
    return (← errorOfMembers members, rest)
  | 0x5b :: rest => do
    let (texts, rest) ← delimited 0x5d string rest
    match texts with
    | [kind, message] => return (⟨kind, message⟩, rest)
    | _ => throw (.shape "a kind and a message")
  | rest => .error (faultAt rest)

/-- What stands in an envelope under its key. -/
def envelopeBody (key : String) : Reading Response := fun text =>
  match key with
  | "result" => do
    let (v, rest) ← value (nestingLimit - 1) text
    return (.result v, rest)
  | "error" => do
    let (e, rest) ← remoteError text
    return (.error e, rest)
  | _ => .error (.shape "result or error")

/-- An object with exactly one member, the result or the error. -/
def envelope : Reading Response := fun text =>
  match skipBlanks text with
  | 0x7b :: rest => do
    let (key, rest) ← string rest
    let (response, rest) ← envelopeBody key (← colon rest)
    match skipBlanks rest with
    | 0x7d :: rest => return (response, rest)
    | rest => throw (faultAt rest)
  | rest => .error (faultAt rest)

end Json

/-- Reads a response envelope. -/
def Response.decode (payload : Payload) : Except Error Response :=
  match Json.wholly Json.envelope payload with
  | .ok response => .ok response
  | .error fault =>
    .error (.transport .malformedResponse
      ("response is not a result or error envelope: " ++ fault.message))

/-! ## Requests and messages -/

/-- Reads any value. -/
def decodeMessage (payload : Payload) : Except Error Value :=
  match Value.read payload with
  | .ok value => .ok value
  | .error fault => .error (.serialization ("payload is not valid JSON: " ++ fault.message))

/-- Writes any value. -/
def encodeMessage (value : Value) : Payload := value.encode

/-- Reads named arguments; only an object holds them. -/
def decodeArguments (payload : Payload) : Except Error Members := do
  match ← decodeMessage payload with
  | .object arguments => return arguments
  | other =>
    throw (.validation (.here ("expected object of named arguments, found " ++ other.typeName)))

/-- Writes named arguments. -/
def encodeArguments (arguments : Members) : Payload := (Value.object arguments).encode

end ServiceContract
