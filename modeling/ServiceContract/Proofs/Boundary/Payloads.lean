import ServiceContract.Boundary.Envelope
import ServiceContract.Proofs.Json.ValueText

/-!
# What payloads are read as

What is written at the boundary is read there again. Arguments and messages come out with their numbers
read again, up to the nesting that a reader accepts; results do up to one level less, since their
envelope is an object around them. So they come back exactly if they nest no deeper and each of their
floating-point numbers is read as itself. Reported errors always come back, since their envelope holds
nothing but two texts. What cannot be read is refused as what it is at its place: a payload that is no
JSON, or a response that is none.
-/

namespace ServiceContract

open Json (Value Members Fault utf8 quote string_quote Delimits ok_bind)

/-- What decoding makes of the text of a value, where `limit` arrays and objects may nest. -/
structure ComesBack {α : Type} (v : Value) (limit : Nat) (wrap : Value → α) (refuse : Fault → Error)
    (decoded : Except Error α) : Prop where
  /-- The value comes back exactly if it nests no deeper and all its floating-point numbers are read as
  themselves. -/
  exactly : decoded = .ok (wrap v) ↔ v.nesting ≤ limit ∧ v.FloatsReadBack
  /-- If they are, a value that nests deeper is refused for that. -/
  tooDeep : v.FloatsReadBack → limit < v.nesting → decoded = .error (refuse .nestingTooDeep)
  /-- In any case it is the value with its numbers read again that comes out. -/
  outcome : decoded = ((v.reread limit).map wrap).mapError refuse
  /-- Whatever is refused nests too deeply or has a number that comes out too large. -/
  refused : ∀ e, decoded = .error e → e = refuse .nestingTooDeep ∨ e = refuse .numberOutOfRange

theorem comesBack_of_outcome {α : Type} {v : Value} {limit : Nat} {wrap : Value → α}
    {refuse : Fault → Error} {decoded : Except Error α} (hwrap : Function.Injective wrap)
    (h : decoded = ((v.reread limit).map wrap).mapError refuse) :
    ComesBack v limit wrap refuse decoded where
  exactly := by
    rw [h, ← Value.reread_eq_self_iff]
    cases v.reread limit with
    | ok w => exact ⟨fun heq => by rw [hwrap (Except.ok.inj heq)], fun heq => by cases heq; rfl⟩
    | error fault => exact ⟨nofun, nofun⟩
  tooDeep hfloats hdeep := by
    rw [h, Value.reread_of_floatsReadBack hfloats, if_neg (Nat.not_le.2 hdeep)]
    rfl
  outcome := h
  refused e he := by
    rw [h] at he
    cases hread : v.reread limit with
    | ok w =>
      rw [hread] at he
      cases he
    | error fault =>
      rw [hread] at he
      cases he
      exact (Value.reread_error hread).imp (congrArg refuse) (congrArg refuse)

/-! ## Messages and arguments -/

/-- What is reported about a payload that cannot be read. -/
def Error.unreadable (fault : Fault) : Error :=
  .serialization ("payload is not valid JSON: " ++ fault.message)

theorem decodeMessage_encodeMessage {v : Value} (h : v.DistinctKeys) :
    decodeMessage (encodeMessage v) = (v.reread Json.nestingLimit).mapError .unreadable := by
  unfold decodeMessage encodeMessage
  rw [Value.read_encode h]
  cases v.reread Json.nestingLimit <;> rfl

theorem decodeArguments_encodeArguments {arguments : Members}
    (h : (Value.object arguments).DistinctKeys) :
    decodeArguments (encodeArguments arguments) =
      (Value.rereadMembers (Json.nestingLimit - 1) arguments).mapError .unreadable := by
  have hmessage := decodeMessage_encodeMessage h
  have hread : (Value.object arguments).reread Json.nestingLimit =
      (Value.rereadMembers (Json.nestingLimit - 1) arguments).map .object := rfl
  unfold decodeArguments encodeArguments
  unfold encodeMessage at hmessage
  rw [hmessage, hread]
  cases Value.rereadMembers (Json.nestingLimit - 1) arguments <;> rfl

theorem comesBack_message {v : Value} (h : v.DistinctKeys) :
    ComesBack v 127 id .unreadable (decodeMessage (encodeMessage v)) := by
  refine comesBack_of_outcome Function.injective_id ?_
  rw [decodeMessage_encodeMessage h]
  show _ = ((v.reread Json.nestingLimit).map id).mapError _
  cases v.reread Json.nestingLimit <;> rfl

theorem comesBack_arguments {arguments : Members} (h : (Value.object arguments).DistinctKeys) :
    ComesBack (.object arguments) 127 id .unreadable
      ((decodeArguments (encodeArguments arguments)).map .object) := by
  refine comesBack_of_outcome Function.injective_id ?_
  rw [decodeArguments_encodeArguments h]
  show _ = (((Value.rereadMembers (Json.nestingLimit - 1) arguments).map Value.object).map id).mapError _
  cases Value.rereadMembers (Json.nestingLimit - 1) arguments <;> rfl

/-! ## Responses -/

namespace Response

/-- What is reported about a response that cannot be read. -/
def malformed (fault : Fault) : Error :=
  .transport .malformedResponse ("response is not a result or error envelope: " ++ fault.message)

/-- The bytes of an envelope are one member between braces. -/
theorem encode_envelope (key : String) (v : Value) :
    (Value.object [(key, v)]).encode =
      0x7b :: (utf8 (quote key).toList ++ 0x3a :: (v.encode ++ [0x7d])) := by
  rw [Value.encode_object]
  show 0x7b :: (utf8 (quote key).toList ++ 0x3a :: v.encode ++ [0x7d]) = _
  rw [List.append_assoc, List.cons_append]

/-- An envelope comes out as what stands under its key. -/
theorem envelope_encode {key : String} {v : Value} {body : Except Json.Fault Response}
    (hbody : Json.envelopeBody key (v.encode ++ [0x7d]) =
      body.map fun response => (response, [0x7d])) :
    Json.envelope (Value.object [(key, v)]).encode = body.map fun response => (response, []) := by
  have hskip : ∀ rest, Json.skipBlanks (0x7b :: rest) = 0x7b :: rest := fun _ => rfl
  have hcolon : Json.colon (0x3a :: (v.encode ++ [0x7d])) = .ok (v.encode ++ [0x7d]) := rfl
  unfold Json.envelope
  rw [encode_envelope, hskip]
  split
  · next rest heq =>
    obtain ⟨-, rfl⟩ := List.cons.inj heq
    rw [string_quote, ok_bind]
    dsimp only
    rw [hcolon, ok_bind, hbody]
    cases body <;> rfl
  · next hother => exact absurd rfl (hother _)

/-- A result comes out with its numbers read again, under one level less than a message. -/
theorem decode_encode_result {v : Value} (h : v.DistinctKeys) :
    decode (Response.result v).encode =
      ((v.reread (Json.nestingLimit - 1)).map Response.result).mapError malformed := by
  have hvalue := @Json.value_encode v h (Json.nestingLimit - 1) [0x7d] (.inr (.inr rfl))
  have hbody : Json.envelopeBody "result" (v.encode ++ [0x7d]) =
      ((v.reread (Json.nestingLimit - 1)).map Response.result).map fun response =>
        (response, [0x7d]) := by
    show (do
      let read ← Json.value (Json.nestingLimit - 1) (v.encode ++ [0x7d])
      return (Response.result read.1, read.2)) = _
    rw [hvalue]
    cases v.reread (Json.nestingLimit - 1) <;> rfl
  unfold decode encode describe Json.wholly
  rw [envelope_encode hbody]
  cases v.reread (Json.nestingLimit - 1) <;> rfl

theorem comesBack_result {v : Value} (h : v.DistinctKeys) :
    ComesBack v 126 Response.result malformed (decode (Response.result v).encode) := by
  have hwrap : Function.Injective Response.result := fun _ _ heq => Response.result.inj heq
  exact comesBack_of_outcome hwrap (decode_encode_result h)

/-- To the caller a result comes back in the same way. -/
theorem comesBack_toExcept {v : Value} (h : v.DistinctKeys) :
    ComesBack v 126 id malformed (decode (Response.result v).encode >>= toExcept) := by
  refine comesBack_of_outcome Function.injective_id ?_
  rw [decode_encode_result h]
  show _ = ((v.reread (Json.nestingLimit - 1)).map id).mapError _
  cases v.reread (Json.nestingLimit - 1) <;> rfl

/-! ### Reported errors -/

/-- The text of a member of an error object. -/
def errorMemberText : Json.ErrorMember → List UInt8
  | .kind text => Value.memberText ("kind", .string text)
  | .message text => Value.memberText ("message", .string text)
  | .other => []

theorem begins_errorMemberText {m : Json.ErrorMember} (h : m ≠ .other) :
    Json.Begins (errorMemberText m) := by
  cases m with
  | kind text =>
    rw [errorMemberText]
    exact Value.begins_memberText ("kind", .string text)
  | message text =>
    rw [errorMemberText]
    exact Value.begins_memberText ("message", .string text)
  | other => exact absurd rfl h

theorem errorMember_text {m : Json.ErrorMember} (h : m ≠ .other) (rest : List UInt8) :
    Json.errorMember (errorMemberText m ++ rest) = .ok (m, rest) := by
  have hstring : ∀ text : String, (Value.string text).encode = utf8 (quote text).toList :=
    fun text => (Value.string text).encode_eq
  have hcolon : ∀ tail, Json.colon (0x3a :: tail) = .ok tail := fun _ => rfl
  unfold Json.errorMember
  cases m with
  | kind text =>
    rw [errorMemberText, Value.memberText, List.append_assoc, string_quote, ok_bind]
    dsimp only
    rw [List.cons_append, hcolon, ok_bind, hstring]
    show (do
      let read ← Json.string (utf8 (quote text).toList ++ rest)
      return (Json.ErrorMember.kind read.1, read.2)) = _
    rw [string_quote]
    rfl
  | message text =>
    rw [errorMemberText, Value.memberText, List.append_assoc, string_quote, ok_bind]
    dsimp only
    rw [List.cons_append, hcolon, ok_bind, hstring]
    show (do
      let read ← Json.string (utf8 (quote text).toList ++ rest)
      return (Json.ErrorMember.message read.1, read.2)) = _
    rw [string_quote]
    rfl
  | other => exact absurd rfl h

/-- The two members of an error object are found. -/
theorem remoteError_encode (e : RemoteError) (rest : List UInt8) :
    Json.remoteError ((Value.object [("kind", .string e.kind),
      ("message", .string e.message)]).encode ++ rest) = .ok (e, rest) := by
  have hmembers : ∀ m ∈ [Json.ErrorMember.kind e.kind, .message e.message], m ≠ .other := by
    rintro m hm rfl
    simp only [List.mem_cons, List.not_mem_nil, or_false, reduceCtorEq] at hm
  have hread := @Json.delimited_separated Json.ErrorMember Json.ErrorMember 0x7d Json.errorMember
    errorMemberText .ok (.inr rfl) [.kind e.kind, .message e.message]
    (fun m hm => begins_errorMemberText (hmembers m hm))
    (fun m hm rest _ => errorMember_text (hmembers m hm) rest) rest
  rw [Value.encode_object, List.cons_append, List.append_assoc]
  show (do
    let read ← Json.delimited 0x7d Json.errorMember
      (Json.separated ([Json.ErrorMember.kind e.kind, .message e.message].map errorMemberText) ++
        0x7d :: rest)
    return (← Json.errorOfMembers read.1, read.2)) = _
  rw [hread]
  rfl

/-- A reported error reads back. -/
theorem decode_encode_error (e : RemoteError) : decode (Response.error e).encode = .ok (.error e) := by
  have hbody : Json.envelopeBody "error" ((Value.object [("kind", .string e.kind),
      ("message", .string e.message)]).encode ++ [0x7d]) =
      (Except.ok (Response.error e)).map fun response => (response, [0x7d]) := by
    show (do
      let read ← Json.remoteError ((Value.object [("kind", .string e.kind),
        ("message", .string e.message)]).encode ++ [0x7d])
      return (Response.error read.1, read.2)) = _
    rw [remoteError_encode]
    rfl
  unfold decode encode describe Json.wholly
  dsimp only
  rw [envelope_encode hbody]
  rfl

end Response

end ServiceContract
