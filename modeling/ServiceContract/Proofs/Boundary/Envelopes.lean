import ServiceContract.Boundary.Envelope
import ServiceContract.Proofs.Json.Reading

/-!
# Envelopes and nothing else

A payload is accepted as a response exactly if it is an envelope by the grammar: an object with one
member, spelled once, that is a result or an error. A result is held to the grammar of values, so that
its envelope is UTF-8 throughout. In an error only the kind and the message are: other members are
passed over by their bytes, and a string among them need not be UTF-8. Whatever is no envelope fails
as a malformed response.
-/

namespace ServiceContract

namespace Json

/-! ## The grammar of envelopes -/

/-- The kind that a member says. -/
def ErrorMember.kind? : ErrorMember → Option String
  | .kind text => some text
  | _ => none

/-- The message that a member says. -/
def ErrorMember.message? : ErrorMember → Option String
  | .message text => some text
  | _ => none

/-- A member of an error object. -/
inductive ErrorMemberText : List UInt8 → ErrorMember → Prop where
  /-- The kind is a string. -/
  | kind {text : List UInt8} {s : String} (h : MemberText QuotedText QuotedText text ("kind", s)) :
      ErrorMemberText text (.kind s)
  /-- The message is a string. -/
  | message {text : List UInt8} {s : String}
      (h : MemberText QuotedText QuotedText text ("message", s)) : ErrorMemberText text (.message s)
  /-- Anything may stand under any other key. -/
  | other {text : List UInt8} {key : String} (h : MemberText QuotedText SkippedText text (key, ()))
      (hkind : key ≠ "kind") (hmessage : key ≠ "message") : ErrorMemberText text .other

/-- A reported error. -/
inductive ErrorText : List UInt8 → RemoteError → Prop where
  /-- An object that says the kind once and the message once. -/
  | object {text : List UInt8} {members : List ErrorMember} {e : RemoteError}
      (h : Enclosed 0x7b 0x7d ErrorMemberText text members)
      (hkind : members.filterMap ErrorMember.kind? = [e.kind])
      (hmessage : members.filterMap ErrorMember.message? = [e.message]) : ErrorText text e
  /-- An array of the kind and the message. -/
  | array {text : List UInt8} {e : RemoteError}
      (h : Enclosed 0x5b 0x5d QuotedText text [e.kind, e.message]) : ErrorText text e

/-- An object with a single member. -/
def Envelope {α : Type} (key : String) (G : Grammar α) : Grammar α :=
  fun text x => Enclosed 0x7b 0x7d (MemberText QuotedText G) text [(key, x)]

/-- A response: a result that leaves room for its envelope, or a reported error. -/
inductive ResponseText : List UInt8 → Response → Prop where
  /-- A result. -/
  | result {text : List UInt8} {v : Value}
      (h : Envelope "result" (ValueText (nestingLimit - 1)) text v) : ResponseText text (.result v)
  /-- An error. -/
  | error {text : List UInt8} {e : RemoteError} (h : Envelope "error" ErrorText text e) :
      ResponseText text (.error e)

/-! ## Reading reported errors -/

theorem errorOfMembers_eq_ok {members : List ErrorMember} {e : RemoteError} :
    errorOfMembers members = .ok e ↔ members.filterMap ErrorMember.kind? = [e.kind] ∧
      members.filterMap ErrorMember.message? = [e.message] := by
  unfold errorOfMembers
  dsimp only
  split
  · next kind message hkinds hmessages =>
    have hkinds : members.filterMap ErrorMember.kind? = [kind] := hkinds
    have hmessages : members.filterMap ErrorMember.message? = [message] := hmessages
    rw [hkinds, hmessages]
    constructor
    · rintro ⟨⟩
      exact ⟨rfl, rfl⟩
    · rintro ⟨hkind, hmessage⟩
      rw [(List.cons.inj hkind).1, (List.cons.inj hmessage).1]
  · next hother => exact ⟨nofun, fun h => absurd h.2 (hother _ _ h.1)⟩

theorem finds_errorMember : Finds errorMember ErrorMemberText where
  begins h := by
    cases h with
    | kind h => exact (finds_member finds_string).begins h
    | message h => exact (finds_member finds_string).begins h
    | other h =>
      obtain ⟨hkey, -, -, -⟩ := h
      exact hkey.begins.append _
  eq_ok {text rest m} hrest := by
    have hstring := @key_colon_value String String string QuotedText string_eq_ok string QuotedText
      finds_string text rest
    unfold errorMember
    constructor
    · intro h
      obtain ⟨⟨key, behindKey⟩, hkey, h⟩ := bind_eq_ok.1 h
      obtain ⟨behindColon, hcolon, h⟩ := bind_eq_ok.1 h
      dsimp only at h
      split at h
      · obtain ⟨⟨s, rest'⟩, hvalue, hpure⟩ := bind_eq_ok.1 h
        cases hpure
        obtain ⟨raw, hraw, htext⟩ := (hstring hrest).1 ⟨_, _, hkey, hcolon, hvalue⟩
        exact ⟨raw, .kind hraw, htext⟩
      · obtain ⟨⟨s, rest'⟩, hvalue, hpure⟩ := bind_eq_ok.1 h
        cases hpure
        obtain ⟨raw, hraw, htext⟩ := (hstring hrest).1 ⟨_, _, hkey, hcolon, hvalue⟩
        exact ⟨raw, .message hraw, htext⟩
      · next hkind hmessage =>
        obtain ⟨⟨⟨⟩, rest'⟩, hvalue, hpure⟩ := bind_eq_ok.1 h
        cases hpure
        obtain ⟨raw, hraw, htext⟩ :=
          (key_colon_value string_eq_ok finds_skipped hrest).1 ⟨_, _, hkey, hcolon, hvalue⟩
        exact ⟨raw, .other hraw hkind hmessage, htext⟩
    · rintro ⟨raw, hraw, htext⟩
      cases hraw with
      | kind hraw =>
        obtain ⟨behindKey, behindColon, hkey, hcolon, hvalue⟩ := (hstring hrest).2 ⟨raw, hraw, htext⟩
        exact bind_eq_ok.2 ⟨_, hkey, bind_eq_ok.2 ⟨_, hcolon, bind_eq_ok.2 ⟨_, hvalue, rfl⟩⟩⟩
      | message hraw =>
        obtain ⟨behindKey, behindColon, hkey, hcolon, hvalue⟩ := (hstring hrest).2 ⟨raw, hraw, htext⟩
        exact bind_eq_ok.2 ⟨_, hkey, bind_eq_ok.2 ⟨_, hcolon, bind_eq_ok.2 ⟨_, hvalue, rfl⟩⟩⟩
      | other hraw hkind hmessage =>
        obtain ⟨behindKey, behindColon, hkey, hcolon, hvalue⟩ :=
          (key_colon_value string_eq_ok finds_skipped hrest).2 ⟨raw, hraw, htext⟩
        refine bind_eq_ok.2 ⟨_, hkey, bind_eq_ok.2 ⟨_, hcolon, ?_⟩⟩
        dsimp only
        split
        · exact absurd rfl hkind
        · exact absurd rfl hmessage
        · exact bind_eq_ok.2 ⟨_, hvalue, rfl⟩

theorem finds_remoteError : Finds remoteError ErrorText where
  begins h := by
    cases h with
    | object h =>
      obtain ⟨tail, rfl⟩ := (findsBehind_delimited finds_errorMember (.inr rfl) 0x7b).head h
      exact .cons rfl (by decide)
    | array h =>
      obtain ⟨tail, rfl⟩ := (findsBehind_delimited finds_string (.inl rfl) 0x5b).head h
      exact .cons rfl (by decide)
  eq_ok {text rest e} _ := by
    have hmembers := findsBehind_delimited finds_errorMember (.inr rfl) 0x7b
    have htexts := findsBehind_delimited finds_string (.inl rfl) 0x5b
    unfold remoteError
    constructor
    · intro h
      split at h
      · next htext =>
        obtain ⟨⟨members, rest'⟩, hread, h⟩ := bind_eq_ok.1 h
        obtain ⟨e', herror, hpure⟩ := bind_eq_ok.1 h
        cases hpure
        obtain ⟨raw, hraw, heq⟩ := hmembers.eq_ok.1 hread
        obtain ⟨hkind, hmessage⟩ := errorOfMembers_eq_ok.1 herror
        exact ⟨raw, .object hraw hkind hmessage, htext.trans heq⟩
      · next htext =>
        obtain ⟨⟨texts, rest'⟩, hread, h⟩ := bind_eq_ok.1 h
        dsimp only at h
        split at h
        · cases h
          obtain ⟨raw, hraw, heq⟩ := htexts.eq_ok.1 hread
          exact ⟨raw, .array hraw, htext.trans heq⟩
        · cases h
      · cases h
    · rintro ⟨raw, hraw, htext⟩
      cases hraw with
      | object hraw hkind hmessage =>
        obtain ⟨tail, rfl⟩ := hmembers.head hraw
        rw [htext]
        exact bind_eq_ok.2 ⟨_, hmembers.eq_ok.2 ⟨_, hraw, rfl⟩,
          bind_eq_ok.2 ⟨e, errorOfMembers_eq_ok.2 ⟨hkind, hmessage⟩, rfl⟩⟩
      | array hraw =>
        obtain ⟨tail, rfl⟩ := htexts.head hraw
        rw [htext]
        exact bind_eq_ok.2 ⟨_, htexts.eq_ok.2 ⟨_, hraw, rfl⟩, rfl⟩

/-! ## Reading envelopes -/

/-- An object with one member is the member with blanks around it, between braces. -/
theorem envelope_iff_spaced {α : Type} {key : String} {G : Grammar α} {text : List UInt8} {x : α} :
    Envelope key G text x ↔ ∃ spaced, Spaced (MemberText QuotedText G) spaced (key, x) ∧
      text = 0x7b :: (spaced ++ [0x7d]) := by
  constructor
  · intro h
    unfold Envelope at h
    cases h with
    | some h =>
      cases h with
      | one h => exact ⟨_, h, rfl⟩
      | more _ hrest => cases hrest
  · rintro ⟨spaced, hspaced, rfl⟩
    exact .some (.one hspaced)

/-- What stands in an envelope depends on its key. -/
theorem envelope_eq_ok {text rest : List UInt8} {response : Response} :
    envelope text = .ok (response, rest) ↔ ∃ key inner behind, skipBlanks text = 0x7b :: inner ∧
      member (envelopeBody key) inner = .ok ((key, response), behind) ∧
      skipBlanks behind = 0x7d :: rest := by
  simp only [member_eq_ok]
  unfold envelope
  constructor
  · intro h
    split at h
    · next inner htext =>
      obtain ⟨⟨key, behindKey⟩, hkey, h⟩ := bind_eq_ok.1 h
      obtain ⟨behindColon, hcolon, h⟩ := bind_eq_ok.1 h
      obtain ⟨⟨response', behind⟩, hbody, h⟩ := bind_eq_ok.1 h
      dsimp only at h
      split at h
      · next hbehind =>
        cases h
        exact ⟨key, inner, behind, htext, ⟨behindKey, behindColon, hkey, hcolon, hbody⟩, hbehind⟩
      · cases h
    · cases h
  · rintro ⟨key, inner, behind, htext, ⟨behindKey, behindColon, hkey, hcolon, hbody⟩, hbehind⟩
    rw [htext]
    refine bind_eq_ok.2 ⟨_, hkey, bind_eq_ok.2 ⟨_, hcolon, bind_eq_ok.2 ⟨_, hbody, ?_⟩⟩⟩
    dsimp only
    rw [hbehind]
    rfl

/-- An envelope is read from what stands under its key. -/
theorem envelope_member {α : Type} {key : String} {G : Grammar α} {body : Reading α}
    (h : Finds body G) {text rest : List UInt8} {x : α} :
    (∃ inner behind, skipBlanks text = 0x7b :: inner ∧ member body inner = .ok ((key, x), behind) ∧
      skipBlanks behind = 0x7d :: rest) ↔
      ∃ raw, Envelope key G raw x ∧ skipBlanks text = raw ++ rest := by
  have hend : Delimits (0x7d :: rest) := .inr (.inr rfl)
  have hassoc : ∀ spaced, 0x7b :: (spaced ++ [0x7d]) ++ rest = 0x7b :: (spaced ++ 0x7d :: rest) :=
    fun spaced => congrArg (0x7b :: ·) (List.append_assoc spaced [0x7d] rest)
  constructor
  · rintro ⟨inner, behind, htext, hmember, hbehind⟩
    obtain ⟨spaced, hspaced, rfl⟩ := ((finds_member h).spaced hend).1 ⟨behind, hmember, hbehind⟩
    exact ⟨_, envelope_iff_spaced.2 ⟨spaced, hspaced, rfl⟩, by rw [htext, hassoc]⟩
  · rintro ⟨raw, hraw, htext⟩
    obtain ⟨spaced, hspaced, rfl⟩ := envelope_iff_spaced.1 hraw
    obtain ⟨behind, hmember, hbehind⟩ := ((finds_member h).spaced hend).2 ⟨spaced, hspaced, rfl⟩
    exact ⟨_, behind, by rw [htext, hassoc], hmember, hbehind⟩

/-- A member of something read is a member of what it is read from. -/
theorem member_map {α β : Type} (reading : Reading α) (f : α → β) {text rest : List UInt8}
    {key : String} {y : β} :
    member (fun text => do
      let read ← reading text
      return (f read.1, read.2)) text = .ok ((key, y), rest) ↔
      ∃ x, f x = y ∧ member reading text = .ok ((key, x), rest) := by
  simp only [member_eq_ok]
  constructor
  · rintro ⟨behindKey, behindColon, hkey, hcolon, hmapped⟩
    obtain ⟨⟨x, rest'⟩, hread, hpure⟩ := bind_eq_ok.1 hmapped
    cases hpure
    exact ⟨x, rfl, behindKey, behindColon, hkey, hcolon, hread⟩
  · rintro ⟨x, rfl, behindKey, behindColon, hkey, hcolon, hread⟩
    exact ⟨behindKey, behindColon, hkey, hcolon, bind_eq_ok.2 ⟨_, hread, rfl⟩⟩

theorem finds_envelope : Finds envelope ResponseText where
  begins h := by
    cases h with
    | result h =>
      obtain ⟨spaced, -, rfl⟩ := envelope_iff_spaced.1 h
      exact .cons rfl (by decide)
    | error h =>
      obtain ⟨spaced, -, rfl⟩ := envelope_iff_spaced.1 h
      exact .cons rfl (by decide)
  eq_ok {text rest response} _ := by
    rw [envelope_eq_ok]
    constructor
    · rintro ⟨key, inner, behind, htext, hmember, hbehind⟩
      by_cases hresult : key = "result"
      · subst hresult
        obtain ⟨v, rfl, hvalue⟩ := (member_map (value (nestingLimit - 1)) Response.result).1 hmember
        obtain ⟨raw, hraw, heq⟩ :=
          (envelope_member (finds_value _)).1 ⟨inner, behind, htext, hvalue, hbehind⟩
        exact ⟨raw, .result hraw, heq⟩
      by_cases herror : key = "error"
      · subst herror
        obtain ⟨e, rfl, hvalue⟩ := (member_map remoteError Response.error).1 hmember
        obtain ⟨raw, hraw, heq⟩ :=
          (envelope_member finds_remoteError).1 ⟨inner, behind, htext, hvalue, hbehind⟩
        exact ⟨raw, .error hraw, heq⟩
      · obtain ⟨_, _, _, _, hbody⟩ := member_eq_ok.1 hmember
        unfold envelopeBody at hbody
        split at hbody
        · exact absurd rfl hresult
        · exact absurd rfl herror
        · cases hbody
    · rintro ⟨raw, hraw, htext⟩
      cases hraw with
      | result hraw =>
        obtain ⟨inner, behind, htext, hmember, hbehind⟩ :=
          (envelope_member (finds_value _)).2 ⟨raw, hraw, htext⟩
        exact ⟨"result", inner, behind, htext,
          (member_map (value (nestingLimit - 1)) Response.result).2 ⟨_, rfl, hmember⟩, hbehind⟩
      | error hraw =>
        obtain ⟨inner, behind, htext, hmember, hbehind⟩ :=
          (envelope_member finds_remoteError).2 ⟨raw, hraw, htext⟩
        exact ⟨"error", inner, behind, htext,
          (member_map remoteError Response.error).2 ⟨_, rfl, hmember⟩, hbehind⟩

/-- The envelope of a result is UTF-8 throughout. -/
theorem Envelope.isText {key : String} {depth : Nat} {text : List UInt8} {v : Value}
    (h : Spaced (Envelope key (ValueText depth)) text v) : IsText text := by
  refine h.isText fun h => ?_
  exact Enclosed.isText (MemberText.isText ValueText.isText QuotedText.isText) (by decide)
    (by decide) h

end Json

namespace Response

open Json (Value Spaced Envelope ErrorText ResponseText ValueText IsText)

theorem decode_eq_ok {payload : Payload} {response : Response} :
    decode payload = .ok response ↔ Spaced ResponseText payload response := by
  rw [← Json.wholly_eq_ok Json.finds_envelope]
  unfold decode
  split
  · next heq => rw [heq, Except.ok.injEq, Except.ok.injEq]
  · next heq =>
    rw [heq]
    exact ⟨nofun, nofun⟩

theorem spaced_result {payload : Payload} {v : Value} : Spaced ResponseText payload (.result v) ↔
    Spaced (Envelope "result" (ValueText (Json.nestingLimit - 1))) payload v := by
  constructor
  · rintro ⟨hbefore, h, hafter⟩
    cases h with
    | result h => exact ⟨hbefore, h, hafter⟩
  · rintro ⟨hbefore, h, hafter⟩
    exact ⟨hbefore, .result h, hafter⟩

theorem spaced_error {payload : Payload} {e : RemoteError} : Spaced ResponseText payload (.error e) ↔
    Spaced (Envelope "error" ErrorText) payload e := by
  constructor
  · rintro ⟨hbefore, h, hafter⟩
    cases h with
    | error h => exact ⟨hbefore, h, hafter⟩
  · rintro ⟨hbefore, h, hafter⟩
    exact ⟨hbefore, .error h, hafter⟩

/-- Every payload is one of three things. It is a result exactly if it is the UTF-8 text of an object
whose one member is a result that nests no deeper than an envelope leaves room for, and it stands for
that result; it is an error exactly if it is an object whose one member is a reported error, where
members that are no part of the error are told by their bytes alone; and if it is neither, it is a
malformed response. -/
theorem decodes_exactly_envelopes (payload : Payload) :
    (∀ v, decode payload = .ok (.result v) ↔
      IsText payload ∧ Spaced (Envelope "result" (ValueText (Json.nestingLimit - 1))) payload v) ∧
    (∀ e, decode payload = .ok (.error e) ↔ Spaced (Envelope "error" ErrorText) payload e) ∧
    ((∃ v, Spaced (Envelope "result" (ValueText (Json.nestingLimit - 1))) payload v) ∨
      (∃ e, Spaced (Envelope "error" ErrorText) payload e) ∨
      ∃ message, decode payload = .error (.transport .malformedResponse message)) := by
  refine ⟨fun v => ?_, fun e => decode_eq_ok.trans spaced_error, ?_⟩
  · rw [decode_eq_ok, spaced_result]
    exact ⟨fun h => ⟨Json.Envelope.isText h, h⟩, And.right⟩
  · cases hdecode : decode payload with
    | ok response =>
      have hspaced := decode_eq_ok.1 hdecode
      cases response with
      | result v => exact .inl ⟨v, spaced_result.1 hspaced⟩
      | error e => exact .inr (.inl ⟨e, spaced_error.1 hspaced⟩)
    | error error =>
      unfold decode at hdecode
      split at hdecode
      · cases hdecode
      · cases hdecode
        exact .inr (.inr ⟨_, rfl⟩)

/-- An error with a further member whose string is a single byte that no UTF-8 has. -/
def garbledAside : Payload :=
  "\x7b\"error\":\x7b\"kind\":\"k\",\"message\":\"m\",\"x\":\"".toByteArray.data.toList ++
    0xff :: "\"\x7d\x7d".toByteArray.data.toList

/-- Bytes that are no text, and that are refused as JSON where they are a message, are read as an
error all the same. -/
theorem decode_garbledAside :
    decode garbledAside = .ok (.error ⟨"k", "m"⟩) ∧
      decodeMessage garbledAside = .error (.serialization "payload is not valid JSON: invalid UTF-8") ∧
      ¬ IsText garbledAside := by
  refine ⟨rfl, rfl, fun h => ?_⟩
  exact absurd (h.lt_of_mem 0xff (by decide)) (by decide)

end Response

end ServiceContract
