import ServiceContract.Proofs.Boundary.InProcess
import ServiceContract.Proofs.Boundary.Scopes
import ServiceContract.Proofs.Document.Sites
import ServiceContract.Proofs.Mirroring

/-!
# What a client sends, and what comes of it

Invokers and publishers are not trusted: they may report any error, and an invoker may answer with
any bytes. To say what a client hands to them, its transport is given a record. A call or a message
that is refused is refused before anything is sent, with an error of the caller's own. Otherwise
exactly one request or message is sent, to the endpoint that is bound and with the payload that was
accepted, and what then goes wrong is blamed on the transport, on the remote side or on its broken
contract, never on the caller. So whatever is worth another try was sent.
-/

namespace ServiceContract

open Json (Value Members)

variable {σ : Type}

/-! ## Recording what is sent -/

/-- What a client hands to its transport. -/
inductive Sending where
  /-- A request, for the invoker. -/
  | request (endpoint : String) (payload : Payload)
  /-- A message, for the publisher. -/
  | message (endpoint : String) (payload : Payload)

/-- The end of a run, with a record of what was sent. -/
def noted {α : Type} (sent : List Sending) :
    EStateM.Result Error σ α → EStateM.Result Error (σ × List Sending) α
  | .ok a s => .ok a (s, sent)
  | .error e s => .error e (s, sent)

/-- A step of the transport with a record of what it was given. -/
def recordedStep {α : Type} (sending : (endpoint : String) → Payload → Sending)
    (step : (endpoint : String) → Payload → EStateM Error σ α) (endpoint : String)
    (payload : Payload) : EStateM Error (σ × List Sending) α := fun (s, sent) =>
  noted (sent ++ [sending endpoint payload]) (step endpoint payload s)

/-- An invoker with a time limit and a record of what it was given, if a worker could be started. -/
def TimedInvoker.recorded (invoke : TimedInvoker σ) : TimedInvoker (σ × List Sending) :=
  fun endpoint payload (s, sent) =>
    match invoke endpoint payload s with
    | (.unstarted reason, s') => (.unstarted reason, s', sent)
    | (reply, s') => (reply, s', sent ++ [.request endpoint payload])

/-- The client with a record of what it sends. -/
def Client.recorded (client : Client σ) : Client (σ × List Sending) where
  id := client.id
  contract := client.contract
  invoke := recordedStep .request client.invoke
  publish? := client.publish?.map (recordedStep .message)

/-- A computation and its recorded form come to the same end, and that end goes together with what was
sent as it should. -/
def EndsRecorded {α : Type} (plain : EStateM Error σ α)
    (withRecord : EStateM Error (σ × List Sending) α)
    (ends : Except Error α → List Sending → Prop) : Prop :=
  ∀ s, ∃ sent, withRecord (s, []) = noted sent (plain s) ∧ ends (outcome plain s) sent

/-! ## How calls and messages may end -/

/-- Why a call is refused before anything is sent. -/
inductive CallRefused (contract : Contract) (bindings : Bindings) (name : String)
    (arguments : Members) : Error → Prop where
  /-- The function is not declared. -/
  | undeclared (h : ∀ function, contract.function name ≠ .ok function) :
      CallRefused contract bindings name arguments (.unknownFunction name)
  /-- It is not bound. -/
  | unbound {function : FunctionContract} (hdeclared : contract.function name = .ok function)
      (h : bindings.function? name = none) :
      CallRefused contract bindings name arguments (.unbound name)
  /-- There is an argument that is not declared. -/
  | unknownArgument {function : FunctionContract} {endpoint argument : String}
      (hdeclared : contract.function name = .ok function)
      (hbound : bindings.function? name = some endpoint)
      (h : function.checkArguments arguments = .error (.unknownArgument function.name argument)) :
      CallRefused contract bindings name arguments (.unknownArgument function.name argument)
  /-- Arguments are missing. -/
  | arity {function : FunctionContract} {endpoint : String} {missing : List String}
      (hdeclared : contract.function name = .ok function)
      (hbound : bindings.function? name = some endpoint)
      (h : function.checkArguments arguments = .error (.arity function.name missing)) :
      CallRefused contract bindings name arguments (.arity function.name missing)
  /-- An argument is not accepted. -/
  | invalid {function : FunctionContract} {endpoint : String} {violation : Violation}
      (hdeclared : contract.function name = .ok function)
      (hbound : bindings.function? name = some endpoint)
      (h : function.checkArguments arguments = .error (.validation violation)) :
      CallRefused contract bindings name arguments (.validation violation)

/-- What may come of a request for a function. -/
inductive CallAnswered (function : FunctionContract) : Except Error Value → Prop where
  /-- No result is declared. -/
  | nothing (h : function.returns = none) : CallAnswered function (.ok .null)
  /-- The result is accepted. -/
  | value {v : Value} (hdeclared : function.returns ≠ none) (h : function.checkResult v = .ok ()) :
      CallAnswered function (.ok v)
  /-- The transport failed, or what came back is no response. -/
  | transport {fault : TransportFault} {message : String} :
      CallAnswered function (.error (.transport fault message))
  /-- The remote side reports an error. -/
  | remote {kind message : String} : CallAnswered function (.error (.remote kind message))
  /-- The result is not accepted. -/
  | violation {v : Value} {violation : Violation} (h : function.checkResult v = .error violation) :
      CallAnswered function (.error (.contractViolation function.name violation))

/-- How a call may end, with what was sent: it is refused and nothing is sent, or it is accepted and
sent once. -/
inductive CallEnds (contract : Contract) (bindings : Bindings) (name : String)
    (arguments : Members) : Except Error Value → List Sending → Prop where
  /-- It is refused. -/
  | refused {e : Error} (h : CallRefused contract bindings name arguments e) :
      CallEnds contract bindings name arguments (.error e) []
  /-- It is sent. -/
  | sent {function : FunctionContract} {endpoint : String} {r : Except Error Value}
      (hdeclared : contract.function name = .ok function)
      (hbound : bindings.function? name = some endpoint)
      (haccepted : function.checkArguments arguments = .ok ()) (h : CallAnswered function r) :
      CallEnds contract bindings name arguments r [.request endpoint (encodeArguments arguments)]

/-- Why a message is refused before anything is sent. -/
inductive MessageRefused (client : Client σ) (bindings : Bindings) (name : String)
    (payload : Value) : Error → Prop where
  /-- The message is not declared. -/
  | undeclared (h : ∀ validator, client.contract.message name ≠ .ok validator) :
      MessageRefused client bindings name payload (.unknownMessage name)
  /-- It is not bound. -/
  | unbound {validator : Validator} (hdeclared : client.contract.message name = .ok validator)
      (h : bindings.message? name = none) :
      MessageRefused client bindings name payload (.unbound name)
  /-- The payload is not accepted. -/
  | invalid {validator : Validator} {violation : Violation}
      (hdeclared : client.contract.message name = .ok validator)
      (h : validator.check payload = .error violation) :
      MessageRefused client bindings name payload (.validation violation)
  /-- The client has no publisher. -/
  | mute {message : String} (h : client.publish? = none) :
      MessageRefused client bindings name payload (.config message)

/-- How publishing may end, with what was sent: the message is refused and nothing is sent, or it is
accepted and sent once, and then only the transport can fail. -/
inductive MessageEnds (client : Client σ) (bindings : Bindings) (name : String) (payload : Value) :
    Except Error Unit → List Sending → Prop where
  /-- It is refused. -/
  | refused {e : Error} (h : MessageRefused client bindings name payload e) :
      MessageEnds client bindings name payload (.error e) []
  /-- It is sent. -/
  | sent {validator : Validator} {endpoint : String} {r : Except Error Unit}
      (hdeclared : client.contract.message name = .ok validator)
      (hbound : bindings.message? name = some endpoint)
      (haccepted : validator.check payload = .ok ())
      (h : r = .ok () ∨ ∃ fault message, r = .error (.transport fault message)) :
      MessageEnds client bindings name payload r [.message endpoint (encodeMessage payload)]

/-! ## Checks -/

theorem Contract.function_error {contract : Contract} {name : String} {e : Error}
    (h : contract.function name = .error e) : e = .unknownFunction name := by
  unfold Contract.function at h
  split at h
  · cases h
  · cases h
    rfl

theorem Contract.message_error {contract : Contract} {name : String} {e : Error}
    (h : contract.message name = .error e) : e = .unknownMessage name := by
  unfold Contract.message at h
  split at h
  · cases h
  · cases h
    rfl

namespace FunctionContract

variable {arguments : Members} {e : Error}

theorem checkEach_error {checks : List (String × Validator)}
    (h : checkEach arguments checks = .error e) : ∃ violation, e = .validation violation := by
  induction checks with
  | nil => cases h
  | cons entry rest ih =>
    obtain ⟨name, validator⟩ := entry
    unfold checkEach at h
    cases hvalue : arguments.lookup name with
    | none =>
      rw [hvalue] at h
      exact ih h
    | some value =>
      rw [hvalue] at h
      cases hcheck : validator.check value with
      | ok _ =>
        simp only [hcheck, Except.mapError, bind, Except.bind] at h
        exact ih h
      | error violation =>
        simp only [hcheck, Except.mapError, bind, Except.bind] at h
        cases h
        exact ⟨_, rfl⟩

/-- Arguments are refused for one that is not declared, for missing ones, or for their values. -/
theorem checkArguments_error {function : FunctionContract}
    (h : function.checkArguments arguments = .error e) :
    (∃ argument, e = .unknownArgument function.name argument) ∨
      (∃ missing, e = .arity function.name missing) ∨ ∃ violation, e = .validation violation := by
  unfold checkArguments at h
  split at h
  · cases h
    exact .inl ⟨_, rfl⟩
  · split at h
    · exact .inr (.inr (checkEach_error h))
    · cases h
      exact .inr (.inl ⟨_, rfl⟩)

end FunctionContract

theorem Error.toTransport_eq (e : Error) : ∃ fault message, e.toTransport = .transport fault message := by
  cases e <;> exact ⟨_, _, rfl⟩

namespace Client

variable {client : Client σ} {contract : Contract} {bindings : Bindings} {name : String}
  {arguments : Members} {payload : Value}

/-- A request is prepared for what is declared, bound and accepted. -/
theorem prepare_ok {request : Request} (h : prepare contract bindings name arguments = .ok request) :
    contract.function name = .ok request.function ∧
      bindings.function? name = some request.endpoint ∧
      request.function.checkArguments arguments = .ok () ∧
      request.payload = encodeArguments arguments := by
  unfold prepare at h
  obtain ⟨function, hdeclared, h⟩ := bind_eq_ok.1 h
  cases hbound : bindings.function? name with
  | none =>
    rw [hbound] at h
    cases h
  | some endpoint =>
    rw [hbound] at h
    obtain ⟨_, haccepted, hpure⟩ := bind_eq_ok.1 h
    cases hpure
    exact ⟨hdeclared, rfl, haccepted, rfl⟩

theorem prepare_error {e : Error} (h : prepare contract bindings name arguments = .error e) :
    CallRefused contract bindings name arguments e := by
  unfold prepare at h
  cases hdeclared : contract.function name with
  | error e' =>
    rw [hdeclared] at h
    cases h
    rw [Contract.function_error hdeclared]
    exact .undeclared fun function hok => by cases hdeclared.symm.trans hok
  | ok function =>
    rw [hdeclared] at h
    dsimp only [bind, Except.bind] at h
    cases hbound : bindings.function? name with
    | none =>
      rw [hbound] at h
      cases h
      exact .unbound hdeclared hbound
    | some endpoint =>
      rw [hbound] at h
      cases hcheck : function.checkArguments arguments with
      | ok _ =>
        simp only [hcheck] at h
        cases h
      | error e' =>
        simp only [hcheck] at h
        cases h
        rcases FunctionContract.checkArguments_error hcheck with ⟨_, rfl⟩ | ⟨_, rfl⟩ | ⟨_, rfl⟩
        · exact .unknownArgument hdeclared hbound hcheck
        · exact .arity hdeclared hbound hcheck
        · exact .invalid hdeclared hbound hcheck

/-- Whatever bytes come back, they are a result that is accepted, or an error that is not the caller's. -/
theorem finish_answered (function : FunctionContract) (response : Payload) :
    CallAnswered function (finish function response) := by
  unfold finish
  cases hdecode : Response.decode response with
  | error e =>
    obtain ⟨message, rfl⟩ : ∃ message, e = .transport .malformedResponse message := by
      unfold Response.decode at hdecode
      split at hdecode
      · cases hdecode
      · cases hdecode
        exact ⟨_, rfl⟩
    exact .transport
  | ok response =>
    cases response with
    | error report => exact .remote
    | result v =>
      show CallAnswered function (if function.returns.isNone then _ else _)
      by_cases hnone : function.returns.isNone
      · rw [if_pos hnone]
        exact .nothing (Option.isNone_iff_eq_none.1 hnone)
      · rw [if_neg hnone]
        cases hcheck : function.checkResult v with
        | ok _ => exact .value (fun h => hnone (Option.isNone_iff_eq_none.2 h)) hcheck
        | error violation => exact .violation hcheck

/-! ## Runs -/

/-- A call is one run of the invoker between two checks. -/
theorem callWith_apply (client : Client σ) (bindings : Bindings) (name : String)
    (arguments : Members) (s : σ) : client.callWith bindings name arguments s =
      match prepare client.contract bindings name arguments with
      | .error e => .error e s
      | .ok request =>
        match client.invoke request.endpoint request.payload s with
        | .error e s' => .error e.toTransport s'
        | .ok response s' => ofExcept (finish request.function response) s' := by
  unfold callWith
  rw [ofExcept_bind]
  cases prepare client.contract bindings name arguments with
  | error e => rfl
  | ok request =>
    dsimp only
    show EStateM.bind _ _ s = _
    unfold EStateM.bind inTransport
    dsimp only
    cases client.invoke request.endpoint request.payload s <;> rfl

/-- A call with a time limit is one run of an invoker that may not answer. -/
theorem callWithin_apply {context : Context} (hactive : context.active client.id = some bindings)
    (invoke : TimedInvoker σ) (nanoseconds : Nat) (name : String) (arguments : Members) (s : σ) :
    client.callWithin context invoke nanoseconds name arguments s =
      match prepare client.contract bindings name arguments with
      | .error e => .error e s
      | .ok request =>
        match invoke request.endpoint request.payload s with
        | (.answered (.ok response), s') => ofExcept (finish request.function response) s'
        | (.answered (.error e), s') => .error e.toTransport s'
        | (.silent, s') => .error (.transport .timeout
            (s!"'{name}' did not answer within " ++ Text.duration nanoseconds)) s'
        | (.stopped, s') => .error (.transport .unavailable
            s!"invoker for '{name}' stopped without answering") s'
        | (.unstarted reason, s') => .error (.transport .unavailable
            s!"cannot start worker thread for '{name}': {reason}") s' := by
  unfold callWithin
  rw [requireActive_of_some hactive, ofExcept_bind]
  dsimp only
  rw [ofExcept_bind]
  cases prepare client.contract bindings name arguments with
  | error e => rfl
  | ok request =>
    dsimp only
    show EStateM.bind _ _ s = _
    unfold EStateM.bind
    dsimp only
    rcases invoke request.endpoint request.payload s with ⟨reply, s'⟩
    rcases reply with (e | response) | _ | _ | reason <;> rfl

/-- Publishing is one run of the publisher behind the checks. -/
theorem publishWith_apply (client : Client σ) (bindings : Bindings) (name : String)
    (payload : Value) (s : σ) : client.publishWith bindings name payload s =
      match client.contract.message name with
      | .error e => .error e s
      | .ok validator =>
        match bindings.message? name with
        | none => .error (.unbound name) s
        | some endpoint =>
          match validator.check payload with
          | .error violation => .error (.validation violation) s
          | .ok () =>
            match client.publish? with
            | none => .error (.config s!"no publisher configured for message '{name}'") s
            | some publish =>
              match publish endpoint (encodeMessage payload) s with
              | .error e s' => .error e.toTransport s'
              | .ok () s' => .ok () s' := by
  unfold publishWith
  rw [ofExcept_bind]
  cases client.contract.message name with
  | error e => rfl
  | ok validator =>
    dsimp only
    cases bindings.message? name with
    | none => rfl
    | some endpoint =>
      dsimp only
      rw [ofExcept_bind]
      cases validator.check payload with
      | error violation => rfl
      | ok _ =>
        dsimp only [Except.mapError]
        cases client.publish? with
        | none => rfl
        | some publish =>
          dsimp only [inTransport]
          cases publish endpoint (encodeMessage payload) s <;> rfl

/-! ## Recorded runs -/

/-- A run that checks something last comes to the end that the check comes to. -/
theorem endsRecorded_of_ofExcept {α : Type} {plain : EStateM Error σ α}
    {withRecord : EStateM Error (σ × List Sending) α} {ends : Except Error α → List Sending → Prop}
    {s s' : σ} {sent : List Sending} {r : Except Error α} (hplain : plain s = ofExcept r s')
    (hrecorded : withRecord (s, []) = ofExcept r (s', sent)) (h : ends r sent) :
    ∃ sent, withRecord (s, []) = noted sent (plain s) ∧ ends (outcome plain s) sent := by
  refine ⟨sent, ?_, ?_⟩
  · rw [hplain, hrecorded]
    cases r <;> rfl
  · have hends : outcome plain s = r := by
      unfold outcome
      rw [hplain]
      cases r <;> rfl
    rwa [hends]

/-- What the transport reports is not the caller's error. -/
theorem toTransport_answered (function : FunctionContract) (e : Error) :
    CallAnswered function (.error e.toTransport) := by
  obtain ⟨fault, message, htransport⟩ := e.toTransport_eq
  rw [htransport]
  exact .transport

section Recorded

variable (client : Client σ) (bindings : Bindings) (name : String) (arguments : Members)
  (payload : Value)

theorem callWith_endsRecorded : EndsRecorded (client.callWith bindings name arguments)
    (client.recorded.callWith bindings name arguments)
    (CallEnds client.contract bindings name arguments) := by
  intro s
  have hplain := client.callWith_apply bindings name arguments s
  have hrecorded := client.recorded.callWith_apply bindings name arguments (s, [])
  rw [show client.recorded.contract = client.contract from rfl] at hrecorded
  cases hprepare : prepare client.contract bindings name arguments with
  | error e =>
    rw [hprepare] at hplain hrecorded
    exact endsRecorded_of_ofExcept (r := .error e) hplain hrecorded (.refused (prepare_error hprepare))
  | ok request =>
    obtain ⟨hdeclared, hbound, haccepted, hpayload⟩ := prepare_ok hprepare
    rw [hprepare] at hplain hrecorded
    dsimp only at hplain hrecorded
    have hinvoke : client.recorded.invoke request.endpoint request.payload (s, []) =
        noted [.request request.endpoint request.payload]
          (client.invoke request.endpoint request.payload s) := rfl
    rw [hinvoke, hpayload] at hrecorded
    rw [hpayload] at hplain
    cases hanswer : client.invoke request.endpoint (encodeArguments arguments) s with
    | error e s' =>
      rw [hanswer] at hplain hrecorded
      exact endsRecorded_of_ofExcept (r := .error e.toTransport) hplain hrecorded
        (.sent hdeclared hbound haccepted (toTransport_answered request.function e))
    | ok response s' =>
      rw [hanswer] at hplain hrecorded
      exact endsRecorded_of_ofExcept hplain hrecorded
        (.sent hdeclared hbound haccepted (finish_answered request.function response))

/-- Whatever the reply, a call whose worker starts ends as one without a time limit may. -/
theorem callWithin_endsRecorded {context : Context}
    (hactive : context.active client.id = some bindings) {invoke : TimedInvoker σ}
    (hstarts : ∀ endpoint payload s reason s', invoke endpoint payload s ≠ (.unstarted reason, s'))
    (nanoseconds : Nat) :
    EndsRecorded (client.callWithin context invoke nanoseconds name arguments)
      (client.recorded.callWithin context invoke.recorded nanoseconds name arguments)
      (CallEnds client.contract bindings name arguments) := by
  intro s
  have hplain := client.callWithin_apply hactive invoke nanoseconds name arguments s
  have hrecorded := client.recorded.callWithin_apply
    (show context.active client.recorded.id = some bindings from hactive) invoke.recorded nanoseconds
    name arguments (s, [])
  rw [show client.recorded.contract = client.contract from rfl] at hrecorded
  cases hprepare : prepare client.contract bindings name arguments with
  | error e =>
    rw [hprepare] at hplain hrecorded
    exact endsRecorded_of_ofExcept (r := .error e) hplain hrecorded (.refused (prepare_error hprepare))
  | ok request =>
    obtain ⟨hdeclared, hbound, haccepted, hpayload⟩ := prepare_ok hprepare
    rw [hprepare] at hplain hrecorded
    dsimp only [TimedInvoker.recorded] at hplain hrecorded
    rw [hpayload] at hplain hrecorded
    have hsent {r : Except Error Value} {s' : σ}
        (hplain : client.callWithin context invoke nanoseconds name arguments s = ofExcept r s')
        (hrecorded : client.recorded.callWithin context invoke.recorded nanoseconds name arguments
          (s, []) = ofExcept r (s', [.request request.endpoint (encodeArguments arguments)]))
        (h : CallAnswered request.function r) :=
      endsRecorded_of_ofExcept hplain hrecorded
        (CallEnds.sent hdeclared hbound haccepted h)
    rcases hreply : invoke request.endpoint (encodeArguments arguments) s with
      ⟨(e | response) | _ | _ | reason, s'⟩
    · rw [hreply] at hplain hrecorded
      exact hsent (r := .error e.toTransport) hplain hrecorded
        (toTransport_answered request.function e)
    · rw [hreply] at hplain hrecorded
      exact hsent hplain hrecorded (finish_answered request.function response)
    · rw [hreply] at hplain hrecorded
      exact hsent (r := .error (.transport ..)) hplain hrecorded .transport
    · rw [hreply] at hplain hrecorded
      exact hsent (r := .error (.transport ..)) hplain hrecorded .transport
    · exact (hstarts _ _ _ _ _ hreply).elim

theorem publishWith_endsRecorded : EndsRecorded (client.publishWith bindings name payload)
    (client.recorded.publishWith bindings name payload)
    (MessageEnds client bindings name payload) := by
  intro s
  have hplain := client.publishWith_apply bindings name payload s
  have hrecorded := client.recorded.publishWith_apply bindings name payload (s, [])
  rw [show client.recorded.contract = client.contract from rfl] at hrecorded
  cases hdeclared : client.contract.message name with
  | error e =>
    rw [hdeclared] at hplain hrecorded
    refine endsRecorded_of_ofExcept (r := .error e) hplain hrecorded (.refused ?_)
    rw [Contract.message_error hdeclared]
    exact .undeclared fun validator hok => by cases hdeclared.symm.trans hok
  | ok validator =>
    rw [hdeclared] at hplain hrecorded
    dsimp only at hplain hrecorded
    cases hbound : bindings.message? name with
    | none =>
      rw [hbound] at hplain hrecorded
      exact endsRecorded_of_ofExcept (r := .error _) hplain hrecorded (.refused (.unbound hdeclared hbound))
    | some endpoint =>
      rw [hbound] at hplain hrecorded
      dsimp only at hplain hrecorded
      cases hcheck : validator.check payload with
      | error violation =>
        rw [hcheck] at hplain hrecorded
        exact endsRecorded_of_ofExcept (r := .error _) hplain hrecorded
          (.refused (.invalid hdeclared hcheck))
      | ok _ =>
        rw [hcheck] at hplain hrecorded
        cases hpublish : client.publish? with
        | none =>
          have hmute : client.recorded.publish? = none := by
            show client.publish?.map _ = none
            rw [hpublish]
            rfl
          rw [hpublish] at hplain
          rw [hmute] at hrecorded
          exact endsRecorded_of_ofExcept (r := .error _) hplain hrecorded (.refused (.mute hpublish))
        | some publish =>
          have hspeaks : client.recorded.publish? =
              some (recordedStep .message publish) := by
            show client.publish?.map _ = _
            rw [hpublish]
            rfl
          rw [hpublish] at hplain
          rw [hspeaks] at hrecorded
          dsimp only [recordedStep] at hplain hrecorded
          cases hanswer : publish endpoint (encodeMessage payload) s with
          | error e s' =>
            rw [hanswer] at hplain hrecorded
            exact endsRecorded_of_ofExcept (r := .error e.toTransport) hplain hrecorded
              (.sent hdeclared hbound hcheck (.inr (by
                obtain ⟨fault, message, htransport⟩ := e.toTransport_eq
                exact ⟨fault, message, by rw [htransport]⟩)))
          | ok _ s' =>
            rw [hanswer] at hplain hrecorded
            exact endsRecorded_of_ofExcept (r := .ok ()) hplain hrecorded
              (.sent hdeclared hbound hcheck (.inl rfl))

/-- An invoker that answers in time does not show that there is a time limit. -/
theorem callWithin_eq_callWith {context : Context}
    (hactive : context.active client.id = some bindings) {invoke : TimedInvoker σ} {s : σ}
    (hinTime : ∀ request, prepare client.contract bindings name arguments = .ok request →
      invoke request.endpoint request.payload s =
        client.invoke.timed request.endpoint request.payload s) (nanoseconds : Nat) :
    client.callWithin context invoke nanoseconds name arguments s =
      client.callWith bindings name arguments s := by
  rw [callWithin_apply hactive, callWith_apply]
  cases hprepare : prepare client.contract bindings name arguments with
  | error e => rfl
  | ok request =>
    dsimp only
    rw [hinTime request hprepare, Invoker.timed]
    cases client.invoke request.endpoint request.payload s <;> rfl

end Recorded

/-- A call that is worth another try was sent. -/
theorem sent_of_callEnds {e : Error} {sent : List Sending} (hretry : e.isRetryable)
    (h : CallEnds contract bindings name arguments (.error e) sent) : sent ≠ [] := by
  cases h with
  | refused hrefused => cases hrefused <;> cases hretry
  | sent => exact List.cons_ne_nil _ _

/-- A message that is worth another try was sent. -/
theorem sent_of_messageEnds {e : Error} {sent : List Sending} (hretry : e.isRetryable)
    (h : MessageEnds client bindings name payload (.error e) sent) : sent ≠ [] := by
  cases h with
  | refused hrefused => cases hrefused <;> cases hretry
  | sent => exact List.cons_ne_nil _ _

/-- Whatever its invoker and its publisher do, a client sends what is accepted, and that once, or it
refuses with an error of the caller's own and sends nothing; so whatever is worth another try was sent.
The bindings may be given or active, and a time limit makes no difference unless it passes. -/
theorem sends_once_or_refuses (client : Client σ) (context : Context) (name : String)
    (arguments : Members) (payload : Value) :
    (∀ bindings,
      EndsRecorded (client.callWith bindings name arguments)
        (client.recorded.callWith bindings name arguments)
        (CallEnds client.contract bindings name arguments) ∧
      EndsRecorded (client.publishWith bindings name payload)
        (client.recorded.publishWith bindings name payload)
        (MessageEnds client bindings name payload) ∧
      (∀ e sent, e.isRetryable → CallEnds client.contract bindings name arguments (.error e) sent ∨
        MessageEnds client bindings name payload (.error e) sent → sent ≠ []) ∧
      (context.active client.id = some bindings →
        client.call context name arguments = client.callWith bindings name arguments ∧
        client.publish context name payload = client.publishWith bindings name payload ∧
        ∀ invoke nanoseconds,
          (∀ s, (∀ request, prepare client.contract bindings name arguments = .ok request →
              invoke request.endpoint request.payload s =
                client.invoke.timed request.endpoint request.payload s) →
            client.callWithin context invoke nanoseconds name arguments s =
              client.callWith bindings name arguments s) ∧
          ((∀ endpoint payload s reason s', invoke endpoint payload s ≠ (.unstarted reason, s')) →
            EndsRecorded (client.callWithin context invoke nanoseconds name arguments)
              (client.recorded.callWithin context invoke.recorded nanoseconds name arguments)
              (CallEnds client.contract bindings name arguments)))) ∧
    (context.active client.id = none →
      client.call context name arguments = throw (.unbound name) ∧
      (∀ invoke nanoseconds,
        client.callWithin context invoke nanoseconds name arguments = throw (.unbound name)) ∧
      client.publish context name payload = throw (.unbound name)) := by
  refine ⟨fun bindings => ⟨callWith_endsRecorded client bindings name arguments,
    publishWith_endsRecorded client bindings name payload, ?_, fun hactive => ?_⟩,
    fun hnone => unbound_of_inactive hnone arguments payload⟩
  · rintro e sent hretry (hcall | hmessage)
    · exact sent_of_callEnds hretry hcall
    · exact sent_of_messageEnds hretry hmessage
  · refine ⟨(calls_of_active hactive arguments payload).1,
      (calls_of_active hactive arguments payload).2.2,
      fun invoke nanoseconds => ⟨fun s hinTime => ?_, fun hstarts => ?_⟩⟩
    · exact callWithin_eq_callWith client bindings name arguments hactive hinTime nanoseconds
    · exact callWithin_endsRecorded client bindings name arguments hactive hstarts nanoseconds

end Client

namespace Sample

/-- A client whose invoker puts the blame on the caller. -/
def blaming : Client Nat :=
  ⟨0, echo, fun _ _ runs => .error (.validation (.here "not accepted")) (runs + 1), none⟩

/-- The bindings under which it calls. -/
def bindings : Bindings := Bindings.empty.withFunction "echo" "there"

end Sample

/-- The blame is not passed on, and the one request that was made is worth another, with a time limit
or without. -/
theorem Client.sends_once_or_refuses_blaming :
    (Context.empty.bind 0 Sample.bindings).2.active 0 = some Sample.bindings ∧
    (∃ e sent, Sample.blaming.recorded.callWith Sample.bindings "echo" [("value", .null)] (0, []) =
      .error e (1, sent) ∧ e.isRetryable ∧ sent ≠ []) ∧
    Sample.blaming.callWithin (Context.empty.bind 0 Sample.bindings).2 Sample.blaming.invoke.timed 1
        "echo" [("value", .null)] 0 =
      Sample.blaming.callWith Sample.bindings "echo" [("value", .null)] 0 ∧
    EndsRecorded
      (Sample.blaming.callWithin (Context.empty.bind 0 Sample.bindings).2 Sample.blaming.invoke.timed 1
        "echo" [("value", .null)])
      (Sample.blaming.recorded.callWithin (Context.empty.bind 0 Sample.bindings).2
        Sample.blaming.invoke.timed.recorded 1 "echo" [("value", .null)])
      (CallEnds Sample.echo Sample.bindings "echo" [("value", .null)]) ∧
    Sample.blaming.call .empty "echo" [("value", .null)] 0 = .error (.unbound "echo") 0 := by
  have hactive : (Context.empty.bind 0 Sample.bindings).2.active 0 = some Sample.bindings := by rfl
  obtain ⟨hbound, -⟩ := sends_once_or_refuses Sample.blaming (Context.empty.bind 0 Sample.bindings).2
    "echo" [("value", .null)] .null
  obtain ⟨hcall, -, hretry, hwhen⟩ := hbound Sample.bindings
  obtain ⟨-, -, hwithin⟩ := hwhen hactive
  obtain ⟨hinTime, hstarts⟩ := hwithin Sample.blaming.invoke.timed 1
  obtain ⟨-, hunbound⟩ := sends_once_or_refuses Sample.blaming .empty "echo" [("value", .null)] .null
  refine ⟨hactive, ?_, hinTime 0 fun request hrequest => rfl, hstarts fun _ _ s reason s' h => ?_, ?_⟩
  · obtain ⟨sent, hrun, hends⟩ := hcall 0
    have hplain : Sample.blaming.callWith Sample.bindings "echo" [("value", .null)] 0 =
      .error (.transport .unavailable (Error.validation (.here "not accepted")).text) 1 := by rfl
    rw [outcome_eq_error.2 ⟨_, hplain⟩] at hends
    rw [hplain] at hrun
    exact ⟨_, sent, hrun, rfl, hretry _ sent rfl (.inl hends)⟩
  · cases h
  · rw [(hunbound rfl).1]
    rfl

end ServiceContract
