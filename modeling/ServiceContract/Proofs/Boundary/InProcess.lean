import ServiceContract.Boundary.EntryPoint
import ServiceContract.Proofs.Boundary.Payloads
import ServiceContract.Proofs.Table

/-!
# Calls in the same process

A dispatcher answers the requests of a client in the same process. Between the two stand the checks of
both sides, two encodings and an envelope. The first check is the client's and its error is returned as
it is; whatever goes wrong behind the boundary comes back as a report of the remote side. The arguments
reach the handler as their text is read, and so does its result the caller. As long as both texts are
read as what was written, a call comes to the same as checking the arguments, running the handler once
on them, and checking its result. A number that is read as its neighbour can make the difference.
-/

namespace ServiceContract

open Json (Value Members)

variable {σ : Type}

/-! ## Dispatchers of a contract -/

namespace Dispatcher

/-- A dispatcher that was made for a contract, by registering handlers one after the other. -/
inductive Over (contract : Contract) : Dispatcher σ → Prop where
  /-- Without handlers. -/
  | new : Over contract (Dispatcher.new contract)
  /-- With one more handler. -/
  | withFunction {dispatcher extended : Dispatcher σ} {name : String} {handler : Handler σ}
      (h : Over contract dispatcher) (hadd : dispatcher.withFunction name handler = .ok extended) :
      Over contract extended

/-- The handler that is registered for a function. -/
def handler? (dispatcher : Dispatcher σ) (name : String) : Option (Handler σ) :=
  (dispatcher.entries.lookup name).map EntryPoint.handler

/-- A handler is registered together with the checks of its function. -/
theorem withFunction_ok {dispatcher extended : Dispatcher σ} {name : String} {handler : Handler σ}
    (h : dispatcher.withFunction name handler = .ok extended) :
    ∃ function, dispatcher.contract.function name = .ok function ∧
      extended = ⟨dispatcher.contract, putEntry name ⟨function, handler⟩ dispatcher.entries⟩ := by
  unfold withFunction EntryPoint.new at h
  split at h
  · cases h
  · cases hfunction : dispatcher.contract.function name with
    | error e =>
      rw [hfunction] at h
      cases h
    | ok function =>
      rw [hfunction] at h
      cases h
      exact ⟨function, rfl, rfl⟩

/-- Every entry point has the checks of the function it is registered for. -/
theorem Over.entries {contract : Contract} {dispatcher : Dispatcher σ}
    (h : dispatcher.Over contract) : dispatcher.contract = contract ∧
      ∀ name entry, dispatcher.entries.lookup name = some entry →
        contract.function name = .ok entry.function := by
  induction h with
  | new => exact ⟨rfl, nofun⟩
  | withFunction _ hadd ih =>
    obtain ⟨rfl, hentries⟩ := ih
    obtain ⟨function, hfunction, rfl⟩ := withFunction_ok hadd
    exact ⟨rfl, fun _ _ hlookup => forall_lookup_putEntry hentries hfunction hlookup⟩

/-- A registered handler is found with the checks of its function. -/
theorem Over.entry {contract : Contract} {dispatcher : Dispatcher σ} {name : String}
    {function : FunctionContract} {handler : Handler σ} (h : dispatcher.Over contract)
    (hfunction : contract.function name = .ok function)
    (hhandler : dispatcher.handler? name = some handler) :
    dispatcher.entry name = .ok ⟨function, handler⟩ := by
  obtain ⟨hcontract, hentries⟩ := h.entries
  obtain ⟨entry, hlookup, hentry⟩ := Option.map_eq_some_iff.1 hhandler
  have hchecks : function = entry.function :=
    Except.ok.inj (hfunction.symm.trans (hentries name entry hlookup))
  unfold Dispatcher.entry
  rw [hcontract, hfunction, hlookup, hchecks, ← hentry]
  rfl

/-- A request is answered by the entry point of its function. -/
theorem respond_of_entry {dispatcher : Dispatcher σ} {name : String} {entry : EntryPoint σ}
    (h : dispatcher.entry name = .ok entry) (payload : Payload) :
    dispatcher.respond name payload = entry.respond payload := by
  unfold respond dispatch
  rw [h]
  rfl

end Dispatcher

/-! ## What a call comes to -/

namespace FunctionContract

/-- A function as its caller sees it: the arguments are checked, the handler runs, and its result is
checked. What goes wrong behind the first check is reported by the remote side. -/
def direct (function : FunctionContract) (handler : Handler σ) (arguments : Members) :
    EStateM Error σ Value := fun s =>
  match function.checkArguments arguments with
  | .error e => .error e s
  | .ok () =>
    match handler arguments s with
    | .error e s' => .error (.remote e.kind e.text) s'
    | .ok v s' =>
      if function.returns.isNone then .ok .null s'
      else
        match function.checkResult v with
        | .ok () => .ok v s'
        | .error violation =>
          .error (.remote "contract-violation"
            (Error.contractViolation function.name violation).text) s'

/-- What either side makes of a result: null where none is declared, otherwise the result itself if
it is accepted. -/
def answer (function : FunctionContract) (v : Value) : Except Error Value :=
  if function.returns.isNone then .ok .null
  else
    match function.checkResult v with
    | .ok () => .ok v
    | .error violation => .error (.contractViolation function.name violation)

/-- An answer is the result or null, and stays as it is on the other side. -/
theorem answer_ok {function : FunctionContract} {v w : Value} (h : function.answer v = .ok w) :
    (w = .null ∨ w = v) ∧ function.answer w = .ok w := by
  unfold answer at h ⊢
  by_cases hnone : function.returns.isNone
  · rw [if_pos hnone] at h ⊢
    cases h
    exact ⟨.inl rfl, rfl⟩
  · rw [if_neg hnone] at h ⊢
    cases hcheck : function.checkResult v with
    | ok _ =>
      rw [hcheck] at h
      cases h
      rw [hcheck]
      exact ⟨.inr rfl, rfl⟩
    | error violation =>
      rw [hcheck] at h
      cases h

theorem direct_of_accepted {function : FunctionContract} {arguments : Members}
    (h : function.checkArguments arguments = .ok ()) (handler : Handler σ) (s : σ) :
    function.direct handler arguments s =
      match handler arguments s with
      | .error e s' => .error (.remote e.kind e.text) s'
      | .ok v s' =>
        match function.answer v with
        | .ok w => .ok w s'
        | .error e => .error (.remote e.kind e.text) s' := by
  unfold direct answer
  rw [h]
  dsimp only
  cases handler arguments s with
  | error e s' => rfl
  | ok v s' =>
    dsimp only
    split
    · rfl
    · cases function.checkResult v <;> rfl

/-- What the caller gets of the text of a result: the result is read again, and checked again. -/
def received (function : FunctionContract) (v : Value) : Except Error Value :=
  match v.reread (Json.nestingLimit - 1) with
  | .ok w => function.answer w
  | .error fault => .error (Response.malformed fault)

/-- A function as its caller sees it through the texts between both sides. Either side checks the
arguments, the other one as it reads them, and so it goes with the result. What goes wrong behind the
first check and before the result is read is reported by the remote side. -/
def across (function : FunctionContract) (handler : Handler σ) (arguments : Members) :
    EStateM Error σ Value := fun s =>
  match function.checkArguments arguments with
  | .error e => .error e s
  | .ok () =>
    match Value.rereadMembers (Json.nestingLimit - 1) arguments with
    | .error fault => .error (.remote (Error.unreadable fault).kind (Error.unreadable fault).text) s
    | .ok arrived =>
      match function.checkArguments arrived with
      | .error e => .error (.remote e.kind e.text) s
      | .ok () =>
        match handler arrived s with
        | .error e s' => .error (.remote e.kind e.text) s'
        | .ok v s' =>
          match function.answer v with
          | .error e => .error (.remote e.kind e.text) s'
          | .ok w => Client.ofExcept (function.received w) s'

/-- A result that is read as itself is what the caller gets. -/
theorem received_of_reread {function : FunctionContract} {v w : Value}
    (hanswer : function.answer v = .ok w) (hread : v.reread (Json.nestingLimit - 1) = .ok v) :
    function.received w = .ok w := by
  obtain ⟨hw, hstays⟩ := answer_ok hanswer
  have hsame : w.reread (Json.nestingLimit - 1) = .ok w := by
    rcases hw with rfl | rfl
    · rfl
    · exact hread
  unfold received
  rw [hsame]
  exact hstays

/-- Where the texts are read as what was written, nothing is seen of them. -/
theorem across_eq_direct {function : FunctionContract} {handler : Handler σ} {arguments : Members}
    {s : σ} (harguments : Value.rereadMembers (Json.nestingLimit - 1) arguments = .ok arguments)
    (hresult : ∀ v s', handler arguments s = .ok v s' → v.reread (Json.nestingLimit - 1) = .ok v) :
    function.across handler arguments s = function.direct handler arguments s := by
  unfold across
  rw [harguments]
  dsimp only
  cases haccepted : function.checkArguments arguments with
  | error e =>
    unfold direct
    rw [haccepted]
  | ok _ =>
    rw [function.direct_of_accepted haccepted]
    dsimp only
    cases hhandler : handler arguments s with
    | error e s' => rfl
    | ok v s' =>
      dsimp only
      cases hanswer : function.answer v with
      | error e => rfl
      | ok w =>
        dsimp only
        rw [received_of_reread hanswer (hresult v s' hhandler)]
        rfl

end FunctionContract

/-- What follows a step without state. -/
theorem Client.ofExcept_bind {α β : Type} (x : Except Error α) (next : α → EStateM Error σ β)
    (s : σ) : (Client.ofExcept x >>= next) s = match x with
      | .ok a => next a s
      | .error e => .error e s := by
  cases x <;> rfl

namespace EntryPoint

/-- Accepted arguments are handed to the handler, and its result is checked. -/
theorem invoke_of_accepted {entry : EntryPoint σ} {arguments : Members}
    (h : entry.function.checkArguments arguments = .ok ()) (s : σ) :
    entry.invoke arguments s =
      match entry.handler arguments s with
      | .error e s' => .error e s'
      | .ok v s' =>
        match entry.function.answer v with
        | .ok w => .ok w s'
        | .error e => .error e s' := by
  unfold invoke FunctionContract.answer
  rw [Client.ofExcept_bind, h]
  show EStateM.bind _ _ s = _
  unfold EStateM.bind
  cases entry.handler arguments s with
  | error e s' => rfl
  | ok v s' =>
    dsimp only
    split
    · rfl
    · cases entry.function.checkResult v <;> rfl

/-- Refused arguments are reported, and nothing runs. -/
theorem enveloped_of_refused {entry : EntryPoint σ} {arguments : Members} {e : Error}
    (h : entry.function.checkArguments arguments = .error e) (s : σ) :
    enveloped (entry.invoke arguments) s = ((Response.ofError e).encode, s) := by
  unfold enveloped invoke
  rw [Client.ofExcept_bind, h]

end EntryPoint

/-! ## The client's side of an envelope -/

namespace Client

/-- Whether a request for a bound function goes out depends on its arguments alone. -/
theorem prepare_of_bound {contract : Contract} {bindings : Bindings} {name endpoint : String}
    {function : FunctionContract} (hdeclared : contract.function name = .ok function)
    (hbound : bindings.function? name = some endpoint) (arguments : Members) :
    prepare contract bindings name arguments =
      match function.checkArguments arguments with
      | .ok () => .ok ⟨function, endpoint, encodeArguments arguments⟩
      | .error e => .error e := by
  unfold prepare
  rw [hdeclared]
  dsimp only [bind, Except.bind]
  rw [hbound]
  cases function.checkArguments arguments <;> rfl

/-- A reported error leaves the client as one of the remote side. -/
theorem finish_error (function : FunctionContract) (e : Error) :
    finish function (Response.ofError e).encode = .error (.remote e.kind e.text) := by
  unfold finish Response.ofError
  rw [Response.decode_encode_error]
  rfl

/-- A result is read again and checked. -/
theorem finish_result (function : FunctionContract) {v : Value} (hkeys : v.DistinctKeys) :
    finish function (Response.result v).encode = function.received v := by
  unfold finish FunctionContract.received
  rw [Response.decode_encode_result hkeys]
  cases v.reread (Json.nestingLimit - 1) with
  | error fault => rfl
  | ok w =>
    dsimp only
    unfold FunctionContract.answer
    show (if function.returns.isNone then _ else _) = _
    by_cases hnone : function.returns.isNone
    · rw [if_pos hnone, if_pos hnone]
      rfl
    · rw [if_neg hnone, if_neg hnone]
      cases function.checkResult w <;> rfl

/-- What comes back of a request that arrived: the client makes of the envelope what the outcome behind
the boundary is. -/
theorem finish_enveloped {function : FunctionContract} {handler : Handler σ} {arrived : Members} {s : σ}
    (haccepted : function.checkArguments arrived = .ok ())
    (hresult : ∀ v s', handler arrived s = .ok v s' → v.DistinctKeys) :
    ofExcept (finish function
        (EntryPoint.enveloped ((EntryPoint.mk function handler).invoke arrived) s).1)
      (EntryPoint.enveloped ((EntryPoint.mk function handler).invoke arrived) s).2 =
        match handler arrived s with
        | .error e s' => .error (.remote e.kind e.text) s'
        | .ok v s' =>
          match function.answer v with
          | .error e => .error (.remote e.kind e.text) s'
          | .ok w => ofExcept (function.received w) s' := by
  have hinvoke := @EntryPoint.invoke_of_accepted σ ⟨function, handler⟩ arrived haccepted s
  unfold EntryPoint.enveloped
  rw [hinvoke]
  dsimp only
  cases hhandler : handler arrived s with
  | error e s' =>
    dsimp only
    rw [finish_error]
    rfl
  | ok v s' =>
    dsimp only
    cases hanswer : function.answer v with
    | error e =>
      dsimp only
      rw [finish_error]
      rfl
    | ok w =>
      have hkeys : w.DistinctKeys := by
        rcases (FunctionContract.answer_ok hanswer).1 with rfl | rfl
        · exact .null
        · exact hresult _ s' hhandler
      dsimp only
      rw [finish_result function hkeys]

/-- A call goes through the checks of both sides and the texts between them. -/
theorem callWith_eq_across {contract : Contract} {name : String} {function : FunctionContract}
    (hdeclared : contract.function name = .ok function)
    {dispatcher : Dispatcher σ} (hover : dispatcher.Over contract) {handler : Handler σ}
    (hhandler : dispatcher.handler? name = some handler)
    {client : Client σ} (hcontract : client.contract = contract)
    (hinvoker : client.invoke = dispatcher.invoker)
    {bindings : Bindings} (hbound : bindings.function? name = some name)
    {arguments : Members} (hkeys : (Value.object arguments).DistinctKeys) {s : σ}
    (hresult : ∀ arrived v s', Value.rereadMembers 126 arguments = .ok arrived →
      handler arrived s = .ok v s' → v.DistinctKeys) :
    client.callWith bindings name arguments s = function.across handler arguments s := by
  have hrespond := Dispatcher.respond_of_entry (hover.entry hdeclared hhandler)
    (encodeArguments arguments)
  unfold callWith FunctionContract.across
  rw [ofExcept_bind, hcontract, prepare_of_bound hdeclared hbound]
  cases haccepted : function.checkArguments arguments with
  | error e => rfl
  | ok _ =>
    dsimp only
    rw [hinvoker]
    unfold Dispatcher.invoker
    rw [hrespond]
    show ofExcept (finish function (EntryPoint.enveloped _ s).1) (EntryPoint.enveloped _ s).2 = _
    unfold EntryPoint.handle
    rw [decodeArguments_encodeArguments hkeys]
    cases harrives : Value.rereadMembers (Json.nestingLimit - 1) arguments with
    | error fault =>
      show ofExcept (finish function (Response.ofError (.unreadable fault)).encode) s = _
      rw [finish_error]
      rfl
    | ok arrived =>
      show ofExcept (finish function (EntryPoint.enveloped
          ((EntryPoint.mk function handler).invoke arrived) s).1)
        (EntryPoint.enveloped ((EntryPoint.mk function handler).invoke arrived) s).2 = _
      dsimp only
      cases harrived : function.checkArguments arrived with
      | error e =>
        have hrefused := @EntryPoint.enveloped_of_refused σ ⟨function, handler⟩ arrived e harrived s
        rw [hrefused, finish_error]
        rfl
      | ok _ =>
        exact finish_enveloped harrived fun v s' => hresult arrived v s' harrives

/-- A call through a dispatcher of the same contract is a call of the handler, as far as the texts
between both sides are read as what was written. In any case rejected arguments never reach the handler,
and it runs once at most, on the arguments as their text is read. If the arguments nest at most 127
levels and its result at most 126, and all their floating-point numbers are read as themselves, then
accepted arguments reach it as they are, its result is returned if it is accepted and as null if none is
declared, and what goes wrong there is reported with its kind and its wording. -/
theorem callWith_inProcess {contract : Contract} {name : String} {function : FunctionContract}
    (hdeclared : contract.function name = .ok function)
    {dispatcher : Dispatcher σ} (hover : dispatcher.Over contract) {handler : Handler σ}
    (hhandler : dispatcher.handler? name = some handler)
    {client : Client σ} (hcontract : client.contract = contract)
    (hinvoker : client.invoke = dispatcher.invoker)
    {bindings : Bindings} (hbound : bindings.function? name = some name)
    {arguments : Members} (hkeys : (Value.object arguments).DistinctKeys) {s : σ}
    (hresult : ∀ arrived v s', Value.rereadMembers 126 arguments = .ok arrived →
      handler arrived s = .ok v s' → v.DistinctKeys) :
    client.callWith bindings name arguments s = function.across handler arguments s ∧
      ((Value.object arguments).nesting ≤ 127 → (Value.object arguments).FloatsReadBack →
        (∀ v s', handler arguments s = .ok v s' → v.nesting ≤ 126 ∧ v.FloatsReadBack) →
        client.callWith bindings name arguments s = function.direct handler arguments s) := by
  have hacross := callWith_eq_across hdeclared hover hhandler hcontract hinvoker hbound hkeys
    (s := s) hresult
  refine ⟨hacross, fun hnesting hfloats hresults => ?_⟩
  have hread : (Value.object arguments).reread Json.nestingLimit = .ok (.object arguments) :=
    Value.reread_eq_self_iff.2 ⟨hnesting, hfloats⟩
  have harguments : Value.rereadMembers (Json.nestingLimit - 1) arguments = .ok arguments := by
    obtain ⟨arrived, harrived, heq⟩ := map_eq_ok.1 hread
    cases heq
    exact harrived
  rw [hacross]
  exact FunctionContract.across_eq_direct harguments fun v s' hrun =>
    Value.reread_eq_self_iff.2 (hresults v s' hrun)

end Client

namespace Sample

/-- A service with one function, which takes any value and returns any value. -/
def echo : Contract :=
  .ofInterface {
    document := none
    service := ⟨"echo", ⟨1, 0, 0, "", ""⟩, "A sample."⟩
    functions := [⟨"echo", "A sample.", [⟨"value", "A sample.", .anything⟩],
      some ⟨"A sample.", .anything⟩⟩]
    messages := []
    registry := .empty
    fragments := [] }

/-- The checks of the function. -/
def echoChecks : FunctionContract :=
  ⟨"echo", [("value", ⟨.anything, .empty, defaultMaxDepth⟩)],
    some ⟨.anything, .empty, defaultMaxDepth⟩⟩

/-- A handler that gives back its argument and counts how often it runs. -/
def echoing : Handler Nat := fun arguments runs =>
  .ok ((arguments.lookup "value").getD .null) (runs + 1)

/-- The dispatcher with this handler. -/
def dispatcher : Dispatcher Nat := ⟨echo, [("echo", ⟨echoChecks, echoing⟩)]⟩

/-- A client that calls through the dispatcher. -/
def client : Client Nat := ⟨0, echo, dispatcher.invoker, none⟩

end Sample

/-- A call of this function gives back its argument, after one run of the handler. -/
theorem Client.callWith_inProcess_echo :
    Sample.client.callWith (Bindings.empty.withFunction "echo" "echo") "echo"
      [("value", .string "hello")] 0 = .ok (.string "hello") 1 := by
  have hover : Sample.dispatcher.Over Sample.echo :=
    @Dispatcher.Over.withFunction Nat Sample.echo (.new Sample.echo) Sample.dispatcher "echo"
      Sample.echoing .new rfl
  have hkeys : (Value.object [("value", .string "hello")]).DistinctKeys := by simp
  have hfloats : (Value.object [("value", .string "hello")]).FloatsReadBack := by simp
  have hresult : ∀ arrived v s', Value.rereadMembers 126 [("value", .string "hello")] = .ok arrived →
      Sample.echoing arrived 0 = .ok v s' → v.DistinctKeys := by
    intro arrived v s' harrives h
    cases harrives
    cases h
    exact .string "hello"
  have hresults : ∀ v s', Sample.echoing [("value", .string "hello")] 0 = .ok v s' →
      v.nesting ≤ 126 ∧ v.FloatsReadBack := by
    intro v s' h
    cases h
    exact ⟨Nat.zero_le _, .string "hello"⟩
  have hdeclared : Sample.echo.function "echo" = .ok Sample.echoChecks := by rfl
  rw [(Client.callWith_inProcess hdeclared hover rfl rfl rfl rfl hkeys hresult).2 (by decide) hfloats
    hresults]
  rfl

namespace Sample

/-- A service with one function, which takes nothing but the number `9007199254740991`. -/
def exacting : Contract :=
  .ofInterface {
    document := none
    service := ⟨"exacting", ⟨1, 0, 0, "", ""⟩, "A sample."⟩
    functions := [⟨"keep", "A sample.",
      [⟨"value", "A sample.", .const (.ofNat 9007199254740991)⟩], none⟩]
    messages := []
    registry := .empty
    fragments := [] }

/-- The checks of the function. -/
def exactingChecks : FunctionContract :=
  ⟨"keep", [("value", ⟨.const (.ofNat 9007199254740991), .empty, defaultMaxDepth⟩)], none⟩

/-- A handler that counts how often it runs. -/
def tallying : Handler Nat := fun _ runs => .ok .null (runs + 1)

/-- The dispatcher with this handler. -/
def exactingDispatcher : Dispatcher Nat := ⟨exacting, [("keep", ⟨exactingChecks, tallying⟩)]⟩

/-- A client that calls through the dispatcher. -/
def exactingClient : Client Nat := ⟨0, exacting, exactingDispatcher.invoker, none⟩

/-- The number, written with a point. -/
def pointed : Members := [("value", .number (.float uneven))]

/-- What its text is read as. -/
def pointedAgain : Members := [("value", .number (.float even))]

theorem rereadMembers_pointed (depth : Nat) :
    Value.rereadMembers depth pointed = .ok pointedAgain := by
  have hread : Value.reread depth (.number (.float uneven)) = .ok (.number (.float even)) := by
    rw [Value.reread, reread_uneven]
    rfl
  unfold pointed Value.rereadMembers
  rw [hread]
  rfl

end Sample

/-- The client accepts a number whose text is read as its neighbour. The other side refuses that one,
and the handler does not run, although it is declared and registered. -/
theorem Client.callWith_refuses_neighbour :
    Sample.exacting.function "keep" = .ok Sample.exactingChecks ∧
      Sample.exactingDispatcher.Over Sample.exacting ∧
      Sample.exactingDispatcher.handler? "keep" = some Sample.tallying ∧
      (Value.object Sample.pointed).DistinctKeys ∧ (Value.object Sample.pointed).nesting ≤ 127 ∧
      Sample.exactingChecks.direct Sample.tallying Sample.pointed 0 = .ok .null 1 ∧
      Sample.exactingClient.callWith (Bindings.empty.withFunction "keep" "keep") "keep"
        Sample.pointed 0 = .error (.remote "validation"
          "validation error: $.value: expected constant 9007199254740991") 0 := by
  have hdeclared : Sample.exacting.function "keep" = .ok Sample.exactingChecks := by rfl
  have hover : Sample.exactingDispatcher.Over Sample.exacting :=
    @Dispatcher.Over.withFunction Nat Sample.exacting (.new Sample.exacting)
      Sample.exactingDispatcher "keep" Sample.tallying .new rfl
  have hkeys : (Value.object Sample.pointed).DistinctKeys := by
    simp [Sample.pointed, Value.DistinctKeys.number]
  have haccepted : Sample.exactingChecks.checkArguments Sample.pointed = .ok () := by
    decide +kernel
  have hrefused : (match Sample.exactingChecks.checkArguments Sample.pointedAgain with
      | .ok () => none
      | .error e => some (e.kind, e.text)) = some ("validation",
        "validation error: $.value: expected constant 9007199254740991") := by decide +kernel
  refine ⟨hdeclared, hover, rfl, hkeys, by decide, ?_, ?_⟩
  · unfold FunctionContract.direct
    rw [haccepted]
    rfl
  · rw [Client.callWith_eq_across hdeclared hover rfl rfl rfl rfl hkeys
      fun arrived v s' _ hrun => by cases hrun; exact .null]
    unfold FunctionContract.across
    rw [haccepted, Sample.rereadMembers_pointed]
    dsimp only
    cases hcheck : Sample.exactingChecks.checkArguments Sample.pointedAgain with
    | ok _ =>
      rw [hcheck] at hrefused
      cases hrefused
    | error e =>
      rw [hcheck] at hrefused
      obtain ⟨hkind, htext⟩ := Prod.mk.inj (Option.some.inj hrefused)
      dsimp only
      rw [hkind, htext]

end ServiceContract
