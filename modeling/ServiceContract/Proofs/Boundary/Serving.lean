import ServiceContract.Proofs.Boundary.Sending

/-!
# What is served, and what the envelope reports

Payloads are not trusted, and neither are handlers: a payload may be any bytes, and a handler may end
in any way. To say what a handler is run on, it is given a record of its arguments. A payload that is
not read, that is no object or whose arguments are refused leaves the handler alone. Otherwise the
handler runs once, on the arguments as they were read, and what leaves is null where no result is
declared, a result that is accepted, or an error. All of this fits into one envelope, from which the
other side reads the result, with its numbers read again, or the error as one of the remote side.
-/

namespace ServiceContract

open Json (Value Members)
open Client (ofExcept)

variable {σ : Type}

/-! ## Recording what a handler is run on -/

/-- The handler with a record of the arguments that it is run on. -/
def Handler.recorded (handler : Handler σ) : Handler (σ × List Members) := fun arguments (s, runs) =>
  match handler arguments s with
  | .ok v s' => .ok v (s', runs ++ [arguments])
  | .error e s' => .error e (s', runs ++ [arguments])

/-- The handler with a record that says of each run what the arguments give. -/
def Handler.traced {α : Type} (trace : Members → α) (handler : Handler σ) : Handler (σ × List α) :=
  fun arguments (s, runs) =>
    match handler arguments s with
    | .ok v s' => .ok v (s', runs ++ [trace arguments])
    | .error e s' => .error e (s', runs ++ [trace arguments])

/-- The entry point with a record of the arguments that its handler is run on. -/
def EntryPoint.recorded (entry : EntryPoint σ) : EntryPoint (σ × List Members) :=
  ⟨entry.function, entry.handler.recorded⟩

/-! ## How requests may end -/

/-- How a request to a function may end from a state, with the state that is left and with the arguments
of each run of the handler. -/
inductive Served (function : FunctionContract) (handler : Handler σ) (payload : Payload) (s : σ) :
    Except Error Value → σ → List Members → Prop where
  /-- The payload is not read. -/
  | unreadable {e : Error} (h : decodeMessage payload = .error e) :
      Served function handler payload s (.error e) s []
  /-- It is not an object. -/
  | notObject {v : Value} (hread : decodeMessage payload = .ok v)
      (h : ∀ arguments, v ≠ .object arguments) :
      Served function handler payload s
        (.error (.validation (.here ("expected object of named arguments, found " ++ v.typeName)))) s []
  /-- The arguments are refused. -/
  | refused {arguments : Members} {e : Error}
      (hread : decodeMessage payload = .ok (.object arguments))
      (h : function.checkArguments arguments = .error e) :
      Served function handler payload s (.error e) s []
  /-- The handler fails. -/
  | failed {arguments : Members} {e : Error} {s' : σ}
      (hread : decodeMessage payload = .ok (.object arguments))
      (haccepted : function.checkArguments arguments = .ok ())
      (h : handler arguments s = .error e s') :
      Served function handler payload s (.error e) s' [arguments]
  /-- No result is declared. -/
  | nothing {arguments : Members} {v : Value} {s' : σ}
      (hread : decodeMessage payload = .ok (.object arguments))
      (haccepted : function.checkArguments arguments = .ok ())
      (hrun : handler arguments s = .ok v s') (h : function.returns = none) :
      Served function handler payload s (.ok .null) s' [arguments]
  /-- The result is accepted. -/
  | returned {arguments : Members} {v : Value} {s' : σ} {validator : Validator}
      (hread : decodeMessage payload = .ok (.object arguments))
      (haccepted : function.checkArguments arguments = .ok ())
      (hrun : handler arguments s = .ok v s') (hdeclared : function.returns = some validator)
      (h : validator.check v = .ok ()) :
      Served function handler payload s (.ok v) s' [arguments]
  /-- The result is not accepted. -/
  | violated {arguments : Members} {v : Value} {s' : σ} {validator : Validator}
      {violation : Violation} (hread : decodeMessage payload = .ok (.object arguments))
      (haccepted : function.checkArguments arguments = .ok ())
      (hrun : handler arguments s = .ok v s') (hdeclared : function.returns = some validator)
      (h : validator.check v = .error violation) :
      Served function handler payload s (.error (.contractViolation function.name violation)) s'
        [arguments]

/-- How a request to a dispatcher may end. -/
inductive Routed (dispatcher : Dispatcher σ) (name : String) (payload : Payload) (s : σ) :
    EStateM.Result Error σ Value → Prop where
  /-- The function is not declared. -/
  | undeclared (h : ∀ function, dispatcher.contract.function name ≠ .ok function) :
      Routed dispatcher name payload s (.error (.unknownFunction name) s)
  /-- It has no handler. -/
  | unhandled {function : FunctionContract}
      (hdeclared : dispatcher.contract.function name = .ok function)
      (h : dispatcher.entries.lookup name = none) :
      Routed dispatcher name payload s (.error (.handler s!"no handler registered for '{name}'") s)
  /-- Its entry point answers. -/
  | handled {function : FunctionContract} {entry : EntryPoint σ}
      (hdeclared : dispatcher.contract.function name = .ok function)
      (h : dispatcher.entries.lookup name = some entry) :
      Routed dispatcher name payload s (entry.handle payload s)

/-- The bytes are an envelope from which the end of a request is read: a result as far as it comes back
from an envelope, and an error as one of the remote side. -/
structure Reports (bytes : Payload) (r : Except Error Value) : Prop where
  /-- A result is read as itself exactly if it is nested no deeper than an envelope may hold it and all
  its floating-point numbers are read as themselves. -/
  result : ∀ v, r = .ok v → v.DistinctKeys →
    ComesBack v 126 id Response.malformed (Response.decode bytes >>= Response.toExcept)
  /-- An error is read with its kind and its wording. -/
  error : ∀ e, r = .error e →
    (Response.decode bytes >>= Response.toExcept) = .error (.remote e.kind e.text)

/-! ## Checks -/

/-- Named arguments are an object that is read. -/
theorem decodeArguments_ok {payload : Payload} {arguments : Members}
    (h : decodeArguments payload = .ok arguments) :
    decodeMessage payload = .ok (.object arguments) := by
  unfold decodeArguments at h
  cases hread : decodeMessage payload with
  | error e =>
    rw [hread] at h
    cases h
  | ok v =>
    rw [hread] at h
    cases v with
    | object members =>
      cases h
      rfl
    | _ => cases h

/-- Where there are no arguments the handler is left alone. -/
theorem served_of_decodeArguments_error {function : FunctionContract} {handler : Handler σ}
    {payload : Payload} {s : σ} {e : Error} (h : decodeArguments payload = .error e) :
    Served function handler payload s (.error e) s [] := by
  unfold decodeArguments at h
  cases hread : decodeMessage payload with
  | error e' =>
    rw [hread] at h
    cases h
    exact .unreadable hread
  | ok v =>
    rw [hread] at h
    cases v with
    | object members => cases h
    | _ =>
      cases h
      exact .notObject hread (by simp)

/-- What becomes of a result is null, the result or a violation of the contract. -/
theorem served_answer {function : FunctionContract} {handler : Handler σ} {payload : Payload}
    {arguments : Members} {v : Value} {s s' : σ}
    (hread : decodeMessage payload = .ok (.object arguments))
    (haccepted : function.checkArguments arguments = .ok ())
    (hrun : handler arguments s = .ok v s') :
    Served function handler payload s (function.answer v) s' [arguments] := by
  unfold FunctionContract.answer FunctionContract.checkResult
  cases hreturns : function.returns with
  | none => exact .nothing hread haccepted hrun hreturns
  | some validator =>
    dsimp only
    cases hcheck : validator.check v with
    | ok _ => exact .returned hread haccepted hrun hreturns hcheck
    | error violation => exact .violated hread haccepted hrun hreturns hcheck

namespace EntryPoint

/-! ## Runs -/

/-- A request is one run of the handler between two checks. -/
theorem handle_apply (entry : EntryPoint σ) (payload : Payload) (s : σ) :
    entry.handle payload s =
      match decodeArguments payload with
      | .error e => .error e s
      | .ok arguments =>
        match entry.function.checkArguments arguments with
        | .error e => .error e s
        | .ok () =>
          match entry.handler arguments s with
          | .error e s' => .error e s'
          | .ok v s' => ofExcept (entry.function.answer v) s' := by
  unfold handle
  rw [Client.ofExcept_bind]
  cases decodeArguments payload with
  | error e => rfl
  | ok arguments =>
    dsimp only
    cases hcheck : entry.function.checkArguments arguments with
    | error e =>
      unfold invoke
      rw [Client.ofExcept_bind, hcheck]
    | ok _ =>
      rw [invoke_of_accepted hcheck]
      dsimp only
      cases entry.handler arguments s with
      | error e s' => rfl
      | ok v s' =>
        dsimp only
        cases entry.function.answer v <;> rfl

/-- A request ends in one of the ways there are, and the record holds the runs of the handler. -/
theorem handle_traced {α : Type} (trace : Members → α) (function : FunctionContract)
    (handler : Handler σ) (payload : Payload) (s : σ) (before : List α) :
    ∃ r s' runs, (mk function handler).handle payload s = ofExcept r s' ∧
      (mk function (handler.traced trace)).handle payload (s, before) =
        ofExcept r (s', before ++ runs.map trace) ∧
      Served function handler payload s r s' runs := by
  have hplain := (mk function handler).handle_apply payload s
  have htraced := (mk function (handler.traced trace)).handle_apply payload (s, before)
  dsimp only [Handler.traced] at hplain htraced
  cases hdecode : decodeArguments payload with
  | error e =>
    rw [hdecode] at hplain htraced
    refine ⟨.error e, s, [], hplain, ?_, served_of_decodeArguments_error hdecode⟩
    rw [List.map_nil, List.append_nil]
    exact htraced
  | ok arguments =>
    have hread := decodeArguments_ok hdecode
    rw [hdecode] at hplain htraced
    dsimp only at hplain htraced
    cases hcheck : function.checkArguments arguments with
    | error e =>
      rw [hcheck] at hplain htraced
      refine ⟨.error e, s, [], hplain, ?_, .refused hread hcheck⟩
      rw [List.map_nil, List.append_nil]
      exact htraced
    | ok _ =>
      rw [hcheck] at hplain htraced
      cases hrun : handler arguments s with
      | error e s' =>
        rw [hrun] at hplain htraced
        exact ⟨.error e, s', [arguments], hplain, htraced, .failed hread hcheck hrun⟩
      | ok v s' =>
        rw [hrun] at hplain htraced
        exact ⟨_, s', [arguments], hplain, htraced, served_answer hread hcheck hrun⟩

theorem handle_served (entry : EntryPoint σ) (payload : Payload) (s : σ) (before : List Members) :
    ∃ r s' runs, entry.handle payload s = ofExcept r s' ∧
      entry.recorded.handle payload (s, before) = ofExcept r (s', before ++ runs) ∧
      Served entry.function entry.handler payload s r s' runs := by
  -- To record arguments is to trace each run by the arguments themselves.
  obtain ⟨r, s', runs, hplain, htraced, hserved⟩ :=
    handle_traced id entry.function entry.handler payload s before
  rw [List.map_id] at htraced
  exact ⟨r, s', runs, hplain, htraced, hserved⟩

end EntryPoint

/-- A request is answered by the entry point of its function, if there is one. -/
theorem Dispatcher.dispatch_routed (dispatcher : Dispatcher σ) (name : String) (payload : Payload)
    (s : σ) : Routed dispatcher name payload s (dispatcher.dispatch name payload s) := by
  unfold dispatch entry
  rw [Client.ofExcept_bind]
  cases hdeclared : dispatcher.contract.function name with
  | error e =>
    rw [Contract.function_error hdeclared]
    exact .undeclared fun function hok => by cases hdeclared.symm.trans hok
  | ok function =>
    cases hlookup : dispatcher.entries.lookup name with
    | none => exact .unhandled hdeclared hlookup
    | some entry => exact .handled hdeclared hlookup

/-! ## Envelopes -/

/-- The envelope of a step reports its end and leaves its state. -/
theorem EntryPoint.enveloped_reports {step : EStateM Error σ Value} {s s' : σ} {r : Except Error Value}
    (h : step s = ofExcept r s') :
    ∃ bytes, enveloped step s = (bytes, s') ∧ Reports bytes r := by
  unfold enveloped
  rw [h]
  cases r with
  | error e =>
    refine ⟨(Response.ofError e).encode, rfl, nofun, fun e' he => ?_⟩
    cases he
    unfold Response.ofError
    rw [Response.decode_encode_error]
    rfl
  | ok v =>
    refine ⟨(Response.result v).encode, rfl, fun w hw hkeys => ?_, nofun⟩
    cases hw
    exact Response.comesBack_toExcept hkeys

/-- Whatever the payload and whatever the handler does, the handler is run at most once, and on
accepted arguments only; no result leaves that the contract does not accept; and an envelope reports
what came of the request. A dispatcher answers so for every name, declared or not. -/
theorem EntryPoint.serves_accepted_and_reports (entry : EntryPoint σ) (dispatcher : Dispatcher σ)
    (name : String) (payload : Payload) (s : σ) (before : List Members) :
    (∃ r s' runs bytes, entry.handle payload s = ofExcept r s' ∧
      entry.recorded.handle payload (s, before) = ofExcept r (s', before ++ runs) ∧
      Served entry.function entry.handler payload s r s' runs ∧
      entry.respond payload s = (bytes, s') ∧ Reports bytes r) ∧
    ∃ r s' bytes, dispatcher.dispatch name payload s = ofExcept r s' ∧
      Routed dispatcher name payload s (ofExcept r s') ∧
      dispatcher.respond name payload s = (bytes, s') ∧
      dispatcher.invoker name payload s = .ok bytes s' ∧ Reports bytes r := by
  constructor
  · obtain ⟨r, s', runs, hplain, hrecorded, hserved⟩ := entry.handle_served payload s before
    obtain ⟨bytes, hbytes, hreports⟩ := enveloped_reports hplain
    exact ⟨r, s', runs, bytes, hplain, hrecorded, hserved, hbytes, hreports⟩
  · obtain ⟨r, s', hends⟩ : ∃ r s', dispatcher.dispatch name payload s = ofExcept r s' := by
      cases hdispatch : dispatcher.dispatch name payload s with
      | ok v s' => exact ⟨.ok v, s', rfl⟩
      | error e s' => exact ⟨.error e, s', rfl⟩
    obtain ⟨bytes, hbytes, hreports⟩ := enveloped_reports hends
    have hrespond : dispatcher.respond name payload s = (bytes, s') := hbytes
    have hrouted := dispatcher.dispatch_routed name payload s
    rw [hends] at hrouted
    refine ⟨r, s', bytes, hends, hrouted, hrespond, ?_, hreports⟩
    unfold Dispatcher.invoker
    rw [hrespond]

/-- A request for this function is answered after one run of the handler, with its argument, and a
request for a function that is not declared is answered without one. -/
theorem EntryPoint.serves_accepted_and_reports_echo :
    (EntryPoint.mk Sample.echoChecks Sample.echoing).recorded.handle
        (encodeArguments [("value", .string "hello")]) (0, []) =
      .ok (.string "hello") (1, [[("value", .string "hello")]]) ∧
    (∃ bytes, (EntryPoint.mk Sample.echoChecks Sample.echoing).respond
        (encodeArguments [("value", .string "hello")]) 0 = (bytes, 1) ∧
      (Response.decode bytes >>= Response.toExcept) = .ok (.string "hello")) ∧
    ∃ bytes, Sample.dispatcher.respond "sing" (encodeArguments [("value", .string "hello")]) 0 =
        (bytes, 0) ∧
      (Response.decode bytes >>= Response.toExcept) =
        .error (.remote "unknown-function" "unknown function 'sing'") := by
  have hkeys : (Value.object [("value", .string "hello")]).DistinctKeys := by simp
  have hrequest : decodeArguments (encodeArguments [("value", .string "hello")]) =
      .ok [("value", .string "hello")] := by
    rw [decodeArguments_encodeArguments hkeys]
    rfl
  have hhandle : (EntryPoint.mk Sample.echoChecks Sample.echoing).handle
      (encodeArguments [("value", .string "hello")]) 0 = .ok (.string "hello") 1 := by
    rw [handle_apply, hrequest]
    rfl
  obtain ⟨⟨r, s', runs, bytes, hplain, hrecorded, hserved, hrespond, hreports⟩,
    r', s'', bytes', hdispatch, -, hanswer, -, hreports'⟩ :=
    (EntryPoint.mk Sample.echoChecks Sample.echoing).serves_accepted_and_reports Sample.dispatcher "sing"
      (encodeArguments [("value", .string "hello")]) 0 []
  obtain ⟨rfl, rfl⟩ : r = .ok (.string "hello") ∧ s' = 1 := by
    rw [hhandle] at hplain
    cases r with
    | ok v =>
      cases hplain
      exact ⟨rfl, rfl⟩
    | error e => cases hplain
  obtain ⟨rfl, rfl⟩ : r' = .error (.unknownFunction "sing") ∧ s'' = 0 := by
    cases r' with
    | ok v => cases hdispatch
    | error e =>
      cases hdispatch
      exact ⟨rfl, rfl⟩
  have hruns : runs = [[("value", .string "hello")]] := by
    cases hserved with
    | returned hread =>
      rw [decodeArguments_ok hrequest] at hread
      cases hread
      rfl
  rw [hruns] at hrecorded
  exact ⟨hrecorded,
    ⟨bytes, hrespond,
      (hreports.result _ rfl (.string "hello")).exactly.2 ⟨Nat.zero_le _, .string "hello"⟩⟩,
    bytes', hanswer, hreports'.error _ rfl⟩

namespace Sample

/-- A handler that always gives the same number, and counts how often it runs. -/
def unevenly : Handler Nat := fun _ runs => .ok (.number (.float uneven)) (runs + 1)

end Sample

/-- The handler gives a number, and the caller reads another one. -/
theorem EntryPoint.reports_neighbour :
    (Value.number (.float Sample.uneven)).DistinctKeys ∧
    (Value.number (.float Sample.uneven)).nesting ≤ 126 ∧ Sample.even ≠ Sample.uneven ∧
    (EntryPoint.mk Sample.echoChecks Sample.unevenly).handle
      (encodeArguments [("value", .string "hello")]) 0 = .ok (.number (.float Sample.uneven)) 1 ∧
    ∃ bytes, (EntryPoint.mk Sample.echoChecks Sample.unevenly).respond
        (encodeArguments [("value", .string "hello")]) 0 = (bytes, 1) ∧
      (Response.decode bytes >>= Response.toExcept) = .ok (.number (.float Sample.even)) := by
  have hkeys : (Value.number (.float Sample.uneven)).DistinctKeys := .number _
  have hrequest : decodeArguments (encodeArguments [("value", .string "hello")]) =
      .ok [("value", .string "hello")] := by
    rw [decodeArguments_encodeArguments (by simp)]
    rfl
  have hhandle : (EntryPoint.mk Sample.echoChecks Sample.unevenly).handle
      (encodeArguments [("value", .string "hello")]) 0 = .ok (.number (.float Sample.uneven)) 1 := by
    rw [handle_apply, hrequest]
    rfl
  have hread : (Value.number (.float Sample.uneven)).reread 126 = .ok (.number (.float Sample.even)) := by
    rw [Value.reread, Sample.reread_uneven]
    rfl
  refine ⟨hkeys, by decide, by decide, hhandle,
    (Response.result (.number (.float Sample.uneven))).encode, ?_, ?_⟩
  · unfold respond enveloped
    rw [hhandle]
  · rw [(Response.comesBack_toExcept hkeys).outcome, hread]
    rfl

end ServiceContract
