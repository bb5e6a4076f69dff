import ServiceContract.Document.Store
import ServiceContract.Proofs.Boundary.InProcess
import ServiceContract.Proofs.Document.Sites
import ServiceContract.Proofs.Runs

/-!
# What survives the boundary

A value comes back from the other side if it nests no deeper than a reader goes and if each of its
floating-point numbers is read as itself. The checks of a contract ask for neither: their bound on depth
is another number, what a schema leaves open has no bound at all, and any number may do. So there are
values that a contract accepts and that the other side cannot read, or takes for others.
-/

namespace ServiceContract

open Json (Value Members)

theorem decodeArguments_eq_ok_iff {arguments : Members} (hkeys : (Value.object arguments).DistinctKeys) :
    decodeArguments (encodeArguments arguments) = .ok arguments ↔
      (Value.object arguments).nesting ≤ 127 ∧ (Value.object arguments).FloatsReadBack := by
  rw [← (comesBack_arguments hkeys).exactly]
  cases decodeArguments (encodeArguments arguments) with
  | error e => exact ⟨nofun, nofun⟩
  | ok arrived =>
    exact ⟨fun h => by cases h; rfl, fun h => by rw [Value.object.inj (Except.ok.inj h)]⟩

/-- Accepted arguments come back exactly if they nest at most 127 levels with the object that holds them
and all their floating-point numbers are read as themselves; then the entry point takes them again, and
if it is only the nesting that is in the way it refuses them for that. An accepted result comes back
exactly if it nests at most 126 levels, one less for its envelope, and an accepted message if it nests
at most 127, each under the same condition on numbers. -/
theorem Contract.accepted_survives_iff (contract : Contract) (function : FunctionContract) :
    (∀ arguments : Members, (Value.object arguments).DistinctKeys →
      function.checkArguments arguments = .ok () →
        (decodeArguments (encodeArguments arguments) = .ok arguments ↔
          (Value.object arguments).nesting ≤ 127 ∧ (Value.object arguments).FloatsReadBack) ∧
        ((Value.object arguments).FloatsReadBack → ∀ {σ : Type} (handler : Handler σ) (s : σ),
          (EntryPoint.mk function handler).handle (encodeArguments arguments) s =
            if (Value.object arguments).nesting ≤ 127 then
              match handler arguments s with
              | .error e s' => .error e s'
              | .ok v s' =>
                match function.answer v with
                | .ok w => .ok w s'
                | .error e => .error e s'
            else .error (.unreadable .nestingTooDeep) s)) ∧
    (∀ v : Value, v.DistinctKeys → function.checkResult v = .ok () →
      ((Response.decode (Response.result v).encode >>= Response.toExcept) = .ok v ↔
        v.nesting ≤ 126 ∧ v.FloatsReadBack)) ∧
    ∀ message validator, contract.message message = .ok validator →
      ∀ v : Value, v.DistinctKeys → validator.check v = .ok () →
        (decodeMessage (encodeMessage v) = .ok v ↔ v.nesting ≤ 127 ∧ v.FloatsReadBack) := by
  refine ⟨fun arguments hkeys haccepted => ⟨decodeArguments_eq_ok_iff hkeys, fun hfloats σ handler s => ?_⟩,
    fun v hkeys _ => (Response.comesBack_toExcept hkeys).exactly,
    fun message validator _ v hkeys _ => (comesBack_message hkeys).exactly⟩
  unfold EntryPoint.handle
  by_cases hfits : (Value.object arguments).nesting ≤ 127
  · rw [if_pos hfits, (decodeArguments_eq_ok_iff hkeys).2 ⟨hfits, hfloats⟩]
    exact EntryPoint.invoke_of_accepted haccepted s
  · have hrefused := (comesBack_arguments hkeys).tooDeep hfloats (Nat.lt_of_not_le hfits)
    rw [if_neg hfits, map_eq_error.1 hrefused]
    rfl

namespace Sample

/-- Arrays inside one another, the innermost one empty. -/
def nested : Nat → Value
  | 0 => .array []
  | depth + 1 => .array [nested depth]

theorem nesting_nested (depth : Nat) : (nested depth).nesting = depth + 1 := by
  induction depth with
  | zero => rfl
  | succ depth ih =>
    show max (nested depth).nesting 0 + 1 = depth + 1 + 1
    rw [ih, Nat.max_zero]

theorem distinctKeys_nested (depth : Nat) : (nested depth).DistinctKeys := by
  induction depth with
  | zero => simp [nested]
  | succ depth ih => simp [nested, ih]

theorem floatsReadBack_nested (depth : Nat) : (nested depth).FloatsReadBack := by
  induction depth with
  | zero => simp [nested]
  | succ depth ih => simp [nested, ih]

/-- A document with a function whose argument may be anything. -/
def keeper : Value :=
  document [("functions", .array [.object (declaration "keep" [("arguments", .array [
    .object (declaration "value" [("schema", .object [])])])])])]

/-- An argument that is too deep by one array. -/
def tooDeep : Members := [("value", nested 126)]

theorem keeper_accepts_tooDeep : ∃ i function, resolveAlone .none keeper = .ok i ∧
    (Contract.ofInterface i).function "keep" = .ok function ∧
      function.checkArguments tooDeep = .ok () := by
  have haccepts : ((resolveAlone .none keeper).toOption.bind fun i =>
      ((Contract.ofInterface i).function "keep").toOption.bind fun function =>
        (function.checkArguments tooDeep).toOption) = some () := by decide +kernel
  obtain ⟨i, hi, hrest⟩ := Option.bind_eq_some_iff.1 haccepts
  obtain ⟨function, hfunction, hchecked⟩ := Option.bind_eq_some_iff.1 hrest
  exact ⟨i, function, eq_ok_of_toOption hi, eq_ok_of_toOption hfunction,
    eq_ok_of_toOption hchecked⟩

end Sample

/-- A function that takes anything accepts an argument that its entry point cannot read. -/
theorem Contract.accepts_unreadable : ∃ i function, resolveAlone .none Sample.keeper = .ok i ∧
    (Contract.ofInterface i).function "keep" = .ok function ∧
    function.checkArguments Sample.tooDeep = .ok () ∧
    (Value.object Sample.tooDeep).DistinctKeys ∧
    decodeArguments (encodeArguments Sample.tooDeep) = .error (.unreadable .nestingTooDeep) := by
  obtain ⟨i, function, hi, hfunction, haccepted⟩ := Sample.keeper_accepts_tooDeep
  have hkeys : (Value.object Sample.tooDeep).DistinctKeys := by
    simp [Sample.tooDeep, Sample.distinctKeys_nested]
  have hfloats : (Value.object Sample.tooDeep).FloatsReadBack := by
    simp [Sample.tooDeep, Sample.floatsReadBack_nested]
  have hnesting : (Value.object Sample.tooDeep).nesting = 128 := by
    show max (Sample.nested 126).nesting 0 + 1 = 128
    rw [Sample.nesting_nested]
    rfl
  have hdeep : 127 < (Value.object Sample.tooDeep).nesting := by
    rw [hnesting]
    decide
  refine ⟨i, function, hi, hfunction, haccepted, hkeys, ?_⟩
  exact map_eq_error.1 ((comesBack_arguments hkeys).tooDeep hfloats hdeep)

/-- A text is accepted and comes back. -/
theorem Contract.accepted_survives_text :
    decodeArguments (encodeArguments [("value", .string "hello")]) =
      .ok [("value", .string "hello")] := by
  have hkeys : (Value.object [("value", .string "hello")]).DistinctKeys := by simp
  have hfloats : (Value.object [("value", .string "hello")]).FloatsReadBack := by simp
  exact ((Contract.accepted_survives_iff Sample.echo Sample.echoChecks).1 _ hkeys rfl).1.2
    ⟨by decide, hfloats⟩

/-! ## Payloads of every kind -/

/-- Decoding undoes encoding exactly up to the nesting limit and for floating-point numbers that are
read as themselves: for messages and for arguments the limit is 127 levels, for results one less because
of the envelope around them, and errors always come back. Beyond the limit a payload is refused as one
that cannot be read, a result as a malformed response. -/
theorem payloads_read_back_exactly (v : Value) (hkeys : v.DistinctKeys) (e : RemoteError) :
    ComesBack v 127 id .unreadable (decodeMessage (encodeMessage v)) ∧
    (∀ arguments : Members, v = .object arguments →
      ComesBack v 127 id .unreadable ((decodeArguments (encodeArguments arguments)).map .object)) ∧
    ComesBack v 126 Response.result Response.malformed (Response.decode (Response.result v).encode) ∧
    Response.decode (Response.error e).encode = .ok (.error e) := by
  refine ⟨comesBack_message hkeys, ?_, Response.comesBack_result hkeys, Response.decode_encode_error e⟩
  rintro arguments rfl
  exact comesBack_arguments hkeys

/-- Arrays nested 127 deep come back as a message; as a result they are malformed. -/
theorem payloads_read_back_exactly_nested :
    decodeMessage (encodeMessage (Sample.nested 126)) = .ok (Sample.nested 126) ∧
      Response.decode (Response.result (Sample.nested 126)).encode =
        .error (Response.malformed .nestingTooDeep) := by
  have hfloats : (Sample.nested 126).FloatsReadBack := Sample.floatsReadBack_nested 126
  have hnesting : (Sample.nested 126).nesting = 127 := Sample.nesting_nested 126
  obtain ⟨hmessage, -, hresult, -⟩ :=
    payloads_read_back_exactly (Sample.nested 126) (Sample.distinctKeys_nested 126) ⟨"kind", "message"⟩
  constructor
  · exact hmessage.exactly.2 ⟨hnesting.le, hfloats⟩
  · refine hresult.tooDeep hfloats ?_
    rw [hnesting]
    decide

/-- A number comes back as its neighbour, as a message and as a result. -/
theorem payloads_read_back_uneven :
    (Value.number (.float Sample.uneven)).DistinctKeys ∧
      (Value.number (.float Sample.uneven)).nesting ≤ 126 ∧ Sample.even ≠ Sample.uneven ∧
      decodeMessage (encodeMessage (.number (.float Sample.uneven))) =
        .ok (.number (.float Sample.even)) ∧
      Response.decode (Response.result (.number (.float Sample.uneven))).encode =
        .ok (.result (.number (.float Sample.even))) := by
  have hkeys : (Value.number (.float Sample.uneven)).DistinctKeys := .number _
  have hread : ∀ depth, (Value.number (.float Sample.uneven)).reread depth =
      .ok (.number (.float Sample.even)) := by
    intro depth
    rw [Value.reread, Sample.reread_uneven]
    rfl
  refine ⟨hkeys, by decide, by decide, ?_, ?_⟩
  · rw [decodeMessage_encodeMessage hkeys, hread]
    rfl
  · rw [Response.decode_encode_result hkeys, hread]
    rfl

end ServiceContract
