import ServiceContract.Boundary.MessageEntryPoint
import ServiceContract.Proofs.Boundary.Serving

/-!
# Batches are all or nothing, and in order

A batch of payloads is checked from front to back before any of it is handed on, so one payload that is
not accepted keeps the whole batch from the handler, and the first such payload is the one reported. A
batch that is accepted goes to a batched handler in one piece, also when it is empty, and to a single
handler value by value until one fails. A payload received on its own is a batch of one, but for the
step to its position in the path of a violation.

As for functions, what a handler is run on is read off a record that it is given.
-/

namespace ServiceContract

open Json (Value)
open Client (ofExcept)

variable {σ : Type}

/-! ## Recording what a handler is handed -/

/-- What a handler of messages is run on. -/
inductive Handed where
  /-- One payload. -/
  | one (value : Value)
  /-- All payloads of a batch. -/
  | all (values : List Value)

/-- The step with a record of what it is run on, however it ends. -/
def recording (what : Handed) (step : EStateM Error σ Unit) : EStateM Error (σ × List Handed) Unit :=
  fun (s, handed) =>
    match step s with
    | .ok () s' => .ok () (s', handed ++ [what])
    | .error e s' => .error e (s', handed ++ [what])

/-- The delivery with a record of what its handler is run on. -/
def Delivery.recorded : Delivery σ → Delivery (σ × List Handed)
  | .single handler => .single fun value => recording (.one value) (handler value)
  | .batched handler => .batched fun values => recording (.all values) (handler values)

namespace MessageEntryPoint

/-- The entry point with a record of what its handler is run on. -/
def recorded (entry : MessageEntryPoint σ) : MessageEntryPoint (σ × List Handed) :=
  ⟨entry.message, entry.validator, entry.delivery.recorded⟩

/-! ## How a batch may end -/

/-- The payload is read as the value, which is accepted. -/
def Accepts (entry : MessageEntryPoint σ) (payload : Payload) (value : Value) : Prop :=
  decodeMessage payload = .ok value ∧ entry.validator.check value = .ok ()

/-- The payloads are refused with an error: it is that of the first payload that is not accepted, and a
violation starts with the position of that payload. -/
inductive Refuses (entry : MessageEntryPoint σ) (payloads : List Payload) : Error → Prop where
  /-- The payload is not read. -/
  | unreadable {index : Nat} {payload : Payload} {e : Error}
      (hpayload : payloads[index]? = some payload)
      (hbefore : ∀ earlier ∈ payloads.take index, ∃ v, entry.Accepts earlier v)
      (h : decodeMessage payload = .error e) : Refuses entry payloads e
  /-- It is read, and its value is not accepted. -/
  | violated {index : Nat} {payload : Payload} {v : Value} {violation : Violation}
      (hpayload : payloads[index]? = some payload)
      (hbefore : ∀ earlier ∈ payloads.take index, ∃ v, entry.Accepts earlier v)
      (hread : decodeMessage payload = .ok v) (h : entry.validator.check v = .error violation) :
      Refuses entry payloads (.validation (violation.within (.index index)))

/-- How it may end, from a state, that a handler is run on values one after the other, with the state that
is left and the values that it was run on: it stops behind the first that fails. -/
inductive InTurn (handler : Value → EStateM Error σ Unit) :
    List Value → σ → Except Error Unit → σ → List Value → Prop where
  /-- No value is left. -/
  | done (s : σ) : InTurn handler [] s (.ok ()) s []
  /-- The handler fails. -/
  | failed {v : Value} {rest : List Value} {s s' : σ} {e : Error} (h : handler v s = .error e s') :
      InTurn handler (v :: rest) s (.error e) s' [v]
  /-- It does not fail, and the next value follows. -/
  | next {v : Value} {rest ran : List Value} {s s' s'' : σ} {r : Except Error Unit}
      (h : handler v s = .ok () s') (hrest : InTurn handler rest s' r s'' ran) :
      InTurn handler (v :: rest) s r s'' (v :: ran)

/-- How a batch may end, from a state, with the state that is left and what the handler was run on. -/
inductive Batched (entry : MessageEntryPoint σ) (payloads : List Payload) (s : σ) :
    Except Error Unit → σ → List Handed → Prop where
  /-- Some payload is not accepted. -/
  | refused {e : Error} (h : entry.Refuses payloads e) : Batched entry payloads s (.error e) s []
  /-- All are accepted and go to the handler together. -/
  | together {handler : List Value → EStateM Error σ Unit} {values : List Value}
      {r : Except Error Unit} {s' : σ} (hdelivery : entry.delivery = .batched handler)
      (haccepted : List.Forall₂ entry.Accepts payloads values)
      (hrun : handler values s = ofExcept r s') : Batched entry payloads s r s' [.all values]
  /-- All are accepted and go to the handler one by one. -/
  | inTurn {handler : Value → EStateM Error σ Unit} {values ran : List Value}
      {r : Except Error Unit} {s' : σ} (hdelivery : entry.delivery = .single handler)
      (haccepted : List.Forall₂ entry.Accepts payloads values)
      (hrun : InTurn handler values s r s' ran) : Batched entry payloads s r s' (ran.map .one)

/-- From a state, a payload on its own and a batch of it end alike, with a violation of the payload seen
from the batch. -/
structure AgreesOnOne (entry : MessageEntryPoint σ) (payload : Payload) (s : σ) : Prop where
  /-- The value of the payload breaks the schema. -/
  violated : ∀ v violation, decodeMessage payload = .ok v →
    entry.validator.check v = .error violation →
    entry.handle payload s = .error (.validation violation) s ∧
      entry.handleBatch [payload] s = .error (.validation (violation.within (.index 0))) s
  /-- In all other cases there is no difference. -/
  same : (∀ v violation, decodeMessage payload = .ok v →
    entry.validator.check v ≠ .error violation) →
    entry.handleBatch [payload] s = entry.handle payload s

/-! ## Checks -/

/-- A payload is accepted if it passes its check. -/
theorem decode_eq_ok_iff {entry : MessageEntryPoint σ} {payload : Payload} {v : Value} :
    entry.decode payload = .ok v ↔ entry.Accepts payload v := by
  unfold decode Accepts
  cases decodeMessage payload with
  | error e => exact ⟨nofun, nofun⟩
  | ok w =>
    show (entry.validator.check w).mapError _ >>= _ = _ ↔ _
    cases hcheck : entry.validator.check w with
    | ok _ =>
      refine ⟨fun h => ?_, fun h => ?_⟩
      · cases h
        exact ⟨rfl, hcheck⟩
      · cases h.1
        rfl
    | error violation =>
      refine ⟨nofun, fun h => ?_⟩
      cases h.1
      cases hcheck.symm.trans h.2

theorem decode_of_violated {entry : MessageEntryPoint σ} {payload : Payload} {v : Value}
    {violation : Violation} (hread : decodeMessage payload = .ok v)
    (h : entry.validator.check v = .error violation) :
    entry.decode payload = .error (.validation violation) := by
  unfold decode
  rw [hread]
  show (entry.validator.check v).mapError _ >>= _ = _
  rw [h]
  rfl

/-- A payload that does not pass is not read, or its value breaks the schema. -/
theorem decode_eq_error {entry : MessageEntryPoint σ} {payload : Payload} {e : Error}
    (h : entry.decode payload = .error e) :
    decodeMessage payload = .error e ∨ ∃ v violation, decodeMessage payload = .ok v ∧
      entry.validator.check v = .error violation ∧ e = .validation violation := by
  cases hread : decodeMessage payload with
  | error e' =>
    unfold decode at h
    rw [hread] at h
    cases h
    exact .inl rfl
  | ok v =>
    cases hcheck : entry.validator.check v with
    | ok _ => cases (decode_eq_ok_iff.2 ⟨hread, hcheck⟩).symm.trans h
    | error violation =>
      cases (decode_of_violated hread hcheck).symm.trans h
      exact .inr ⟨v, violation, rfl, hcheck, rfl⟩

/-- A payload that is not read is no violation, so its error is the same in a batch. -/
theorem inBatch_of_unreadable {payload : Payload} {e : Error} (h : decodeMessage payload = .error e)
    (index : Nat) : inBatch index e = e := by
  unfold decodeMessage at h
  split at h
  · cases h
  · cases h
    rfl

/-- The first payload of a batch decides, unless it passes. -/
theorem decodeBatch_cons_error {entry : MessageEntryPoint σ} {payload : Payload} {e : Error}
    (h : entry.decode payload = .error e) (index : Nat) (rest : List Payload) :
    entry.decodeBatch index (payload :: rest) = .error (inBatch index e) := by
  unfold decodeBatch
  rw [h]
  rfl

/-- Behind a payload that passes the rest of a batch decides. -/
theorem decodeBatch_cons_ok {entry : MessageEntryPoint σ} {payload : Payload} {v : Value}
    (h : entry.decode payload = .ok v) (index : Nat) (rest : List Payload) :
    entry.decodeBatch index (payload :: rest) =
      (v :: ·) <$> entry.decodeBatch (index + 1) rest := by
  rw [decodeBatch, h]
  rfl

/-- The payloads of a batch that passes are all accepted. -/
theorem accepts_of_decodeBatch {entry : MessageEntryPoint σ} {index : Nat} {payloads : List Payload}
    {values : List Value} (h : entry.decodeBatch index payloads = .ok values) :
    List.Forall₂ entry.Accepts payloads values := by
  induction payloads generalizing index values with
  | nil =>
    cases h
    exact .nil
  | cons payload rest ih =>
    cases hdecode : entry.decode payload with
    | error e => cases (decodeBatch_cons_error hdecode index rest).symm.trans h
    | ok v =>
      rw [decodeBatch_cons_ok hdecode] at h
      cases hrest : entry.decodeBatch (index + 1) rest with
      | error e =>
        rw [hrest] at h
        cases h
      | ok values =>
        rw [hrest] at h
        cases h
        exact .cons (decode_eq_ok_iff.1 hdecode) (ih hrest)

/-- A batch that does not pass has the error of its first payload that is not accepted. -/
theorem refuses_of_decodeBatch {entry : MessageEntryPoint σ} {payloads : List Payload} {e : Error}
    (h : entry.decodeBatch 0 payloads = .error e) : entry.Refuses payloads e := by
  have hnil : ∀ start, ¬ entry.decodeBatch start [] = .error e := nofun
  have hstep : ∀ start payload rest, entry.decodeBatch start (payload :: rest) = .error e →
      (∃ e', entry.decode payload = .error e' ∧ inBatch start e' = e) ∨
        (∃ v, entry.Accepts payload v) ∧ entry.decodeBatch (start + 1) rest = .error e := by
    intro start payload rest h
    cases hdecode : entry.decode payload with
    | error e' =>
      cases (decodeBatch_cons_error hdecode start rest).symm.trans h
      exact .inl ⟨e', rfl, rfl⟩
    | ok v =>
      rw [decodeBatch_cons_ok hdecode] at h
      refine .inr ⟨⟨v, decode_eq_ok_iff.1 hdecode⟩, ?_⟩
      cases hrest : entry.decodeBatch (start + 1) rest with
      | error e' =>
        rw [hrest] at h
        cases h
        rfl
      | ok values =>
        rw [hrest] at h
        cases h
  obtain ⟨index, payload, hpayload, hbefore, e', hdecode, rfl⟩ :=
    exists_first (P := fun start payloads => entry.decodeBatch start payloads = .error e)
      hnil hstep 0 h
  rw [Nat.zero_add]
  rcases decode_eq_error hdecode with hread | ⟨v, violation, hread, hcheck, rfl⟩
  · rw [inBatch_of_unreadable hread]
    exact .unreadable hpayload hbefore hread
  · exact .violated hpayload hbefore hread hcheck

/-- A record does not change what is accepted. -/
theorem recorded_decodeBatch (entry : MessageEntryPoint σ) (index : Nat) (payloads : List Payload) :
    entry.recorded.decodeBatch index payloads = entry.decodeBatch index payloads := by
  induction payloads generalizing index with
  | nil => rfl
  | cons payload rest ih =>
    unfold decodeBatch
    rw [ih]
    rfl

/-! ## Delivery -/

/-- A batch is a check of all payloads before a run of the handler. -/
theorem handleBatch_apply (entry : MessageEntryPoint σ) (payloads : List Payload) (s : σ) :
    entry.handleBatch payloads s =
      match entry.decodeBatch 0 payloads with
      | .error e => .error e s
      | .ok values =>
        match entry.delivery with
        | .single handler => values.forM handler s
        | .batched handler => handler values s := by
  unfold handleBatch
  rw [Client.ofExcept_bind]
  cases entry.decodeBatch 0 payloads with
  | error e => rfl
  | ok values => cases entry.delivery <;> rfl

/-- A payload on its own is a check before a run of the handler. -/
theorem handle_apply (entry : MessageEntryPoint σ) (payload : Payload) (s : σ) :
    entry.handle payload s =
      match entry.decode payload with
      | .error e => .error e s
      | .ok value =>
        match entry.delivery with
        | .single handler => handler value s
        | .batched handler => handler [value] s := by
  unfold handle
  rw [Client.ofExcept_bind]
  cases entry.decode payload with
  | error e => rfl
  | ok value => cases entry.delivery <;> rfl

/-- A handler goes on behind a value for which it does not fail. -/
theorem forM_cons_apply (handler : Value → EStateM Error σ Unit) (v : Value) (rest : List Value)
    (s : σ) : (v :: rest).forM handler s =
      match handler v s with
      | .ok () s' => rest.forM handler s'
      | .error e s' => .error e s' := by
  show EStateM.bind (handler v) (fun _ => rest.forM handler) s = _
  unfold EStateM.bind
  cases handler v s <;> rfl

/-- The end of a step with its record. -/
theorem recording_of_run {step : EStateM Error σ Unit} {s s' : σ} {r : Except Error Unit}
    (h : step s = ofExcept r s') (what : Handed) (before : List Handed) :
    recording what step (s, before) = ofExcept r (s', before ++ [what]) := by
  unfold recording
  dsimp only
  rw [h]
  cases r <;> rfl

/-- One by one, a handler is run on the values up to the first that fails, and the record shows it. -/
theorem forM_inTurn (handler : Value → EStateM Error σ Unit) (values : List Value) (s : σ)
    (before : List Handed) :
    ∃ r s' ran, values.forM handler s = ofExcept r s' ∧
      values.forM (fun v => recording (.one v) (handler v)) (s, before) =
        ofExcept r (s', before ++ ran.map .one) ∧
      InTurn handler values s r s' ran := by
  induction values generalizing s before with
  | nil => exact ⟨.ok (), s, [], rfl, by rw [List.map_nil, List.append_nil]; rfl, .done s⟩
  | cons v rest ih =>
    cases hrun : handler v s with
    | error e s' =>
      have hrecord : recording (.one v) (handler v) (s, before) = .error e (s', before ++ [.one v]) :=
        recording_of_run (r := .error e) hrun _ _
      refine ⟨.error e, s', [v], ?_, ?_, .failed hrun⟩
      · rw [forM_cons_apply, hrun]
        rfl
      · rw [forM_cons_apply, hrecord]
        rfl
    | ok _ s' =>
      have hrecord : recording (.one v) (handler v) (s, before) = .ok () (s', before ++ [.one v]) :=
        recording_of_run (r := .ok ()) hrun _ _
      obtain ⟨r, s'', ran, hplain, hrecorded, hturn⟩ := ih s' (before ++ [.one v])
      refine ⟨r, s'', v :: ran, ?_, ?_, .next hrun hturn⟩
      · rw [forM_cons_apply, hrun]
        exact hplain
      · rw [forM_cons_apply, hrecord]
        dsimp only
        rw [hrecorded, List.append_assoc]
        rfl

/-- A batch ends in one of the ways there are, and the record holds what the handler was run on. -/
theorem handleBatch_batched (entry : MessageEntryPoint σ) (payloads : List Payload) (s : σ)
    (before : List Handed) :
    ∃ r s' handed, entry.handleBatch payloads s = ofExcept r s' ∧
      entry.recorded.handleBatch payloads (s, before) = ofExcept r (s', before ++ handed) ∧
      entry.Batched payloads s r s' handed := by
  have hplain := entry.handleBatch_apply payloads s
  have hrecorded := entry.recorded.handleBatch_apply payloads (s, before)
  rw [recorded_decodeBatch] at hrecorded
  cases hdecode : entry.decodeBatch 0 payloads with
  | error e =>
    rw [hdecode] at hplain hrecorded
    refine ⟨.error e, s, [], hplain, ?_, .refused (refuses_of_decodeBatch hdecode)⟩
    rw [List.append_nil]
    exact hrecorded
  | ok values =>
    have haccepted := accepts_of_decodeBatch hdecode
    rw [hdecode] at hplain hrecorded
    unfold recorded Delivery.recorded at hrecorded ⊢
    cases hdelivery : entry.delivery with
    | single handler =>
      rw [hdelivery] at hplain hrecorded
      obtain ⟨r, s', ran, hrun, hrun', hturn⟩ := forM_inTurn handler values s before
      exact ⟨r, s', ran.map .one, hplain.trans hrun, hrecorded.trans hrun',
        .inTurn hdelivery haccepted hturn⟩
    | batched handler =>
      rw [hdelivery] at hplain hrecorded
      obtain ⟨r, s', hrun⟩ : ∃ r s', handler values s = ofExcept r s' := by
        cases hrun : handler values s with
        | ok _ s' => exact ⟨.ok (), s', rfl⟩
        | error e s' => exact ⟨.error e, s', rfl⟩
      exact ⟨r, s', [.all values], hplain.trans hrun,
        hrecorded.trans (recording_of_run hrun _ _), .together hdelivery haccepted hrun⟩

/-- A batch of one payload ends as the payload on its own. -/
theorem agreesOnOne (entry : MessageEntryPoint σ) (payload : Payload) (s : σ) :
    entry.AgreesOnOne payload s := by
  constructor
  · intro v violation hread hcheck
    have hdecode := decode_of_violated hread hcheck
    rw [handle_apply, handleBatch_apply, hdecode, decodeBatch_cons_error hdecode]
    exact ⟨rfl, rfl⟩
  · intro hnone
    rw [handle_apply, handleBatch_apply]
    cases hdecode : entry.decode payload with
    | error e =>
      rcases decode_eq_error hdecode with hread | ⟨v, violation, hread, hcheck, rfl⟩
      · rw [decodeBatch_cons_error hdecode, inBatch_of_unreadable hread]
      · exact absurd hcheck (hnone v violation hread)
    | ok v =>
      rw [decodeBatch_cons_ok hdecode]
      show (match entry.delivery with
        | .single handler => [v].forM handler s
        | .batched handler => handler [v] s) = _
      cases entry.delivery with
      | single handler =>
        dsimp only
        rw [forM_cons_apply]
        cases handler v s <;> rfl
      | batched handler => rfl

/-- Whatever the payloads and whatever the handler does: if some payload is not accepted, the handler is
not run, and the error is that of the first such payload; otherwise a batched handler is run once, on all
values, and a single handler on the values in order until it fails. One payload is received as a batch
of it, and what the handler is run on is the same as well. -/
theorem delivers_all_or_nothing_in_order (entry : MessageEntryPoint σ) (payloads : List Payload)
    (s : σ) (before : List Handed) :
    (∃ r s' handed, entry.handleBatch payloads s = ofExcept r s' ∧
      entry.recorded.handleBatch payloads (s, before) = ofExcept r (s', before ++ handed) ∧
      entry.Batched payloads s r s' handed) ∧
    ∀ payload, entry.AgreesOnOne payload s ∧ entry.recorded.AgreesOnOne payload (s, before) :=
  ⟨entry.handleBatch_batched payloads s before,
    fun payload => ⟨entry.agreesOnOne payload s, entry.recorded.agreesOnOne payload (s, before)⟩⟩

end MessageEntryPoint

end ServiceContract
