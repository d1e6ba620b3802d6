import FacilitatorX402.Proof.ServiceLock
import FacilitatorX402.Proof.SettleFunds
import FacilitatorX402.Proof.SettleLock

/-!
# Returning, and giving the lock back

What `runSettle` does outside of its try statement is not caught: the two lookups, and the creation
of the row under the lock. `settlePayment` creates its row outside of the try statement too. A call
ends properly exactly when the database answers none of these with an error; what fails later, on
chain or in the database, is caught, and the lock is deleted.
-/

namespace FacilitatorX402

open Interact OverRedis

namespace Service

/-- All but the statements `runSettle` awaits outside of its try statement. -/
def Op.Guarded : Op → Prop
  | .findAcceptedVerification _ _ => False
  | .findSettlement _ => False
  | .createSettlement _ _ _ => False
  | _ => True

/-! ### `runSettle` -/

section Settle

variable {ι : Type} {who : ι} {key : Key} {events : List (Event interface Err ι)}

/-- How a settlement ends, on the trace of its call. -/
def SettleEnds {α : Type} (who : ι) (key : Key) (events : List (Event interface Err ι))
    (outcome : Except Err α) : Prop :=
  Sound Op.Guarded who key events ∧ outcome.isOk = true ∨ Failed Op.Guarded events ∧ outcome.isOk = false

theorem sat_settleReject_sound (requestId code message : String) (httpStatus : Nat)
    (hevents : Sound Op.Guarded who key events) :
    (settleReject requestId code message httpStatus).Sat (traced who Admits) events
      (SettleEnds who key) := by
  rw [settleReject, dateNow, Program.sat_bind', sat_op]
  refine ⟨trivial, ?_⟩
  rintro (error | failedAt) events' ⟨hadmits, rfl⟩
  · cases hadmits
  · exact .inl ⟨hevents.cons (.inl trivial) (fun heq => by cases heq), rfl⟩

theorem sat_settleExisting_sound (requestId : String) (existing : PaymentSettlement)
    (receipt : Option PaymentReceipt) (hevents : Sound Op.Guarded who key events) :
    (settleExisting requestId existing receipt).Sat (traced who Admits) events
      (SettleEnds who key) := by
  unfold settleExisting
  split
  · exact .inl ⟨hevents, rfl⟩
  · exact sat_settleReject_sound _ _ _ _ hevents
  · exact sat_settleReject_sound _ _ _ _ hevents
  · exact sat_settleReject_sound _ _ _ _ hevents

variable {imports : Imports} {opts : SettleOpts}

/-- The try statement throws before any unguarded error, or deletes the lock. -/
theorem sat_settleSubmitted_sound (paymentRequest : PaymentRequest) (network : NetworkConfig)
    (value : Int) (settlementId : String) (onChainResult : OnChainResult)
    (hevents : ¬ Failed Op.Guarded events) :
    (settleSubmitted imports opts paymentRequest network value settlementId onChainResult).Sat
      (traced who Admits) events fun events' outcome =>
        ¬ Failed Op.Guarded events' ∧
          (outcome.isOk = true → Sound Op.Guarded who (lockKey opts.requestId) events') := by
  rw [settleSubmitted]
  dsimp only
  rw [Program.sat_bind']
  apply ((@only_op Op.Guarded .now trivial).unfailed hevents).mono
  rintro events (error | confirmedAt) hevents
  · exact ⟨hevents, nofun⟩
  rw [Program.thenSat_ok, Program.sat_bind']
  apply ((@only_op Op.Guarded .generateId trivial).unfailed hevents).mono
  rintro events (error | receiptId) hevents
  · exact ⟨hevents, nofun⟩
  rw [Program.thenSat_ok, Program.sat_bind']
  apply ((@only_op Op.Guarded (.confirmSettlement _ _ _) trivial).unfailed hevents).mono
  rintro events (error | confirmed) hevents
  · exact ⟨hevents, nofun⟩
  rw [Program.thenSat_ok, Program.sat_bind', sat_redisDel]
  refine ⟨trivial, ?_⟩
  rintro (error | deleted) _ ⟨hadmits, rfl⟩
  · cases hadmits
  · exact ⟨(Sound.of_dropped trivial hevents).unfailed, fun _ => Sound.of_dropped trivial hevents⟩

theorem sat_settleBody_sound (verification : PaymentVerification) (paymentRequest : PaymentRequest)
    (networkRecord : Network) (settlementId : String) (hevents : ¬ Failed Op.Guarded events) :
    (settleBody imports opts verification paymentRequest networkRecord settlementId).Sat
      (traced who Admits) events fun events' outcome =>
        ¬ Failed Op.Guarded events' ∧
          (outcome.isOk = true → Sound Op.Guarded who (lockKey opts.requestId) events') := by
  simp only [settleBody]
  split
  · exact ⟨hevents, fun heq => by cases heq⟩
  rename_i network asset _
  rw [Program.sat_bind', Program.sat_ofExcept]
  cases grossAmount paymentRequest.amount with
  | error error => exact ⟨hevents, fun heq => by cases heq⟩
  | ok value =>
      rw [Program.thenSat_ok, Program.sat_bind']
      apply ((only_payee (fun _ => trivial) paymentRequest).unfailed hevents).mono
      rintro events (error | recipient) hevents
      · exact ⟨hevents, fun heq => by cases heq⟩
      rw [Program.thenSat_ok, Program.sat_bind', Program.sat_ofExcept]
      cases submitArgs paymentRequest verification network asset value recipient with
      | error error => exact ⟨hevents, fun heq => by cases heq⟩
      | ok args =>
          have hsubmit : (submit args).Only Op.Guarded := by
            apply (Program.only_lift chainHom _).mono
            rintro _ ⟨op, rfl⟩
            trivial
          rw [Program.thenSat_ok, Program.sat_bind']
          apply (hsubmit.unfailed hevents).mono
          rintro events (error | onChainResult) hevents
          · exact ⟨hevents, fun heq => by cases heq⟩
          · exact sat_settleSubmitted_sound _ _ _ _ _ hevents

/-- The catch branch deletes the lock, and always returns. -/
theorem sat_settleFailure_sound (settlementId : String) (err : Err)
    (hevents : ¬ Failed Op.Guarded events) :
    (settleFailure opts settlementId err).Sat (traced who Admits) events
      (SettleEnds who (lockKey opts.requestId)) := by
  rw [settleFailure, Program.sat_bind', Program.sat_ignoreErrors]
  apply ((@only_op Op.Guarded (.failSettlement _) trivial).unfailed hevents).mono
  intro events _ hevents
  rw [Program.thenSat_ok, Program.sat_bind', Program.sat_ignoreErrors, sat_redisDel]
  refine ⟨trivial, ?_⟩
  rintro (error | deleted) _ ⟨hadmits, rfl⟩
  · cases hadmits
  · exact sat_settleReject_sound _ _ _ _ (Sound.of_dropped trivial hevents)

theorem sat_settleHolding_sound (verification : PaymentVerification)
    (paymentRequest : PaymentRequest) (networkRecord : Network)
    (hevents : ¬ Failed Op.Guarded events) :
    (settleHolding imports opts verification paymentRequest networkRecord).Sat
      (traced who Admits) events (SettleEnds who (lockKey opts.requestId)) := by
  rw [settleHolding, ulid, Program.sat_bind', sat_op]
  refine ⟨trivial, ?_⟩
  rintro (error | settlementId) _ ⟨hadmits, rfl⟩
  · cases hadmits
  rw [Program.thenSat_ok, createSettlement, Program.sat_bind', sat_op]
  refine ⟨trivial, ?_⟩
  rintro (error | created) _ ⟨-, rfl⟩
  · exact .inr ⟨failed_cons id rfl, rfl⟩
  have hcreated : ¬ Failed Op.Guarded (⟨who, Op.createSettlement settlementId opts.requestId
      opts.referralCode, .ok created⟩ :: ⟨who, Op.generateId, .ok settlementId⟩ :: events) :=
    not_failed_cons (.inr rfl) (not_failed_cons (.inl trivial) hevents)
  rw [Program.thenSat_ok, Program.sat_tryCatch]
  apply (sat_settleBody_sound verification paymentRequest networkRecord settlementId hcreated).mono
  rintro events (error | response) ⟨hevents, hsound⟩
  · exact sat_settleFailure_sound settlementId error hevents
  · exact .inl ⟨hsound rfl, rfl⟩

theorem sat_settleAccepted_sound (verification : PaymentVerification)
    (paymentRequest : PaymentRequest) (networkRecord : Network)
    (hevents : Sound Op.Guarded who (lockKey opts.requestId) events) :
    (settleAccepted imports opts verification paymentRequest networkRecord).Sat
      (traced who Admits) events (SettleEnds who (lockKey opts.requestId)) := by
  rw [settleAccepted, findSettlement, Program.sat_bind', sat_op]
  refine ⟨trivial, ?_⟩
  rintro (error | _ | ⟨existing, receipt⟩) _ ⟨-, rfl⟩
  · exact .inr ⟨failed_cons id rfl, rfl⟩
  · rw [Program.thenSat_ok, Program.sat_bind', sat_redisSetNx]
    refine ⟨trivial, ?_⟩
    rintro (error | _ | _) _ ⟨hadmits, rfl⟩
    · cases hadmits
    · exact sat_settleReject_sound _ _ _ _
        ((hevents.cons (.inr rfl) (fun heq => by cases heq)).cons (.inl trivial) fun heq => by cases heq)
    · exact sat_settleHolding_sound _ _ _
        (not_failed_cons (.inl trivial) (not_failed_cons (.inr rfl) hevents.unfailed))
  · exact sat_settleExisting_sound _ _ _ (hevents.cons (.inr rfl) (fun heq => by cases heq))

theorem sat_runSettle_ends (imports : Imports) (opts : SettleOpts) :
    (runSettle imports opts).Sat (traced who Admits) []
      (SettleEnds who (lockKey opts.requestId)) := by
  have hstart : @Sound interface _ ι Op.Guarded who (lockKey opts.requestId) [] := .nil
  rw [runSettle, findAcceptedVerification, Program.sat_bind', sat_op]
  refine ⟨trivial, ?_⟩
  rintro (error | _ | ⟨verification, paymentRequest, networkRecord⟩) _ ⟨-, rfl⟩
  · exact .inr ⟨failed_cons id rfl, rfl⟩
  · exact sat_settleReject_sound _ _ _ _ (hstart.cons (.inr rfl) (fun heq => by cases heq))
  · exact sat_settleAccepted_sound _ _ _ (hstart.cons (.inr rfl) (fun heq => by cases heq))

end Settle

section Runs

variable {ι : Type} {faults : Faults} {imports : ι → Imports} {call : ι → ServiceCall}
  {start cfg : Config (machine ι faults) ServiceReply}

theorem machine_answers : Answering (machine ι faults) where
  process {who world world' op outcome answer} h hprocess := by
    cases op with
    | now =>
        cases outcome with
        | time ms =>
            obtain ⟨rfl, -⟩ := Prod.mk.inj (Option.some.inj h)
            rfl
        | _ => cases h
    | generateId =>
        cases outcome with
        | text id =>
            obtain ⟨rfl, -⟩ := Prod.mk.inj (Option.some.inj h)
            rfl
        | _ => cases h
    | _ => cases hprocess
  exists_exec who world op := by
    let failed : Outcome := .fate (.failed (.raised "unreachable"))
    cases op with
    | redis command =>
        exact ⟨.fate .done, _, _, rfl, fun _ => KeyStore.exec_done_isOk who world.redis command⟩
    | chain op =>
        obtain ⟨outcome, answer, chain, h⟩ := exists_chainExec who world.chain op
        exact exists_succeeding nofun outcome ⟨answer, { world with chain := chain },
          by simp only [machine, exec, h, Option.map_some]⟩
    | now => exact exists_succeeding nofun (.time 0) ⟨_, _, rfl⟩
    | generateId => exact exists_succeeding nofun (.text "") ⟨_, _, rfl⟩
    | race => exact exists_succeeding nofun (.pick 0) ⟨_, _, rfl⟩
    | notifyWebhook notice => exact exists_succeeding nofun (.fate .done) ⟨_, _, rfl⟩
    | upsertPaymentRequest row =>
        exact exists_succeeding nofun failed (exists_returning _ _ _ _ _)
    | createVerification row => exact exists_succeeding nofun failed (exists_returning _ _ _ _ _)
    | createSettlement id requestId referralCode =>
        exact exists_succeeding nofun failed (exists_returning _ _ _ _ _)
    | failSettlement id => exact exists_succeeding nofun failed (exists_returning _ _ _ _ _)
    | confirmSettlement id data receipt =>
        exact exists_succeeding nofun failed (exists_returning _ _ _ _ _)
    | confirmByWorker id data receipt =>
        exact exists_succeeding nofun failed (exists_returning _ _ _ _ _)
    | _ => exact exists_succeeding nofun failed ⟨_, _, rfl⟩

/-- A settlement returns, and gives its lock back, exactly if neither of its lookups nor the creation
of its row is answered an error. -/
theorem runSettle_ends_iff [DecidableEq ι] (hstart : ServiceStart imports call start)
    (hreach : Config.Reachable RedisSucceeds start cfg) {who : ι} {opts : SettleOpts}
    (hcall : call who = .settle opts) {outcome : Except Err ServiceReply}
    (hdone : (cfg.calls who).result? = some outcome) :
    (∃ response, outcome = .ok (.settled response)) ∧
        ¬ Retains who (lockKey opts.requestId) (cfg.eventsOf who) ↔
      ¬ Failed Op.Guarded (cfg.eventsOf who) := by
  have hsat : (start.calls who).Sat (traced who Admits) (start.eventsOf who)
      fun events outcome => SettleEnds who (lockKey opts.requestId) events outcome ∧
        (outcome.isOk = true → ∃ response, outcome = .ok (.settled response)) := by
    rw [hstart.calls, hcall, ServiceCall.program,
      Config.eventsOf_of_notStarted (by simp [Config.NotStarted, hstart.history]),
      Program.sat_bind']
    apply (sat_runSettle_ends (imports who) opts).mono
    rintro events (error | response) hends
    · exact ⟨hends, fun heq => by cases heq⟩
    · exact ⟨hends, fun _ => ⟨response, rfl⟩⟩
  obtain ⟨⟨hsound, hok⟩ | ⟨herror, hthrown⟩, hreply⟩ := hreach.traced_result
    (fun _ _ _ _ _ hexec hgood => machine_answers.admits hexec hgood) hsat hdone
  · exact iff_of_true ⟨hreply hok, hsound.closed⟩ hsound.unfailed
  · refine iff_of_false ?_ (not_not_intro herror)
    rintro ⟨⟨response, rfl⟩, -⟩
    cases hthrown

end Runs

end Service

namespace Payment

/-- All but the statement `settlePayment` awaits under the lock and outside of its try statement. -/
def Op.Guarded : Op → Prop
  | .createSettlement _ => False
  | _ => True

/-- How a settlement ends, on the trace of its call: only a failure to create the row leaves the
lock. -/
def SettleEnds {ι : Type} (who : ι) (key : Key) (events : List (Event interface Err ι)) : Prop :=
  Sound Op.Guarded who key events ∨ Failed Op.Guarded events ∧ Retains who key events

section Settle

variable {ι : Type} {who : ι} {events : List (Event interface Err ι)} {deps : SettleDeps}
  {req : SettleRequest} {paymentRequest : PaymentRequest} {verification : PaymentVerification}
  {settlementId : String}

theorem only_settleBody :
    (settleBody deps req paymentRequest verification settlementId).Only Op.Guarded := by
  apply (Program.only_ofExcept _).bind
  intro args
  have hsubmit : (submit args).Only Op.Guarded := by
    apply (Program.only_lift chainHom _).mono
    rintro _ ⟨op, rfl⟩
    trivial
  apply hsubmit.bind
  intro onChainResult
  apply (@only_op Op.Guarded .generateId trivial).bind
  intro receiptId
  apply (@only_op Op.Guarded .now trivial).bind
  intro confirmedAt
  exact (@only_op Op.Guarded (.confirmSettlement _ _ _) trivial).bind fun _ => trivial

theorem sat_releaseLock (hevents : ¬ Failed Op.Guarded events) :
    (releaseLock req).Sat (traced who Admits) events fun events' outcome =>
      outcome = .ok () ∧ Sound Op.Guarded who (lockKey req.paymentRequestId) events' := by
  rw [releaseLock, Program.sat_ignoreErrors, sat_redis_del]
  refine ⟨trivial, ?_⟩
  rintro (error | deleted) _ ⟨hadmits, rfl⟩
  · cases hadmits
  · exact ⟨rfl, Sound.of_dropped trivial hevents⟩

/-- Whatever the try and the catch branch do, the finally branch deletes the lock. -/
theorem sat_settleLocked_sound (hevents : ¬ Failed Op.Guarded events) :
    (settleLocked deps req paymentRequest verification settlementId).Sat (traced who Admits)
      events fun events' _ => SettleEnds who (lockKey req.paymentRequestId) events' := by
  rw [settleLocked, Program.sat_tryFinally, Program.sat_tryCatch]
  apply (only_settleBody.unfailed hevents).mono
  rintro events (error | reply) hevents
  · apply ((only_settleFailure (fun _ => trivial) trivial req).unfailed hevents).mono
    intro events outcome hevents
    apply (sat_releaseLock hevents).mono
    rintro events _ ⟨rfl, hsound⟩
    exact .inl hsound
  · apply (sat_releaseLock hevents).mono
    rintro events _ ⟨rfl, hsound⟩
    exact .inl hsound

theorem sat_settleHolding_sound (hevents : ¬ Failed Op.Guarded events) :
    (settleHolding deps req paymentRequest verification).Sat (traced who Admits)
      (took who (lockKey req.paymentRequestId) :: events)
      fun events' _ => SettleEnds who (lockKey req.paymentRequestId) events' := by
  have htaken : ¬ Failed Op.Guarded (took who (lockKey req.paymentRequestId) :: events) :=
    not_failed_cons (.inl trivial) hevents
  have hretained : Retains who (lockKey req.paymentRequestId)
      (took who (lockKey req.paymentRequestId) :: events) := .cons_of_opens rfl
  rw [settleHolding, generateUlid, Program.sat_bind', sat_op]
  refine ⟨trivial, ?_⟩
  rintro (error | settlementId) _ ⟨hadmits, rfl⟩
  · cases hadmits
  rw [Program.thenSat_ok, createSettlement, Program.sat_bind', sat_op]
  refine ⟨trivial, ?_⟩
  rintro (error | created) _ ⟨-, rfl⟩
  · exact .inr ⟨failed_cons id rfl,
      .inr ⟨(fun heq => by cases heq), .inr ⟨(fun heq => by cases heq), hretained⟩⟩⟩
  · exact sat_settleLocked_sound (not_failed_cons (.inr rfl) (not_failed_cons (.inl trivial) htaken))

theorem sat_settleVerified_sound (hevents : Sound Op.Guarded who (lockKey req.paymentRequestId) events) :
    (settleVerified deps req paymentRequest verification).Sat (traced who Admits) events
      fun events' _ => SettleEnds who (lockKey req.paymentRequestId) events' := by
  rw [settleVerified, findConfirmedSettlement, Program.sat_bind', sat_op]
  refine ⟨trivial, ?_⟩
  rintro answer _ ⟨-, rfl⟩
  have hfound : Sound Op.Guarded who (lockKey req.paymentRequestId)
      (⟨who, Op.findConfirmedSettlement req.paymentRequestId, answer⟩ :: events) :=
    hevents.cons (.inl trivial) (fun heq => by cases heq)
  rcases answer with error | _ | ⟨existing, receipt⟩
  · exact .inl hfound
  · rw [Program.thenSat_ok]
    dsimp only
    rw [Program.sat_bind', sat_redis_setNx]
    refine ⟨trivial, ?_⟩
    rintro (error | _ | _) _ ⟨hadmits, rfl⟩
    · cases hadmits
    · exact .inl (hfound.cons (.inl trivial) fun heq => by cases heq)
    · exact sat_settleHolding_sound hfound.unfailed
  · exact .inl hfound

theorem sat_settlePayment_ends (deps : SettleDeps) (req : SettleRequest) :
    (settlePayment deps req).Sat (traced who Admits) []
      fun events _ => SettleEnds who (lockKey req.paymentRequestId) events := by
  rw [settlePayment, findPaymentRequest, Program.sat_bind', sat_op]
  refine ⟨trivial, ?_⟩
  rintro answer _ ⟨-, rfl⟩
  have hfound : @Sound interface _ ι Op.Guarded who (lockKey req.paymentRequestId)
      [⟨who, Op.findPaymentRequest req.paymentRequestId, answer⟩] :=
    Clean.nil.cons (.inl trivial) (fun heq => by cases heq)
  rcases answer with error | _ | ⟨paymentRequest, _ | ⟨verification, verifications⟩⟩
  · exact .inl hfound
  · exact .inl hfound
  · exact .inl hfound
  · exact sat_settleVerified_sound hfound

end Settle

section Runs

variable {ι : Type} {faults : Faults} {deps : ι → SettleDeps} {req : ι → SettleRequest}
  {start cfg : Config (machine ι faults) SettleReply}

theorem machine_answers : Answering (machine ι faults) where
  process {who world world' op outcome answer} h hprocess := by
    cases op with
    | now =>
        obtain ⟨-, ms, rfl⟩ := exec_now h
        rfl
    | generateId =>
        obtain ⟨-, id, rfl⟩ := exec_generateId h
        rfl
    | _ => cases hprocess
  exists_exec who world op := by
    let failed : Outcome := .fate (.failed (.raised "unreachable"))
    cases op with
    | redis command =>
        exact ⟨.fate .done, _, _, rfl, fun _ => KeyStore.exec_done_isOk who world.redis command⟩
    | chain op =>
        obtain ⟨outcome, answer, chain, h⟩ := exists_chainExec who world.chain op
        exact exists_succeeding nofun outcome ⟨answer, { world with chain := chain },
          by simp only [machine, exec, h, Option.map_some]⟩
    | now => exact exists_succeeding nofun (.time 0) ⟨_, _, rfl⟩
    | generateId => exact exists_succeeding nofun (.text "") ⟨_, _, rfl⟩
    | findPaymentRequest id => exact exists_succeeding nofun failed ⟨_, _, rfl⟩
    | findConfirmedSettlement requestId => exact exists_succeeding nofun failed ⟨_, _, rfl⟩
    | createSettlement row => exact exists_succeeding nofun failed (exists_returning _ _ _ _ _)
    | failSettlement id => exact exists_succeeding nofun failed (exists_returning _ _ _ _ _)
    | confirmSettlement id data receipt =>
        exact exists_succeeding nofun failed (exists_returning _ _ _ _ _)
    | createVerified request verification =>
        exact exists_succeeding nofun failed (exists_returning _ _ _ _ _)

/-- A settlement gives its lock back exactly if the creation of its row is not answered an error. -/
theorem settlePayment_releases_iff [DecidableEq ι]
    (hcalls : ∀ who, start.calls who = settlePayment (deps who) (req who))
    (hhistory : start.history = []) (hreach : Config.Reachable RedisSucceeds start cfg) {who : ι}
    {outcome : Except Err SettleReply} (hdone : (cfg.calls who).result? = some outcome) :
    ¬ Retains who (lockKey (req who).paymentRequestId) (cfg.eventsOf who) ↔
      ¬ Failed Op.Guarded (cfg.eventsOf who) := by
  have hsat : (start.calls who).Sat (traced who Admits) (start.eventsOf who)
      fun events _ => SettleEnds who (lockKey (req who).paymentRequestId) events := by
    rw [hcalls, Config.eventsOf_of_notStarted (by simp [Config.NotStarted, hhistory])]
    exact sat_settlePayment_ends (deps who) (req who)
  rcases hreach.traced_result
    (fun _ _ _ _ _ hexec hgood => machine_answers.admits hexec hgood) hsat hdone
    with hsound | ⟨hfailed, hretained⟩
  · exact iff_of_true hsound.closed hsound.unfailed
  · exact iff_of_false (not_not_intro hretained) (not_not_intro hfailed)

end Runs

end Payment

/-! ### Both settlements -/

theorem not_failed_of_all_isOk {I : Interface} {ι : Type} {Q : I.Op → Prop}
    {events : List (Event I Err ι)} (h : events.all (·.answer.isOk) = true) : ¬ Failed Q events := by
  rintro ⟨event, hevent, -, herror⟩
  rw [List.all_eq_true.mp h event hevent] at herror
  cases herror

section Settlements

variable {ι : Type} [DecidableEq ι] {faults : Faults}

/-- **Ends and locks.** While Redis commands succeed, every call can be run to its end. A call of
`runSettle` then has returned a response and given its lock back exactly if the database answered
neither of its lookups nor the creation of its row with an error, and a call of `settlePayment` has
given its lock back exactly if the creation of its row was not answered an error. -/
theorem settlements_end_iff :
    (∀ imports call (start cfg : Config (Service.machine ι faults) Service.ServiceReply),
      Service.ServiceStart imports call start →
      Config.Reachable RedisSucceeds start cfg → ∀ who,
      (∃ last, Config.Reachable RedisSucceeds cfg last ∧ last.Finished who) ∧
      ∀ opts outcome, call who = .settle opts → (cfg.calls who).result? = some outcome →
        ((∃ response, outcome = .ok (.settled response)) ∧
            ¬ Retains who (Service.lockKey opts.requestId) (cfg.eventsOf who) ↔
          ¬ Failed Service.Op.Guarded (cfg.eventsOf who))) ∧
    ∀ (deps : ι → Payment.SettleDeps) (req : ι → Payment.SettleRequest)
      (start cfg : Config (Payment.machine ι faults) Payment.SettleReply),
      (∀ who, start.calls who = Payment.settlePayment (deps who) (req who)) → start.history = [] →
      Config.Reachable RedisSucceeds start cfg → ∀ who,
      (∃ last, Config.Reachable RedisSucceeds cfg last ∧ last.Finished who) ∧
      ∀ outcome, (cfg.calls who).result? = some outcome →
        (¬ Retains who (Payment.lockKey (req who).paymentRequestId) (cfg.eventsOf who) ↔
          ¬ Failed Payment.Op.Guarded (cfg.eventsOf who)) := by
  constructor
  · intro imports call start cfg hstart hreach who
    refine ⟨Service.machine_answers.exists_finished cfg who, ?_⟩
    intro opts outcome hcall hdone
    exact Service.runSettle_ends_iff hstart hreach hcall hdone
  · intro deps req start cfg hcalls hhistory hreach who
    refine ⟨Payment.machine_answers.exists_finished cfg who, ?_⟩
    exact fun outcome hdone => Payment.settlePayment_releases_iff hcalls hhistory hreach hdone

end Settlements

/-! ### One call of each -/

section Schedules

namespace Service

abbrev OneCall := Config (machine Unit ⟨false, false⟩) ServiceReply

def oneSettlement : OneCall where
  world := verifiedWorld _
  calls _ := sampleSettle.program sampleImports
  history := []

end Service

theorem settlements_end_iff_confirmed :
    (∃ cfg : Service.OneCall, (∃ response, (cfg.calls ()).result? = some (.ok (.settled response))) ∧
      ¬ Retains () (Service.lockKey "req-0") (cfg.eventsOf ())) ∧
    ∃ cfg : Payment.OneCall, (cfg.calls ()).result? ≠ none ∧
      ¬ Retains () (Payment.lockKey "req-0") (cfg.eventsOf ()) := by
  obtain ⟨cfg, hrun, hended⟩ := Option.map_eq_some_iff.mp
    (show (Service.oneSettlement.runChecked (fun cfg event => decide (RedisSucceeds cfg event))
      (Service.lookups () ++ Service.lockAndSubmit () "set-0"
        ++ Service.mineAndConfirm () "0x01" "rec-0")).map
      (fun cfg => (cfg.calls ()).result?.isSome && (cfg.eventsOf ()).all (·.answer.isOk))
        = some true by decide +kernel)
  obtain ⟨cfg', hrun', hended'⟩ := Option.map_eq_some_iff.mp
    (show ((Payment.settleStart Unit ⟨false, false⟩).runChecked
      (fun cfg event => decide (RedisSucceeds cfg event)) (Payment.settleMoves () "set-0" "0x01" "rec-0")).map
      (fun cfg => (cfg.calls ()).result?.isSome && (cfg.eventsOf ()).all (·.answer.isOk))
        = some true by decide +kernel)
  rw [Bool.and_eq_true, Option.isSome_iff_exists] at hended hended'
  obtain ⟨⟨outcome, houtcome⟩, hok⟩ := hended
  obtain ⟨⟨outcome', houtcome'⟩, hok'⟩ := hended'
  obtain ⟨hservice, hpayment⟩ := @settlements_end_iff Unit _ ⟨false, false⟩
  have hstart : Service.ServiceStart (fun _ => Service.sampleImports)
      (fun _ => Service.sampleSettle) Service.oneSettlement := ⟨fun _ => rfl, rfl⟩
  have hreach := Config.reachable_of_runChecked (fun _ _ => of_decide_eq_true) hrun
  have hreach' := Config.reachable_of_runChecked (fun _ _ => of_decide_eq_true) hrun'
  obtain ⟨⟨response, rfl⟩, hreleased⟩ :=
    ((hservice _ _ _ cfg hstart hreach ()).2 _ outcome rfl houtcome).mpr (not_failed_of_all_isOk hok)
  have hreleased' := ((hpayment (fun _ => Payment.sampleDeps) (fun _ => Payment.sampleRequest) _ cfg'
    (fun _ => rfl) rfl hreach' ()).2 outcome' houtcome').mpr (not_failed_of_all_isOk hok')
  exact ⟨⟨cfg, ⟨response, houtcome⟩, hreleased⟩, cfg', by simp [houtcome'], hreleased'⟩

theorem settlements_keep_locks :
    (∃ cfg : Service.OneCall, Config.Reachable RedisSucceeds Service.oneSettlement cfg ∧
      (∃ error, (cfg.calls ()).result? = some (.error error)) ∧
      cfg.world.redis (Service.lockKey "req-0") = some (.call ())) ∧
    ∃ cfg : Payment.OneCall,
      Config.Reachable RedisSucceeds (Payment.settleStart Unit ⟨false, false⟩) cfg ∧
      (∃ error, (cfg.calls ()).result? = some (.error error)) ∧
      cfg.world.redis (Payment.lockKey "req-0") = some (.call ()) := by
  obtain ⟨cfg, hrun, hended⟩ := Option.map_eq_some_iff.mp
    (show (Service.oneSettlement.runChecked (fun cfg event => decide (RedisSucceeds cfg event))
      (Service.lookups () ++ [.call () (.fate .done), .call () (.text "set-0"),
        .call () (.fate (.failed (.raised "connection lost")))])).map
      (fun cfg => decide ((cfg.calls ()).result? = some (.error (.raised "connection lost")) ∧
        cfg.world.redis (Service.lockKey "req-0") = some (.call ()))) = some true by decide +kernel)
  obtain ⟨cfg', hrun', hended'⟩ := Option.map_eq_some_iff.mp
    (show ((Payment.settleStart Unit ⟨false, false⟩).runChecked
      (fun cfg event => decide (RedisSucceeds cfg event)) (Payment.lookups () ++ [.call () (.fate .done), .call () (.text "set-0"),
        .call () (.fate (.failed (.raised "connection lost")))])).map
      (fun cfg => decide ((cfg.calls ()).result? = some (.error (.raised "connection lost")) ∧
        cfg.world.redis (Payment.lockKey "req-0") = some (.call ()))) = some true by decide +kernel)
  obtain ⟨hthrown, hkept⟩ := of_decide_eq_true hended
  obtain ⟨hthrown', hkept'⟩ := of_decide_eq_true hended'
  exact ⟨⟨cfg, Config.reachable_of_runChecked (fun _ _ => of_decide_eq_true) hrun,
      ⟨_, hthrown⟩, hkept⟩,
    cfg', Config.reachable_of_runChecked (fun _ _ => of_decide_eq_true) hrun',
      ⟨_, hthrown'⟩, hkept'⟩

end Schedules

end FacilitatorX402
