import FacilitatorX402.Proof.PaymentRules

/-!
# The phases of a settlement

`settlePayment` as an automaton: what a call may await in each phase and where the answer leads. The
program is held to it once; every result about interleaved settlements then only looks at phases.
-/

namespace FacilitatorX402

open Interact

namespace Payment

/-- Where a call stands, named by what it awaits next. A phase that returns the lock, or has ended,
keeps the result the call returns if it returns `settled: true`. -/
inductive Phase where
  | lookup
  | check
  | lock
  | name
  | create (settlementId : String)
  | body (settlementId : String)
  | submitted (settlementId : String)
  | failed
  | releasing
  | closing (result : Option SettleResult)
  | abandoned
  | ended (result : Option SettleResult)

/-- The result of a call that returned `settled: true`. -/
def settledResult : Except Err SettleReply → Option SettleResult
  | .ok (.settled result) => some result
  | _ => none

namespace Phase

/-- What a call may await in a phase. -/
inductive Awaits (req : SettleRequest) : Phase → Op → Prop
  | lookup : Awaits req lookup (.findPaymentRequest req.paymentRequestId)
  | check : Awaits req check (.findConfirmedSettlement req.paymentRequestId)
  | lock : Awaits req lock (.redis (.setNx (lockKey req.paymentRequestId)))
  | name : Awaits req name .generateId
  | create (settlementId : String) :
      Awaits req (create settlementId) (.createSettlement (pendingSettlement settlementId req))
  | submit (settlementId : String) (args : SubmitArgs) :
      Awaits req (body settlementId) (.chain (.submitOnChain args))
  | write (settlementId : String) (transfer : TransferCall) :
      Awaits req (submitted settlementId) (.chain (.writeContract transfer))
  | wait (settlementId rpcUrl txHash : String) :
      Awaits req (submitted settlementId) (.chain (.waitForTransactionReceipt rpcUrl txHash))
  | leave (settlementId : String) : Awaits req (submitted settlementId) (.chain .submitOnChainEnd)
  | receiptId (settlementId : String) : Awaits req (submitted settlementId) .generateId
  | now (settlementId : String) : Awaits req (submitted settlementId) .now
  | confirm (settlementId : String) (data : Confirmation) (paymentRequest : PaymentRequest)
      (receiptId : String) :
      Awaits req (submitted settlementId) (.confirmSettlement settlementId data
        (settlementReceipt paymentRequest req settlementId receiptId data))
  | failUnsubmitted (settlementId : String) :
      Awaits req (body settlementId) (.failSettlement settlementId)
  | fail (settlementId : String) :
      Awaits req (submitted settlementId) (.failSettlement settlementId)
  | failed : Awaits req failed (.redis (.del (lockKey req.paymentRequestId)))
  | releasing : Awaits req releasing (.redis (.del (lockKey req.paymentRequestId)))
  | closing (result : Option SettleResult) :
      Awaits req (closing result) (.redis (.del (lockKey req.paymentRequestId)))

/-- Where an answer leads. -/
def next (req : SettleRequest) : Phase → (op : Op) → Except Err (interface.Ans op) → Phase
  | lookup, .findPaymentRequest _, .ok (some (_, _ :: _)) => check
  | lookup, _, _ => ended none
  | check, .findConfirmedSettlement _, .ok none => lock
  | check, .findConfirmedSettlement _, .ok (some (existing, receipt)) =>
      ended (some (idempotentResult req.paymentRequestId existing receipt))
  | check, _, _ => ended none
  | lock, .redis (.setNx _), .ok true => name
  | lock, _, _ => ended none
  | name, .generateId, .ok settlementId => create settlementId
  | name, _, _ => abandoned
  | create settlementId, .createSettlement _, .ok _ => body settlementId
  | create _, _, _ => abandoned
  | submitted settlementId, .confirmSettlement _ data receipt, .ok _ =>
      closing (some (confirmedResult req.paymentRequestId settlementId data.txHash receipt.id))
  | submitted _, .failSettlement _, .ok _ => failed
  | submitted _, .failSettlement _, .error _ => closing none
  | body _, .failSettlement _, .ok _ => failed
  | body _, .failSettlement _, .error _ => closing none
  | body settlementId, _, _ => submitted settlementId
  | failed, _, _ => releasing
  | releasing, _, _ => ended none
  | closing result, _, _ => ended result
  | phase, _, _ => phase

end Phase

def settleRules (req : SettleRequest) : Protocol interface Err Phase where
  allowed := Phase.Awaits req
  trans phase op answer phase' := phase' = phase.next req op answer

/-- A call is over in the phase that has its result. -/
def settlePost (phase : Phase) (outcome : Except Err SettleReply) : Prop :=
  phase = .ended (settledResult outcome) ∨ phase = .abandoned ∧ settledResult outcome = none

/-! ### `settlePayment` keeps to the phases -/

section Sat

variable {deps : SettleDeps} {req : SettleRequest} {paymentRequest : PaymentRequest}
  {verification : PaymentVerification} {settlementId : String}

theorem sat_submit (args : SubmitArgs) :
    (submit args).Sat (settleRules req) (.body settlementId)
      fun phase _ => phase = .submitted settlementId := by
  rw [submit, Program.sat_lift]
  refine sat_submitOnChain args (Phase.Awaits.submit settlementId args) ?_
    (Phase.Awaits.write settlementId) (Phase.Awaits.wait settlementId)
    (Phase.Awaits.leave settlementId) ?_
  · rintro answer phase ⟨answer', -, rfl⟩
    rfl
  · rintro op answer phase ⟨answer', -, rfl⟩
    rfl

/-- The body ends with the result of a confirmed row, or throws with its row still its own. -/
theorem sat_settleBody :
    (settleBody deps req paymentRequest verification settlementId).Sat (settleRules req)
      (.body settlementId) fun phase outcome =>
        match outcome with
        | .ok reply => phase = .closing (settledResult (.ok reply))
        | .error _ => phase = .body settlementId ∨ phase = .submitted settlementId := by
  rw [settleBody, Program.sat_bind', Program.sat_ofExcept]
  cases submitArgs deps paymentRequest verification with
  | error error => exact .inl rfl
  | ok args =>
      rw [Program.thenSat_ok, Program.sat_bind']
      refine (sat_submit args).mono ?_
      rintro phase (error | onChainResult) rfl
      · exact .inr rfl
      rw [Program.thenSat_ok, generateUlid, Program.sat_bind', sat_op]
      refine ⟨.receiptId settlementId, ?_⟩
      rintro (error | receiptId) phase rfl
      · exact .inr rfl
      rw [Program.thenSat_ok, dateNow, Program.sat_bind', sat_op]
      refine ⟨.now settlementId, ?_⟩
      rintro (error | confirmedAt) phase rfl
      · exact .inr rfl
      rw [Program.thenSat_ok]
      dsimp only
      rw [confirmSettlement, Program.sat_bind', sat_op]
      refine ⟨.confirm settlementId _ paymentRequest receiptId, ?_⟩
      rintro (error | confirmed) phase rfl
      · exact .inr rfl
      · rfl

/-- The catch branch throws, before or after its own deletion of the lock. -/
theorem sat_settleFailure {phase : Phase}
    (hphase : phase = .body settlementId ∨ phase = .submitted settlementId) :
    (settleFailure req settlementId).Sat (settleRules req) phase
      fun phase outcome => settledResult outcome = none ∧
        (phase = .closing none ∨ phase = .releasing) := by
  have hrelease : ∀ (answer : Except Err Unit) phase',
      phase' = (match answer with | .ok _ => Phase.failed | .error _ => .closing none) →
      Program.thenSat (settleRules req) (fun _ => do
        redis (redisDel (lockKey req.paymentRequestId))
        .throw (settlementFailed req.paymentRequestId))
        (fun phase (outcome : Except Err SettleReply) => settledResult outcome = none ∧
          (phase = .closing none ∨ phase = .releasing)) phase' answer := by
    rintro (error | failed) phase rfl
    · exact ⟨rfl, .inl rfl⟩
    rw [Program.thenSat_ok, Program.sat_bind', sat_redis_del]
    refine ⟨.failed, ?_⟩
    rintro (error | deleted) phase rfl <;> exact ⟨rfl, .inr rfl⟩
  rw [settleFailure, failSettlement, Program.sat_bind', sat_op]
  rcases hphase with rfl | rfl
  · refine ⟨.failUnsubmitted settlementId, fun answer phase htrans => hrelease answer phase ?_⟩
    rw [htrans]
    cases answer <;> rfl
  · refine ⟨.fail settlementId, fun answer phase htrans => hrelease answer phase ?_⟩
    rw [htrans]
    cases answer <;> rfl

theorem sat_settleLocked :
    (settleLocked deps req paymentRequest verification settlementId).Sat (settleRules req)
      (.body settlementId) settlePost := by
  rw [settleLocked, Program.sat_tryFinally, Program.sat_tryCatch]
  refine sat_settleBody.mono ?_
  rintro phase (error | reply) hphase
  · refine (sat_settleFailure hphase).mono ?_
    rintro phase outcome ⟨hnone, rfl | rfl⟩ <;>
      rw [releaseLock, Program.sat_ignoreErrors, sat_redis_del]
    · refine ⟨.closing none, ?_⟩
      rintro answer phase rfl
      exact .inl (by rw [hnone]; rfl)
    · refine ⟨.releasing, ?_⟩
      rintro answer phase rfl
      exact .inl (by rw [hnone]; rfl)
  · obtain rfl : phase = .closing (settledResult (.ok reply)) := hphase
    dsimp only
    rw [releaseLock, Program.sat_ignoreErrors, sat_redis_del]
    refine ⟨.closing _, ?_⟩
    rintro answer phase rfl
    exact .inl rfl

theorem sat_settleHolding :
    (settleHolding deps req paymentRequest verification).Sat (settleRules req) .name settlePost := by
  rw [settleHolding, generateUlid, Program.sat_bind', sat_op]
  refine ⟨.name, ?_⟩
  rintro (error | settlementId) phase rfl
  · exact .inr ⟨rfl, rfl⟩
  rw [Program.thenSat_ok, createSettlement, Program.sat_bind', sat_op]
  refine ⟨.create settlementId, ?_⟩
  rintro (error | created) phase rfl
  · exact .inr ⟨rfl, rfl⟩
  · exact sat_settleLocked

theorem sat_settleVerified :
    (settleVerified deps req paymentRequest verification).Sat (settleRules req) .check
      settlePost := by
  rw [settleVerified, findConfirmedSettlement, Program.sat_bind', sat_op]
  refine ⟨.check, ?_⟩
  rintro (error | _ | ⟨existing, receipt⟩) phase rfl
  · exact .inl rfl
  · rw [Program.thenSat_ok]
    dsimp only
    rw [Program.sat_bind', sat_redis_setNx]
    refine ⟨.lock, ?_⟩
    rintro (error | locked) phase rfl
    · exact .inl rfl
    · cases locked with
      | true => exact sat_settleHolding
      | false => exact .inl rfl
  · exact .inl rfl

theorem sat_settlePayment (deps : SettleDeps) (req : SettleRequest) :
    (settlePayment deps req).Sat (settleRules req) .lookup settlePost := by
  rw [settlePayment, findPaymentRequest, Program.sat_bind', sat_op]
  refine ⟨.lookup, ?_⟩
  rintro (error | _ | ⟨paymentRequest, _ | ⟨verification, verifications⟩⟩) phase rfl
  · exact .inl rfl
  · exact .inl rfl
  · exact .inl rfl
  · exact sat_settleVerified

end Sat

end Payment

end FacilitatorX402
