import FacilitatorX402.Proof.StoredPayment

/-!
# What calls may write

Calls of `verifyPayment` and of `settlePayment` as one automaton over the tables and the chain: a
verification stores the rows of its own body; a settlement decides the row that it has created for the
payment that it has read, as confirmed only with a transaction that it has sent for that payment and whose
receipt it has. What a call replies is then in the tables.
-/

namespace FacilitatorX402

open Interact

namespace Payment

/-- What a call has read, owns, has sent or can reply with. -/
inductive BookPhase where
  | begun
  | read (request : PaymentRequest) (verification : PaymentVerification)
  | owns (request : PaymentRequest) (verification : PaymentVerification) (settlementId : String)
      (sent : Option (TransferCall × String))
  | paid (request : PaymentRequest) (verification : PaymentVerification) (settlementId : String)
      (transfer : TransferCall) (txHash : String)
  | stored (request : PaymentRequest) (verification : PaymentVerification)
  | settled (requestId txHash : String)
  | closed

namespace BookPhase

def next : BookPhase → (op : Op) → Except Err (interface.Ans op) → BookPhase
  | begun, .createVerified request verification, .ok _ => stored request verification
  | begun, .findPaymentRequest _, .ok (some (request, verification :: _)) => read request verification
  | read _ _, .findConfirmedSettlement requestId, .ok (some (existing, _)) =>
      settled requestId (existing.txHash.getD "")
  | read request verification, .createSettlement row, .ok _ => owns request verification row.id none
  | read _ _, .createSettlement _, .error _ => closed
  | owns request verification settlementId _, .chain (.writeContract transfer), .ok txHash =>
      owns request verification settlementId (some (transfer, txHash))
  | owns request verification settlementId (some (transfer, txHash)),
      .chain (.waitForTransactionReceipt _ _), .ok receipt =>
        if receipt.status = .success then paid request verification settlementId transfer txHash
        else owns request verification settlementId (some (transfer, txHash))
  | paid _ _ _ _ _, .confirmSettlement _ data receipt, .ok _ => settled receipt.requestId data.txHash
  | owns _ _ _ _, .failSettlement _, _ => closed
  | paid _ _ _ _ _, .failSettlement _, _ => closed
  | phase, _, _ => phase

/-- The row that the call has created and not yet decided, with the payment it is for. -/
inductive Owns (request : PaymentRequest) (verification : PaymentVerification) (settlementId : String) :
    BookPhase → Prop
  | owns {sent : Option (TransferCall × String)} :
      Owns request verification settlementId (.owns request verification settlementId sent)
  | paid {transfer : TransferCall} {txHash : String} :
      Owns request verification settlementId (.paid request verification settlementId transfer txHash)

end BookPhase

def PaymentCall.deps (host : Host) (registry : NetworkRegistry) (config : FacilitatorConfig) :
    SettleDeps :=
  { host := host, networkRegistry := registry, config := config }

/-- The operations that neither read nor write a payment. -/
def Op.Still : Op → Prop
  | .redis _ => True
  | .chain (.submitOnChain _) => True
  | .chain .submitOnChainEnd => True
  | .now => True
  | .generateId => True
  | _ => False

/-- What a call may do in a phase. -/
inductive MayWrite (host : Host) (registry : NetworkRegistry) : PaymentCall → BookPhase → Op → Prop
  | still {call : PaymentCall} {phase : BookPhase} {op : Op} (hop : Op.Still op) :
      MayWrite host registry call phase op
  | store {rawBody : Json} {requestId : String} {request : PaymentRequest}
      {verification : PaymentVerification} (hstored : StoredAs host rawBody requestId request verification) :
      MayWrite host registry (.verify rawBody) .begun (.createVerified request verification)
  | find {config : FacilitatorConfig} {req : SettleRequest} :
      MayWrite host registry (.settle config req) .begun (.findPaymentRequest req.paymentRequestId)
  | check {config : FacilitatorConfig} {req : SettleRequest} {request : PaymentRequest}
      {verification : PaymentVerification} :
      MayWrite host registry (.settle config req) (.read request verification)
        (.findConfirmedSettlement req.paymentRequestId)
  | create {config : FacilitatorConfig} {req : SettleRequest} {request : PaymentRequest}
      {verification : PaymentVerification} {settlementId : String} :
      MayWrite host registry (.settle config req) (.read request verification)
        (.createSettlement (pendingSettlement settlementId req))
  | write {config : FacilitatorConfig} {req : SettleRequest} {request : PaymentRequest}
      {verification : PaymentVerification} {settlementId rpcUrl : String}
      {sent : Option (TransferCall × String)} {args : SubmitArgs}
      (hargs : submitArgs (PaymentCall.deps host registry config) request verification = .ok args) :
      MayWrite host registry (.settle config req) (.owns request verification settlementId sent)
        (.chain (.writeContract (args.transfer rpcUrl)))
  | wait {config : FacilitatorConfig} {req : SettleRequest} {request : PaymentRequest}
      {verification : PaymentVerification} {settlementId txHash : String} {transfer : TransferCall} :
      MayWrite host registry (.settle config req)
        (.owns request verification settlementId (some (transfer, txHash)))
        (.chain (.waitForTransactionReceipt transfer.rpcUrl txHash))
  | confirm {config : FacilitatorConfig} {req : SettleRequest} {request : PaymentRequest}
      {verification : PaymentVerification} {settlementId receiptId : String} {transfer : TransferCall}
      {onChainResult : OnChainResult} {confirmedAt : Nat} {data : Confirmation}
      (hdata : data = confirmation onChainResult
        (settlementFees (PaymentCall.deps host registry config) request req.referralCode) confirmedAt) :
      MayWrite host registry (.settle config req)
        (.paid request verification settlementId transfer onChainResult.txHash)
        (.confirmSettlement settlementId data
          (settlementReceipt request req settlementId receiptId data))
  | fail {config : FacilitatorConfig} {req : SettleRequest} {request : PaymentRequest}
      {verification : PaymentVerification} {settlementId : String} {phase : BookPhase}
      (howns : phase.Owns request verification settlementId) :
      MayWrite host registry (.settle config req) phase (.failSettlement settlementId)

def bookCalls (host : Host) (registry : NetworkRegistry) (call : PaymentCall) :
    Protocol interface Err BookPhase where
  allowed := MayWrite host registry call
  trans phase op answer phase' := phase' = phase.next op answer

/-- What a call replies is what it has stored, or what it has found settled or has settled. -/
structure Replies (host : Host) (call : PaymentCall) (phase : BookPhase)
    (outcome : Except Err PaymentReply) : Prop where
  verified : ∀ result, outcome = .ok (.verified result) → ∃ rawBody request verification,
    call = .verify rawBody ∧ phase = .stored request verification ∧
      StoredAs host rawBody result.paymentRequestId request verification
  settled : ∀ result, outcome = .ok (.settled (.settled result)) →
    phase = .settled result.requestId result.txHash

/-! ### The programs keep to it -/

section Sat

variable {host : Host} {registry : NetworkRegistry} {call : PaymentCall} {phase : BookPhase}
  {config : FacilitatorConfig} {req : SettleRequest} {request : PaymentRequest}
  {verification : PaymentVerification} {settlementId : String}

/-- The operations that leave a payment alone leave the phase as well. -/
theorem next_of_still {op : Op} (hop : Op.Still op) (answer : Except Err (interface.Ans op)) :
    phase.next op answer = phase := by
  cases op with
  | redis command => cases phase <;> rfl
  | now => cases phase <;> rfl
  | generateId => cases phase <;> rfl
  | chain op =>
      cases op with
      | submitOnChain args => cases phase <;> rfl
      | submitOnChainEnd => cases phase <;> rfl
      | _ => exact hop.elim
  | _ => exact hop.elim

theorem sat_still {α : Type} {program : PaymentProgram α} (h : program.Only Op.Still) :
    program.Sat (bookCalls host registry call) phase fun phase' _ => phase' = phase := by
  apply h.sat
  · exact fun op hstill => .still hstill
  · rintro op answer phase' hstill rfl
    exact next_of_still hstill answer

theorem only_redis_still {α : Type} (program : RedisProgram α) : (redis program).Only Op.Still :=
  only_redis (fun _ => trivial) program

theorem books_persistVerified {rawBody : Json} {vreq : VerifyRequest}
    (hparse : parseVerifyRequest rawBody = .ok vreq) (requestId : String) (verifiedAt : Nat) :
    (persistVerified host vreq requestId (computeSignatureHash vreq.payload.signature.text)
      verifiedAt).Sat (bookCalls host registry (.verify rawBody)) .begun fun phase outcome =>
        ∀ result, outcome = .ok result → ∃ request verification,
          phase = .stored request verification ∧
            StoredAs host rawBody result.paymentRequestId request verification := by
  rw [persistVerified, generateUlid, Program.sat_bind', sat_op]
  refine ⟨.still trivial, ?_⟩
  rintro (error | verificationId) phase rfl
  · exact fun _ h => by cases h
  have hstored : StoredAs host rawBody requestId (acceptedRequest vreq requestId)
      (acceptedVerification host vreq verificationId requestId
        (computeSignatureHash vreq.payload.signature.text)) :=
    ⟨vreq, verificationId, hparse, rfl, rfl⟩
  rw [Program.thenSat_ok, createVerified, Program.sat_bind', sat_op]
  refine ⟨.store hstored, ?_⟩
  rintro (error | created) phase rfl
  · exact fun _ h => by cases h
  rw [Program.thenSat_ok]
  split
  · exact fun _ h => by cases h
  · rintro result hresult
    cases hresult
    exact ⟨_, _, rfl, hstored⟩

theorem books_verifyChecked {rawBody : Json} {vreq : VerifyRequest}
    (hparse : parseVerifyRequest rawBody = .ok vreq) (network : NetworkConfig) (asset : FoundAsset)
    (requestId : String) :
    (verifyChecked host network asset vreq requestId).Sat (bookCalls host registry (.verify rawBody))
      .begun fun phase outcome => ∀ result, outcome = .ok result → ∃ request verification,
        phase = .stored request verification ∧
          StoredAs host rawBody result.paymentRequestId request verification := by
  rw [verifyChecked, dateNow, Program.sat_bind', sat_op]
  refine ⟨.still trivial, ?_⟩
  rintro (error | nowMs) phase rfl
  · exact fun _ h => by cases h
  rw [Program.thenSat_ok, Program.sat_bind', Program.sat_ofExcept]
  cases checkAuthorization vreq requestId (nowMs / 1000) with
  | error error => exact fun _ h => by cases h
  | ok checked =>
      rw [Program.thenSat_ok, Program.sat_bind']
      apply (sat_still (only_claimPayment (fun _ => trivial) _ _ _)).mono
      rintro phase (error | claimed) rfl
      · exact fun _ h => by cases h
      rw [Program.thenSat_ok, Program.sat_bind']
      apply (sat_still (only_checkSigner (fun _ => trivial) network asset vreq _ requestId)).mono
      rintro phase (error | signed) rfl
      · exact fun _ h => by cases h
      rw [Program.thenSat_ok, Program.sat_bind', sat_op]
      refine ⟨.still trivial, ?_⟩
      rintro (error | verifiedAt) phase rfl
      · exact fun _ h => by cases h
      rw [Program.thenSat_ok, Program.sat_tryCatch]
      apply (books_persistVerified hparse requestId verifiedAt).mono
      rintro phase (error | result) hpost
      · rw [Program.sat_bind']
        apply (sat_still (only_releaseClaims (fun _ => trivial) _ _)).mono
        rintro phase' (error | released) rfl <;> exact fun _ h => by cases h
      · exact hpost

theorem books_verify (rawBody : Json) :
    ((PaymentCall.verify rawBody).program host registry).Sat
      (bookCalls host registry (.verify rawBody)) .begun (Replies host (.verify rawBody)) := by
  have hverify : (verifyPayment host registry rawBody).Sat (bookCalls host registry (.verify rawBody))
      .begun fun phase outcome => ∀ result, outcome = .ok result → ∃ request verification,
        phase = .stored request verification ∧
          StoredAs host rawBody result.paymentRequestId request verification := by
    unfold verifyPayment
    cases hparse : parseVerifyRequest rawBody with
    | error issues => exact fun _ h => by cases h
    | ok vreq =>
        change (verifyParsed host registry vreq).Sat _ _ _
        rw [verifyParsed, generateUlid, Program.sat_bind', sat_op]
        refine ⟨.still trivial, ?_⟩
        rintro (error | requestId) phase rfl
        · exact fun _ h => by cases h
        rw [Program.thenSat_ok]
        split
        · exact fun _ h => by cases h
        · split
          · exact fun _ h => by cases h
          · exact books_verifyChecked hparse _ _ _
  rw [PaymentCall.program, Program.sat_bind']
  apply hverify.mono
  rintro phase (error | result) hpost
  · exact ⟨fun _ h => (by cases h), fun _ h => by cases h⟩
  · refine ⟨fun result' hresult => ?_, fun _ h => by cases h⟩
    cases hresult
    obtain ⟨request, verification, hphase, hstored⟩ := hpost result rfl
    exact ⟨rawBody, request, verification, rfl, hphase, hstored⟩

/-- A submission that succeeds has the receipt of the transaction it has sent last. -/
def Submitted (request : PaymentRequest) (verification : PaymentVerification) (settlementId : String)
    (phase : BookPhase) (outcome : Except Err OnChainResult) : Prop :=
  (∃ error sent, outcome = .error error ∧ phase = .owns request verification settlementId sent) ∨
    ∃ result transfer, outcome = .ok result ∧
      phase = .paid request verification settlementId transfer result.txHash

theorem next_of_comap {op : ChainOp} {answer : Except Err op.Ans} {phase' : BookPhase}
    (h : ((bookCalls host registry call).comap chainHom).trans phase op answer phase') :
    phase' = phase.next (.chain op) answer := by
  obtain ⟨answer', hanswer, hphase⟩ := h
  rw [← hanswer, hphase]
  cases answer' <;> rfl

theorem books_submitThrough {args : SubmitArgs}
    (hargs : submitArgs (PaymentCall.deps host registry config) request verification = .ok args)
    (rpcUrl : String) (sent : Option (TransferCall × String)) :
    (submitThrough args rpcUrl).Sat ((bookCalls host registry (.settle config req)).comap chainHom)
      (.owns request verification settlementId sent) (Submitted request verification settlementId) := by
  rw [submitThrough, writeContract, Program.sat_bind', sat_chainOp]
  refine ⟨.write hargs, fun answer phase htrans => ?_⟩
  obtain rfl := next_of_comap htrans
  rcases answer with error | txHash
  · exact .inl ⟨error, sent, rfl, by cases sent <;> rfl⟩
  rw [Program.thenSat_ok, waitForTransactionReceipt, Program.sat_bind', sat_chainOp]
  refine ⟨.wait, fun answer phase htrans => ?_⟩
  obtain rfl := next_of_comap htrans
  rcases answer with error | receipt
  · exact .inl ⟨error, _, rfl, rfl⟩
  rw [Program.thenSat_ok]
  cases hstatus : receipt.status with
  | reverted => exact .inl ⟨_, _, rfl, if_neg (by rw [hstatus]; decide)⟩
  | success => exact .inr ⟨_, _, rfl, if_pos hstatus⟩

theorem books_submitLoop {args : SubmitArgs}
    (hargs : submitArgs (PaymentCall.deps host registry config) request verification = .ok args)
    (rpcUrls : List String) (lastError : Option Err) (sent : Option (TransferCall × String)) :
    (submitLoop args rpcUrls lastError).Sat
      ((bookCalls host registry (.settle config req)).comap chainHom)
      (.owns request verification settlementId sent) (Submitted request verification settlementId) := by
  induction rpcUrls generalizing lastError sent with
  | nil => exact .inl ⟨_, sent, rfl, rfl⟩
  | cons rpcUrl rpcUrls ih =>
      rw [submitLoop, Program.sat_tryCatch]
      apply (books_submitThrough hargs rpcUrl sent).mono
      rintro phase outcome (⟨error, sent', rfl, rfl⟩ | ⟨result, transfer, rfl, rfl⟩)
      · exact ih (some error) sent'
      · exact .inr ⟨result, transfer, rfl, rfl⟩

theorem books_submit {args : SubmitArgs}
    (hargs : submitArgs (PaymentCall.deps host registry config) request verification = .ok args) :
    (submit args).Sat (bookCalls host registry (.settle config req))
      (.owns request verification settlementId none) fun phase outcome =>
        (∃ error, outcome = .error error ∧ phase.Owns request verification settlementId) ∨
          ∃ result transfer, outcome = .ok result ∧
            phase = .paid request verification settlementId transfer result.txHash := by
  rw [submit, Program.sat_lift, submitOnChain, enterSubmitOnChain, Program.sat_bind', sat_chainOp]
  refine ⟨.still trivial, fun answer phase htrans => ?_⟩
  obtain rfl := next_of_comap htrans
  rcases answer with error | entered
  · exact .inl ⟨error, rfl, .owns⟩
  rw [Program.thenSat_ok, Program.sat_tryFinally]
  apply (books_submitLoop hargs _ none none).mono
  intro phase outcome hsubmitted
  rw [leaveSubmitOnChain, sat_chainOp]
  refine ⟨.still trivial, fun answer phase' htrans => ?_⟩
  have hstill : Op.Still (.chain .submitOnChainEnd) := trivial
  obtain rfl : phase' = phase := (next_of_comap htrans).trans (next_of_still hstill answer)
  rcases hsubmitted with ⟨error, sent, rfl, rfl⟩ | ⟨result, transfer, rfl, rfl⟩
  · rcases answer with error' | left
    · exact .inl ⟨error', rfl, .owns⟩
    · exact .inl ⟨error, rfl, .owns⟩
  · rcases answer with error' | left
    · exact .inl ⟨error', rfl, .paid⟩
    · exact .inr ⟨result, transfer, rfl, rfl⟩

/-- A call that replies with a settlement has decided its row so. -/
theorem books_settleBody :
    (settleBody (PaymentCall.deps host registry config) req request verification settlementId).Sat
      (bookCalls host registry (.settle config req)) (.owns request verification settlementId none)
      fun phase outcome =>
        (∃ error, outcome = .error error ∧ phase.Owns request verification settlementId) ∨
          ∃ result, outcome = .ok (.settled result) ∧
            phase = .settled result.requestId result.txHash := by
  rw [settleBody, Program.sat_bind', Program.sat_ofExcept]
  cases hargs : submitArgs (PaymentCall.deps host registry config) request verification with
  | error error => exact .inl ⟨error, rfl, .owns⟩
  | ok args =>
      rw [Program.thenSat_ok, Program.sat_bind']
      apply (books_submit hargs).mono
      rintro phase outcome (⟨error, rfl, howns⟩ | ⟨onChainResult, transfer, rfl, rfl⟩)
      · exact .inl ⟨error, rfl, howns⟩
      rw [Program.thenSat_ok, generateUlid, Program.sat_bind', sat_op]
      refine ⟨.still trivial, ?_⟩
      rintro (error | receiptId) phase rfl
      · exact .inl ⟨error, rfl, .paid⟩
      rw [Program.thenSat_ok, dateNow, Program.sat_bind', sat_op]
      refine ⟨.still trivial, ?_⟩
      rintro (error | confirmedAt) phase rfl
      · exact .inl ⟨error, rfl, .paid⟩
      rw [Program.thenSat_ok]
      dsimp only
      rw [confirmSettlement, Program.sat_bind', sat_op]
      refine ⟨.confirm rfl, ?_⟩
      rintro (error | confirmed) phase rfl
      · exact .inl ⟨error, rfl, .paid⟩
      · exact .inr ⟨_, rfl, rfl⟩

theorem books_settleLocked :
    (settleLocked (PaymentCall.deps host registry config) req request verification
      settlementId).Sat (bookCalls host registry (.settle config req))
      (.owns request verification settlementId none) fun phase outcome =>
        ∀ result, outcome = .ok (.settled result) →
          phase = .settled result.requestId result.txHash := by
  have hrelease : (releaseLock req).Only Op.Still := (only_redis_still _).ignoreErrors
  rw [settleLocked, Program.sat_tryFinally, Program.sat_tryCatch]
  apply books_settleBody.mono
  rintro phase outcome (⟨error, rfl, howns⟩ | ⟨result, rfl, rfl⟩)
  · rw [settleFailure, failSettlement, Program.sat_bind', sat_op]
    refine ⟨.fail howns, ?_⟩
    rintro (error | failed) phase rfl
    · apply (sat_still hrelease).mono
      rintro phase (error | released) rfl <;> exact fun _ h => by cases h
    · rw [Program.thenSat_ok, Program.sat_bind']
      apply (sat_still (only_redis_still _)).mono
      rintro phase (error | deleted) rfl
      · apply (sat_still hrelease).mono
        rintro phase (error | released) rfl <;> exact fun _ h => by cases h
      · apply (sat_still hrelease).mono
        rintro phase (error | released) rfl <;> exact fun _ h => by cases h
  · apply (sat_still hrelease).mono
    rintro phase (error | released) rfl
    · exact fun _ h => by cases h
    · rintro result' hresult
      cases hresult
      rfl

theorem books_settle (config : FacilitatorConfig) (req : SettleRequest) :
    ((PaymentCall.settle config req).program host registry).Sat
      (bookCalls host registry (.settle config req)) .begun (Replies host (.settle config req)) := by
  have hsettle : (settlePayment (PaymentCall.deps host registry config) req).Sat
      (bookCalls host registry (.settle config req)) .begun fun phase outcome =>
        ∀ result, outcome = .ok (.settled result) →
          phase = .settled result.requestId result.txHash := by
    rw [settlePayment, findPaymentRequest, Program.sat_bind', sat_op]
    refine ⟨.find, ?_⟩
    rintro (error | _ | ⟨request, _ | ⟨verification, verifications⟩⟩) phase rfl
    · exact fun _ h => by cases h
    · exact fun _ h => by cases h
    · exact fun _ h => by cases h
    rw [Program.thenSat_ok]
    change (settleVerified _ req request verification).Sat _ _ _
    rw [settleVerified, findConfirmedSettlement, Program.sat_bind', sat_op]
    refine ⟨.check, ?_⟩
    rintro (error | _ | ⟨existing, receipt⟩) phase rfl
    · exact fun _ h => by cases h
    · rw [Program.thenSat_ok, Program.sat_bind']
      apply (sat_still (only_redis_still _)).mono
      rintro phase (error | locked) rfl
      · exact fun _ h => by cases h
      rw [Program.thenSat_ok]
      split
      · rw [settleHolding, generateUlid, Program.sat_bind', sat_op]
        refine ⟨.still trivial, ?_⟩
        rintro (error | settlementId) phase rfl
        · exact fun _ h => by cases h
        rw [Program.thenSat_ok, createSettlement, Program.sat_bind', sat_op]
        refine ⟨.create, ?_⟩
        rintro (error | created) phase rfl
        · exact fun _ h => by cases h
        · exact books_settleLocked
      · exact fun _ h => by cases h
    · rintro result hresult
      cases hresult
      rfl
  rw [PaymentCall.program, Program.sat_bind']
  apply hsettle.mono
  rintro phase (error | reply) hpost
  · exact ⟨fun _ h => (by cases h), fun _ h => by cases h⟩
  · refine ⟨fun _ h => (by cases h), fun result hresult => ?_⟩
    cases hresult
    exact hpost result rfl

theorem books_call (call : PaymentCall) :
    (call.program host registry).Sat (bookCalls host registry call) .begun (Replies host call) := by
  cases call with
  | verify rawBody => exact books_verify rawBody
  | settle config req => exact books_settle config req

end Sat

end Payment

end FacilitatorX402
