import FacilitatorX402.Proof.PaymentRules

/-!
# What calls read and store of a payment

Calls of `verifyPayment` and of `settlePayment` in one deployment, and what each of them does with the
rows of a payment: a verification stores the rows of its own body and returns their id, and a
settlement submits what it has read.
-/

namespace FacilitatorX402

open Interact

namespace Payment

/-- A call of either function of the pipeline. -/
inductive PaymentCall where
  | verify (rawBody : Json)
  | settle (config : FacilitatorConfig) (req : SettleRequest)

inductive PaymentReply where
  | verified (result : VerifyResult)
  | settled (reply : SettleReply)
  deriving DecidableEq

def PaymentCall.program (host : Host) (registry : NetworkRegistry) :
    PaymentCall → PaymentProgram PaymentReply
  | verify rawBody => do return .verified (← verifyPayment host registry rawBody)
  | settle config req => do
      return .settled (← settlePayment
        { host := host, networkRegistry := registry, config := config } req)

/-- What a call has read from the tables, or has stored in them. -/
inductive Stage where
  | begun
  | read (request : PaymentRequest) (verification : PaymentVerification)
  | stored (request : PaymentRequest) (verification : PaymentVerification)

namespace Stage

def next : Stage → (op : Op) → Except Err (interface.Ans op) → Stage
  | _, .createVerified request verification, .ok _ => stored request verification
  | _, .findPaymentRequest _, .ok (some (request, verification :: _)) => read request verification
  | stage, _, _ => stage

end Stage

/-- The rows of this body, under this request id. -/
def StoredAs (host : Host) (rawBody : Json) (requestId : String) (request : PaymentRequest)
    (verification : PaymentVerification) : Prop :=
  ∃ req verificationId, parseVerifyRequest rawBody = .ok req ∧
    request = acceptedRequest req requestId ∧
    verification = acceptedVerification host req verificationId requestId
      (computeSignatureHash req.payload.signature.text)

/-- A verification stores its own body, and a settlement submits what it has read. -/
def PaymentCall.Allowed (host : Host) (registry : NetworkRegistry) (call : PaymentCall)
    (stage : Stage) : Op → Prop
  | .createVerified request verification =>
      ∃ rawBody requestId, call = .verify rawBody ∧
        StoredAs host rawBody requestId request verification
  | .findPaymentRequest id =>
      stage = .begun ∧ ∃ config req, call = .settle config req ∧ id = req.paymentRequestId
  | .chain (.submitOnChain args) =>
      ∃ config req request verification, call = .settle config req ∧
        stage = .read request verification ∧
        submitArgs { host := host, networkRegistry := registry, config := config } request
          verification = .ok args
  | _ => True

def callRules (host : Host) (registry : NetworkRegistry) (call : PaymentCall) :
    Protocol interface Err Stage where
  allowed := call.Allowed host registry
  trans stage op answer stage' := stage' = stage.next op answer

/-- An accepted verification has stored the rows of its body under the id it returns. -/
def callPost (host : Host) (call : PaymentCall) (stage : Stage)
    (outcome : Except Err PaymentReply) : Prop :=
  ∀ result, outcome = .ok (.verified result) → ∃ rawBody request verification,
    call = .verify rawBody ∧ stage = .stored request verification ∧
      StoredAs host rawBody result.paymentRequestId request verification

/-! ### The programs keep to the rules -/

/-- The operations that neither read nor store a payment, nor submit it. -/
def Op.Quiet : Op → Prop
  | .createVerified _ _ => False
  | .findPaymentRequest _ => False
  | .chain (.submitOnChain _) => False
  | _ => True

section Sat

variable {host : Host} {registry : NetworkRegistry} {call : PaymentCall} {stage : Stage}
  {config : FacilitatorConfig} {req : SettleRequest} {request : PaymentRequest}
  {verification : PaymentVerification}

theorem only_redis_quiet {α : Type} (program : RedisProgram α) : (redis program).Only Op.Quiet :=
  only_redis (fun _ => trivial) program

theorem sat_quiet {α : Type} {program : PaymentProgram α} (h : program.Only Op.Quiet) :
    program.Sat (callRules host registry call) stage fun stage' _ => stage' = stage := by
  apply h.sat
  · intro op hquiet
    cases op with
    | chain op => cases op <;> first | exact hquiet.elim | trivial
    | _ => first | exact hquiet.elim | trivial
  · rintro op answer stage' hquiet rfl
    cases op with
    | createVerified request verification => exact hquiet.elim
    | findPaymentRequest id => exact hquiet.elim
    | _ => cases stage <;> rfl

section Only

variable {Q : Op → Prop}

theorem only_releaseClaims (hredis : ∀ command, Q (.redis command)) (nonce signatureHash : String) :
    (releaseClaims nonce signatureHash).Only Q :=
  (only_redis hredis _).bind fun _ => only_redis hredis _

theorem only_claimPayment (hredis : ∀ command, Q (.redis command))
    (nonce signatureHash requestId : String) :
    (claimPayment nonce signatureHash requestId).Only Q := by
  apply (only_redis hredis _).bind
  intro nonceClaimed
  split
  · apply (only_redis hredis _).bind
    intro sigClaimed
    split
    · trivial
    · exact (only_redis hredis _).bind fun _ => trivial
  · trivial

theorem only_checkSigner (hredis : ∀ command, Q (.redis command)) (network : NetworkConfig)
    (asset : FoundAsset) (req : VerifyRequest) (signatureHash requestId : String) :
    (checkSigner host network asset req signatureHash requestId).Only Q := by
  simp only [checkSigner]
  split
  · exact (only_releaseClaims hredis _ _).bind fun _ => trivial
  · split
    · exact (only_releaseClaims hredis _ _).bind fun _ => trivial
    · trivial

end Only

theorem only_releaseLock (req : SettleRequest) : (releaseLock req).Only Op.Quiet :=
  (only_redis_quiet _).ignoreErrors

/-- The transaction stores the rows of the parsed body. -/
theorem stores_persistVerified {rawBody : Json} {req : VerifyRequest}
    (hparse : parseVerifyRequest rawBody = .ok req) (requestId : String) (verifiedAt : Nat) :
    (persistVerified host req requestId (computeSignatureHash req.payload.signature.text)
      verifiedAt).Sat (callRules host registry (.verify rawBody)) .begun fun stage outcome =>
        ∀ result, outcome = .ok result → ∃ request verification,
          stage = .stored request verification ∧
            StoredAs host rawBody result.paymentRequestId request verification := by
  rw [persistVerified, generateUlid, Program.sat_bind', sat_op]
  refine ⟨trivial, ?_⟩
  rintro (error | verificationId) stage rfl
  · exact nofun
  have hstored : StoredAs host rawBody requestId (acceptedRequest req requestId)
      (acceptedVerification host req verificationId requestId
        (computeSignatureHash req.payload.signature.text)) :=
    ⟨req, verificationId, hparse, rfl, rfl⟩
  rw [Program.thenSat_ok, createVerified, Program.sat_bind', sat_op]
  refine ⟨⟨rawBody, requestId, rfl, hstored⟩, ?_⟩
  rintro (error | created) stage rfl
  · exact nofun
  rw [Program.thenSat_ok]
  split
  · exact nofun
  · rintro result hresult
    cases hresult
    exact ⟨_, _, rfl, hstored⟩

theorem stores_verifyChecked {rawBody : Json} {req : VerifyRequest}
    (hparse : parseVerifyRequest rawBody = .ok req) (network : NetworkConfig) (asset : FoundAsset)
    (requestId : String) :
    (verifyChecked host network asset req requestId).Sat (callRules host registry (.verify rawBody))
      .begun fun stage outcome =>
        ∀ result, outcome = .ok result → ∃ request verification,
          stage = .stored request verification ∧
            StoredAs host rawBody result.paymentRequestId request verification := by
  rw [verifyChecked, dateNow, Program.sat_bind', sat_op]
  refine ⟨trivial, ?_⟩
  rintro (error | nowMs) stage rfl
  · exact nofun
  rw [Program.thenSat_ok, Program.sat_bind', Program.sat_ofExcept]
  cases checkAuthorization req requestId (nowMs / 1000) with
  | error error => exact nofun
  | ok checked =>
      rw [Program.thenSat_ok, Program.sat_bind']
      apply (sat_quiet (only_claimPayment (fun _ => trivial) _ _ _)).mono
      rintro stage (error | claimed) rfl
      · exact nofun
      rw [Program.thenSat_ok, Program.sat_bind']
      apply (sat_quiet (only_checkSigner (fun _ => trivial) network asset req _ requestId)).mono
      rintro stage (error | signed) rfl
      · exact nofun
      rw [Program.thenSat_ok, Program.sat_bind', sat_op]
      refine ⟨trivial, ?_⟩
      rintro (error | verifiedAt) stage rfl
      · exact nofun
      rw [Program.thenSat_ok, Program.sat_tryCatch]
      apply (stores_persistVerified hparse requestId verifiedAt).mono
      rintro stage (error | result) hpost
      · rw [Program.sat_bind']
        apply (sat_quiet (only_releaseClaims (fun _ => trivial) _ _)).mono
        rintro stage' (error | released) rfl <;> exact nofun
      · exact hpost

theorem stores_verifyPayment (rawBody : Json) :
    (verifyPayment host registry rawBody).Sat (callRules host registry (.verify rawBody)) .begun
      fun stage outcome => ∀ result, outcome = .ok result → ∃ request verification,
        stage = .stored request verification ∧
          StoredAs host rawBody result.paymentRequestId request verification := by
  unfold verifyPayment
  cases hparse : parseVerifyRequest rawBody with
  | error issues => exact nofun
  | ok req =>
      change (verifyParsed host registry req).Sat _ _ _
      rw [verifyParsed, generateUlid, Program.sat_bind', sat_op]
      refine ⟨trivial, ?_⟩
      rintro (error | requestId) stage rfl
      · exact nofun
      rw [Program.thenSat_ok]
      split
      · exact nofun
      · split
        · exact nofun
        · exact stores_verifyChecked hparse _ _ _

theorem stores_verify (rawBody : Json) :
    ((PaymentCall.verify rawBody).program host registry).Sat
      (callRules host registry (.verify rawBody)) .begun (callPost host (.verify rawBody)) := by
  rw [PaymentCall.program, Program.sat_bind']
  apply (stores_verifyPayment rawBody).mono
  rintro stage (error | result) hpost
  · exact nofun
  · rintro result' hresult
    cases hresult
    obtain ⟨request, verification, hstage, hstored⟩ := hpost result rfl
    exact ⟨rawBody, request, verification, rfl, hstage, hstored⟩

/-- What follows the rebuilt arguments leaves the tables alone. -/
theorem reads_settleLocked (settlementId : String) :
    (settleLocked { host := host, networkRegistry := registry, config := config } req request
      verification settlementId).Sat (callRules host registry (.settle config req))
      (.read request verification) fun stage _ => stage = .read request verification := by
  have hbody : (settleBody { host := host, networkRegistry := registry, config := config } req
      request verification settlementId).Sat (callRules host registry (.settle config req))
      (.read request verification) fun stage _ => stage = .read request verification := by
    rw [settleBody, Program.sat_bind', Program.sat_ofExcept]
    cases hargs : submitArgs { host := host, networkRegistry := registry, config := config } request
        verification with
    | error error => rfl
    | ok args =>
        have hsubmit : (submit args).Sat (callRules host registry (.settle config req))
            (.read request verification) fun stage _ => stage = .read request verification := by
          rw [submit, Program.sat_lift]
          apply sat_submitOnChain args
          · exact ⟨config, req, request, verification, rfl, rfl, hargs⟩
          · rintro answer stage ⟨answer', -, rfl⟩
            rfl
          · exact fun _ => trivial
          · exact fun _ _ => trivial
          · trivial
          · rintro op answer stage ⟨answer', -, rfl⟩
            rfl
        rw [Program.thenSat_ok, Program.sat_bind']
        apply hsubmit.mono
        rintro stage (error | onChainResult) rfl
        · rfl
        apply sat_quiet
        apply (@only_op Op.Quiet .generateId trivial).bind
        intro receiptId
        apply (@only_op Op.Quiet .now trivial).bind
        intro confirmedAt
        exact (@only_op Op.Quiet (.confirmSettlement _ _ _) trivial).bind fun _ => trivial
  rw [settleLocked, Program.sat_tryFinally, Program.sat_tryCatch]
  apply hbody.mono
  rintro stage (error | reply) rfl
  · apply (sat_quiet (only_settleFailure (fun _ => trivial) trivial req)).mono
    rintro stage outcome rfl
    apply (sat_quiet (only_releaseLock req)).mono
    rintro stage (error | released) rfl <;> rfl
  · apply (sat_quiet (only_releaseLock req)).mono
    rintro stage (error | released) rfl <;> rfl

theorem reads_settle (config : FacilitatorConfig) (req : SettleRequest) :
    ((PaymentCall.settle config req).program host registry).Sat
      (callRules host registry (.settle config req)) .begun (callPost host (.settle config req)) := by
  have hsettle : (settlePayment { host := host, networkRegistry := registry, config := config }
      req).Sat (callRules host registry (.settle config req)) .begun fun _ _ => True := by
    rw [settlePayment, findPaymentRequest, Program.sat_bind', sat_op]
    refine ⟨⟨rfl, config, req, rfl, rfl⟩, ?_⟩
    rintro (error | _ | ⟨request, _ | ⟨verification, verifications⟩⟩) stage rfl
    · trivial
    · trivial
    · trivial
    rw [Program.thenSat_ok]
    change (settleVerified _ req request verification).Sat _ _ _
    rw [settleVerified, Program.sat_bind']
    apply (sat_quiet (@only_op Op.Quiet (.findConfirmedSettlement _) trivial)).mono
    rintro stage (error | _ | ⟨existing, receipt⟩) rfl
    · trivial
    · rw [Program.thenSat_ok, Program.sat_bind']
      apply (sat_quiet (only_redis_quiet _)).mono
      rintro stage (error | locked) rfl
      · trivial
      rw [Program.thenSat_ok]
      split
      · rw [settleHolding, Program.sat_bind']
        apply (sat_quiet (@only_op Op.Quiet .generateId trivial)).mono
        rintro stage (error | settlementId) rfl
        · trivial
        rw [Program.thenSat_ok, Program.sat_bind']
        apply (sat_quiet (@only_op Op.Quiet (.createSettlement _) trivial)).mono
        rintro stage (error | created) rfl
        · trivial
        exact (reads_settleLocked settlementId).mono fun _ _ _ => trivial
      · trivial
    · trivial
  rw [PaymentCall.program, Program.sat_bind']
  apply hsettle.mono
  rintro stage (error | reply) - <;> exact nofun

theorem sat_paymentCall (call : PaymentCall) :
    (call.program host registry).Sat (callRules host registry call) .begun (callPost host call) := by
  cases call with
  | verify rawBody => exact stores_verify rawBody
  | settle config req => exact reads_settle config req

end Sat

end Payment

end FacilitatorX402
