import FacilitatorX402.Application.VerifyPayment
import FacilitatorX402.Settlement.FeeEngine

/-!
# Settling a payment

`settlePayment`, cut where the source awaits: the lookups, the lock, the pending row, and the body
with its catch and its finally branch. The failure path deletes the lock in the catch branch, and
the finally branch deletes it again.
-/

namespace FacilitatorX402

open Interact

namespace Payment

structure SettleRequest where
  paymentRequestId : String
  referralCode : Option String
  deriving DecidableEq

structure SettleResult where
  settlementId : String
  requestId : String
  txHash : String
  status : SettlementStatus
  receiptId : String
  idempotent : Bool
  deriving DecidableEq

structure SettlePendingResult where
  requestId : String
  code : String
  message : String
  deriving DecidableEq

/-- A reply with `settled: true`, or one with `settled: false`. -/
inductive SettleReply where
  | settled (result : SettleResult)
  | pending (result : SettlePendingResult)
  deriving DecidableEq

/-- What every call of `settlePayment` is given. -/
structure SettleDeps where
  host : Host
  networkRegistry : NetworkRegistry
  config : FacilitatorConfig

def lockKey (paymentRequestId : String) : Key := .settleLock paymentRequestId

def findPaymentRequest (id : String) :
    PaymentProgram (Option (PaymentRequest × List PaymentVerification)) :=
  (Op.findPaymentRequest id).call

def findConfirmedSettlement (requestId : String) :
    PaymentProgram (Option (PaymentSettlement × Option PaymentReceipt)) :=
  (Op.findConfirmedSettlement requestId).call

def createSettlement (row : PaymentSettlement) : PaymentProgram Unit :=
  (Op.createSettlement row).call

def failSettlement (id : String) : PaymentProgram Unit := (Op.failSettlement id).call

def confirmSettlement (id : String) (data : Confirmation) (receipt : PaymentReceipt) :
    PaymentProgram Unit := (Op.confirmSettlement id data receipt).call

/-- `submitOnChain` as the payment pipeline calls it. -/
def submit (args : SubmitArgs) : PaymentProgram OnChainResult := (submitOnChain args).lift chainHom

/-- The result of a payment that is already settled. -/
def idempotentResult (paymentRequestId : String) (existing : PaymentSettlement)
    (receipt : Option PaymentReceipt) : SettleResult :=
  { settlementId := existing.id
    requestId := paymentRequestId
    txHash := existing.txHash.getD ""
    status := .confirmed
    receiptId := (receipt.map (·.id)).getD ""
    idempotent := true }

/-- The result of a payment that has just been confirmed. -/
def confirmedResult (paymentRequestId settlementId txHash receiptId : String) : SettleResult :=
  { settlementId := settlementId
    requestId := paymentRequestId
    txHash := txHash
    status := .confirmed
    receiptId := receiptId
    idempotent := false }

def pendingReply (paymentRequestId : String) : SettleReply :=
  .pending
    { requestId := paymentRequestId
      code := "settlement_pending"
      message := "Settlement already in progress" }

/-- The row that is persisted before going on chain. -/
def pendingSettlement (settlementId : String) (req : SettleRequest) : PaymentSettlement :=
  { id := settlementId
    requestId := req.paymentRequestId
    settlementStatus := .pending
    referralCode := req.referralCode
    txHash := none
    feeAmount := none
    developerShare := none
    confirmedAt := none }

/-- The authorization rebuilt from the stored rows. Neither an unknown network, an unknown asset nor
an invalid expiry can be submitted. -/
def submitArgs (deps : SettleDeps) (paymentRequest : PaymentRequest)
    (verification : PaymentVerification) : Except Err SubmitArgs :=
  match deps.networkRegistry paymentRequest.network with
  | none => .error (.raised ("Unknown network: " ++ paymentRequest.network))
  | some network =>
      match network.asset paymentRequest.asset with
      | none => .error (.raised ("Unknown asset: " ++ paymentRequest.asset))
      | some asset =>
          match paymentRequest.expiresAt.floorSeconds with
          | none =>
              .error (.raised
                "The number NaN cannot be converted to a BigInt because it is not an integer")
          | some validBefore =>
              .ok {
                «from» := paymentRequest.buyer
                «to» := some paymentRequest.seller
                value := paymentRequest.amount
                validAfter := 0
                validBefore := validBefore
                nonce := verification.nonce
                signature := verification.signatureHash
                assetAddress := asset.contractAddress
                chainId := network.chainId
                rpcUrl := deps.config.rpcUrl
                fallbackRpcUrl := some deps.config.rpcUrlFallback }

/-- The fees of a settlement: no free tier and no volume. There are no premium tiers either, so the
engine does not read the clock. -/
def settlementFees (deps : SettleDeps) (paymentRequest : PaymentRequest)
    (referralCode : Option String) : FeeBreakdown :=
  (createFeeEngine deps.config.platformFeeBps deps.config.developerShareBps none none).compute
    deps.host 0 paymentRequest.amount paymentRequest.seller referralCode 0

def confirmation (onChainResult : OnChainResult) (fees : FeeBreakdown) (confirmedAt : Nat) :
    Confirmation :=
  { txHash := onChainResult.txHash
    feeAmount := fees.platformFee
    developerShare := fees.developerShare
    confirmedAt := confirmedAt }

def settlementReceipt (paymentRequest : PaymentRequest) (req : SettleRequest)
    (settlementId receiptId : String) (data : Confirmation) : PaymentReceipt :=
  { id := receiptId
    requestId := req.paymentRequestId
    settlementId := settlementId
    protocolVersion := "1"
    responsePayload :=
      { network := paymentRequest.network
        asset := paymentRequest.asset
        seller := paymentRequest.seller
        buyer := paymentRequest.buyer
        amount := toString paymentRequest.amount
        txHash := data.txHash
        feeAmount := toString data.feeAmount
        developerShare := toString data.developerShare
        confirmedAt := isoText data.confirmedAt } }

/-- The body of the try statement: submit, compute the fees, confirm. -/
def settleBody (deps : SettleDeps) (req : SettleRequest) (paymentRequest : PaymentRequest)
    (verification : PaymentVerification) (settlementId : String) : PaymentProgram SettleReply := do
  let args ← Program.ofExcept (submitArgs deps paymentRequest verification)
  let onChainResult ← submit args
  let fees := settlementFees deps paymentRequest req.referralCode
  let receiptId ← generateUlid
  let confirmedAt ← dateNow
  let data := confirmation onChainResult fees confirmedAt
  confirmSettlement settlementId data
    (settlementReceipt paymentRequest req settlementId receiptId data)
  return .settled
    (confirmedResult req.paymentRequestId settlementId onChainResult.txHash receiptId)

def settlementFailed (paymentRequestId : String) : Err :=
  facilitatorError "settlement_failed" "The on-chain transaction failed. No funds were moved."
    (some paymentRequestId)

/-- The catch branch. -/
def settleFailure (req : SettleRequest) (settlementId : String) : PaymentProgram SettleReply := do
  failSettlement settlementId
  redis (redisDel (lockKey req.paymentRequestId))
  .throw (settlementFailed req.paymentRequestId)

/-- The finally branch. -/
def releaseLock (req : SettleRequest) : PaymentProgram Unit :=
  (redis (redisDel (lockKey req.paymentRequestId))).ignoreErrors

/-- The try statement. -/
def settleLocked (deps : SettleDeps) (req : SettleRequest) (paymentRequest : PaymentRequest)
    (verification : PaymentVerification) (settlementId : String) : PaymentProgram SettleReply :=
  ((settleBody deps req paymentRequest verification settlementId).tryCatch fun _ =>
    settleFailure req settlementId).tryFinally (releaseLock req)

/-- The steps after the lock has been taken. -/
def settleHolding (deps : SettleDeps) (req : SettleRequest) (paymentRequest : PaymentRequest)
    (verification : PaymentVerification) : PaymentProgram SettleReply := do
  let settlementId ← generateUlid
  createSettlement (pendingSettlement settlementId req)
  settleLocked deps req paymentRequest verification settlementId

/-- The idempotence check, and the lock. -/
def settleVerified (deps : SettleDeps) (req : SettleRequest) (paymentRequest : PaymentRequest)
    (verification : PaymentVerification) : PaymentProgram SettleReply := do
  match ← findConfirmedSettlement req.paymentRequestId with
  | some (existing, receipt) =>
      return .settled (idempotentResult req.paymentRequestId existing receipt)
  | none =>
      let locked ← redis (redisSetNx (lockKey req.paymentRequestId))
      if locked then settleHolding deps req paymentRequest verification
      else return pendingReply req.paymentRequestId

def settlePayment (deps : SettleDeps) (req : SettleRequest) : PaymentProgram SettleReply := do
  match ← findPaymentRequest req.paymentRequestId with
  | none =>
      .throw (facilitatorError "verification_required"
        ("No payment request found: " ++ req.paymentRequestId) (some req.paymentRequestId))
  | some (_, []) =>
      .throw (facilitatorError "verification_required"
        "Payment has not been verified (accepted) yet" (some req.paymentRequestId))
  | some (paymentRequest, verification :: _) =>
      settleVerified deps req paymentRequest verification

end Payment

end FacilitatorX402
