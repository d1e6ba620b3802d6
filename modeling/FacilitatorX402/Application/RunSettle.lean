import FacilitatorX402.Application.RunVerify

/-!
# The settle service

`runSettle`, cut at the numbered steps of the source. The first lookups, the lock and the creation of
the row are outside the try statement; the deletion of the lock after a confirmation is inside it.
-/

namespace FacilitatorX402

open Interact

namespace Service

structure SettleOpts where
  requestId : String
  verificationId : String
  referralCode : Option String
  deriving DecidableEq

structure SettleConfirmed where
  requestId : String
  settlementId : String
  txHash : Option String
  feeAmount : Option String
  developerShare : Option String
  receiptId : Option String
  confirmedAt : Option String
  settledAt : String
  deriving DecidableEq

structure SettleRejected where
  requestId : String
  code : String
  message : String
  httpStatus : Nat
  failedAt : String
  deriving DecidableEq

inductive SettleResponse where
  | confirmed (result : SettleConfirmed)
  | failed (result : SettleRejected)
  deriving DecidableEq

def settleReject (requestId code message : String) (httpStatus : Nat) :
    ServiceProgram SettleResponse := do
  let failedAt ← dateNow
  return .failed
    { requestId := requestId
      code := code
      message := message
      httpStatus := httpStatus
      failedAt := isoText failedAt }

def lockKey (requestId : String) : Key := .settleServiceLock requestId

def findAcceptedVerification (id requestId : String) :
    ServiceProgram (Option (PaymentVerification × PaymentRequest × Network)) :=
  (Op.findAcceptedVerification id requestId).call

def findSettlement (requestId : String) :
    ServiceProgram (Option (PaymentSettlement × Option PaymentReceipt)) :=
  (Op.findSettlement requestId).call

def createSettlement (id requestId : String) (referralCode : Option String) :
    ServiceProgram Unit := (Op.createSettlement id requestId referralCode).call

def findSeller (id : String) : ServiceProgram (Option Seller) := (Op.findSeller id).call

def failSettlement (id : String) : ServiceProgram Unit := (Op.failSettlement id).call

def confirmSettlement (id : String) (data : Confirmation) (receipt : PaymentReceipt) :
    ServiceProgram Unit := (Op.confirmSettlement id data receipt).call

def submit (args : SubmitArgs) : ServiceProgram OnChainResult := (submitOnChain args).lift chainHom

/-- Step 2 for a request that has a settlement. -/
def settleExisting (requestId : String) (existing : PaymentSettlement)
    (receipt : Option PaymentReceipt) : ServiceProgram SettleResponse :=
  match existing.settlementStatus with
  | .confirmed =>
      return .confirmed
        { requestId := requestId
          settlementId := existing.id
          txHash := existing.txHash
          feeAmount := existing.feeAmount
          developerShare := existing.developerShare
          receiptId := receipt.map (·.id)
          confirmedAt := existing.confirmedAt.map fun ms => isoText ms
          settledAt := isoText existing.createdAt }
  | .failed => settleReject requestId "settlement_failed" "Previous settlement attempt failed" 402
  | .pending =>
      settleReject requestId "settlement_pending" "Settlement is already being processed" 409
  | .processing =>
      settleReject requestId "settlement_pending" "Settlement is already being processed" 409

/-- `BigInt(text)` of a stored amount, a string of decimal digits. -/
def grossAmount (amount : String) : Except Err Int :=
  if isDecimalText amount then .ok (decimalValue amount)
  else .error (.raised ("Cannot convert " ++ amount ++ " to a BigInt"))

/-- The wallet of the seller, or the buyer for a request without a seller. -/
def payee (paymentRequest : PaymentRequest) : ServiceProgram (Option String) :=
  let sellerId := paymentRequest.sellerId.getD ""
  if sellerId = "" then return some paymentRequest.buyerAddress
  else do
    let seller ← findSeller sellerId
    return seller.map (·.walletAddress)

/-- The arguments of step 7. An invalid expiry cannot be converted. -/
def submitArgs (paymentRequest : PaymentRequest) (verification : PaymentVerification)
    (network : NetworkConfig) (asset : AssetConfig) (value : Int) (recipient : Option String) :
    Except Err SubmitArgs :=
  match paymentRequest.expiresAt.floorSeconds with
  | none =>
      .error (.raised
        "The number NaN cannot be converted to a BigInt because it is not an integer")
  | some validBefore =>
      .ok {
        «from» := paymentRequest.buyerAddress
        «to» := recipient
        value := value
        validAfter := 0
        validBefore := validBefore
        nonce := verification.nonce.getD "null"
        signature := "0x" ++ verification.signatureHash.getD "null"
        assetAddress := some asset.address
        chainId := network.chainId
        rpcUrl := network.rpcUrl
        fallbackRpcUrl := network.fallbackRpcUrl }

def confirmation (onChainResult : OnChainResult) (fees : Fees) (confirmedAt : Nat) :
    Confirmation :=
  { txHash := onChainResult.txHash
    feeAmount := toString fees.platformFee
    developerShare := toString fees.developerShare
    confirmedAt := confirmedAt }

def settlementReceipt (opts : SettleOpts) (paymentRequest : PaymentRequest)
    (network : NetworkConfig) (value : Int) (fees : Fees) (settlementId receiptId : String)
    (data : Confirmation) : PaymentReceipt :=
  { id := receiptId
    requestId := opts.requestId
    protocolVersion := "x402-v1"
    responsePayload :=
      { settlementId := settlementId
        txHash := data.txHash
        network := network.name
        asset := paymentRequest.asset
        grossAmount := toString value
        feeAmount := data.feeAmount
        developerShare := data.developerShare
        netAmount := toString fees.netAmount
        feeBps := fees.feeBps
        referralCode := opts.referralCode
        confirmedAt := isoText data.confirmedAt } }

def confirmedResult (opts : SettleOpts) (settlementId receiptId : String) (data : Confirmation) :
    SettleResponse :=
  .confirmed
    { requestId := opts.requestId
      settlementId := settlementId
      txHash := some data.txHash
      feeAmount := some data.feeAmount
      developerShare := some data.developerShare
      receiptId := some receiptId
      confirmedAt := some (isoText data.confirmedAt)
      settledAt := isoText data.confirmedAt }

/-- Steps 8 to 12, after a successful submission. -/
def settleSubmitted (imports : Imports) (opts : SettleOpts) (paymentRequest : PaymentRequest)
    (network : NetworkConfig) (value : Int) (settlementId : String)
    (onChainResult : OnChainResult) : ServiceProgram SettleResponse := do
  let fees := imports.computeFees value
  let confirmedAt ← dateNow
  let receiptId ← ulid
  let data := confirmation onChainResult fees confirmedAt
  confirmSettlement settlementId data
    (settlementReceipt opts paymentRequest network value fees settlementId receiptId data)
  redisDel (lockKey opts.requestId)
  return confirmedResult opts settlementId receiptId data

/-- The try statement up to the submission. -/
def settleBody (imports : Imports) (opts : SettleOpts) (verification : PaymentVerification)
    (paymentRequest : PaymentRequest) (networkRecord : Network) (settlementId : String) :
    ServiceProgram SettleResponse := do
  let found := do
    let network ← imports.networkRegistry.getNetwork networkRecord.chainId
    let asset ← network.findAsset paymentRequest.asset
    return (network, asset)
  match found with
  | none => .throw (.raised "Network or asset not found in registry for settlement")
  | some (network, asset) =>
      let value ← Program.ofExcept (grossAmount paymentRequest.amount)
      let recipient ← payee paymentRequest
      let args ← Program.ofExcept
        (submitArgs paymentRequest verification network asset value recipient)
      let onChainResult ← submit args
      settleSubmitted imports opts paymentRequest network value settlementId onChainResult

/-- The catch branch: nothing it does can fail. -/
def settleFailure (opts : SettleOpts) (settlementId : String) (err : Err) :
    ServiceProgram SettleResponse := do
  (failSettlement settlementId).ignoreErrors
  (redisDel (lockKey opts.requestId)).ignoreErrors
  settleReject opts.requestId "settlement_failed"
    ("On-chain submission failed: " ++ err.message) 502

/-- Step 4, and the try statement. -/
def settleHolding (imports : Imports) (opts : SettleOpts) (verification : PaymentVerification)
    (paymentRequest : PaymentRequest) (networkRecord : Network) :
    ServiceProgram SettleResponse := do
  let settlementId ← ulid
  createSettlement settlementId opts.requestId opts.referralCode
  (settleBody imports opts verification paymentRequest networkRecord settlementId).tryCatch
    (settleFailure opts settlementId)

/-- Steps 2 and 3, for an accepted verification. -/
def settleAccepted (imports : Imports) (opts : SettleOpts) (verification : PaymentVerification)
    (paymentRequest : PaymentRequest) (networkRecord : Network) :
    ServiceProgram SettleResponse := do
  match ← findSettlement opts.requestId with
  | some (existing, receipt) => settleExisting opts.requestId existing receipt
  | none =>
      let locked ← redisSetNx (lockKey opts.requestId)
      if locked then settleHolding imports opts verification paymentRequest networkRecord
      else settleReject opts.requestId "settlement_pending" "Settlement already in progress" 409

def runSettle (imports : Imports) (opts : SettleOpts) : ServiceProgram SettleResponse := do
  match ← findAcceptedVerification opts.verificationId opts.requestId with
  | none =>
      settleReject opts.requestId "verification_not_found"
        "No accepted verification found for this requestId + verificationId" 402
  | some (verification, paymentRequest, networkRecord) =>
      settleAccepted imports opts verification paymentRequest networkRecord

end Service

end FacilitatorX402
