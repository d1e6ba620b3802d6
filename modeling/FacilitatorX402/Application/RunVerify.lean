import FacilitatorX402.Infrastructure.NetworkRegistry
import FacilitatorX402.Protocol.AntiReplay

/-!
# The verify service

`runVerify`, cut at the numbered steps of the source. It answers with a response for every refusal it
foresees; a failure of Redis, of the lookup in PostgreSQL or of the persistence of a rejection is
thrown.
-/

namespace FacilitatorX402

open Interact

namespace Service

structure SignatureResult where
  valid : Bool
  error : Option String
  deriving DecidableEq

structure Fees where
  platformFee : Int
  developerShare : Int
  netAmount : Int
  feeBps : Int
  deriving DecidableEq

/-- What the services are given: the registry, and the functions they import that the repository
does not export. The message is that of a body the parser refuses. -/
structure Imports where
  host : Host
  networkRegistry : NetworkRegistry
  parseMessage : List ParseIssue → String
  verifyTransferAuthorization :
    Authorization → String → AssetConfig → NetworkConfig → Except Err SignatureResult
  computeFees : Int → Fees

def parseX402Payload (imports : Imports) (raw : Json) : Except String VerifyRequest :=
  match parseVerifyRequest raw with
  | .ok body => .ok body
  | .error issues => .error (imports.parseMessage issues)

structure VerifyAccepted where
  requestId : String
  verificationId : String
  paymentRequestId : String
  network : String
  asset : String
  amount : String
  «from» : String
  «to» : String
  invoiceId : String
  expiresAt : String
  verifiedAt : String
  deriving DecidableEq

structure VerifyRejected where
  requestId : String
  code : String
  message : String
  httpStatus : Nat
  rejectedAt : String
  deriving DecidableEq

inductive VerifyResponse where
  | accepted (result : VerifyAccepted)
  | rejected (result : VerifyRejected)
  deriving DecidableEq

def reject (requestId code message : String) (httpStatus : Nat) :
    ServiceProgram VerifyResponse := do
  let rejectedAt ← dateNow
  return .rejected
    { requestId := requestId
      code := code
      message := message
      httpStatus := httpStatus
      rejectedAt := isoText rejectedAt }

/-- What a verification row says about the outcome. -/
structure Verdict where
  status : VerificationStatus
  errorCode : Option String
  reason : Option String
  deriving DecidableEq

def paymentRequestRow (body : VerifyRequest) (requestId networkId : String) : PaymentRequest :=
  { id := requestId
    sellerId := none
    buyerAddress := body.auth.from.text
    networkId := networkId
    asset := body.asset
    amount := body.auth.value.text
    invoiceId := body.invoiceId
    scheme := body.scheme
    expiresAt := .ofSeconds body.auth.validBefore }

def verificationRow (verdict : Verdict) (verificationId requestId signatureHash nonce : String) :
    PaymentVerification :=
  { id := verificationId
    requestId := requestId
    verificationStatus := verdict.status
    errorCode := verdict.errorCode
    reason := verdict.reason
    signatureHash := some signatureHash
    nonce := some nonce
    payloadHash := some signatureHash }

def findNetwork (chainId : Int) : ServiceProgram (Option Network) := (Op.findNetwork chainId).call

def upsertPaymentRequest (row : PaymentRequest) : ServiceProgram PaymentRequest :=
  (Op.upsertPaymentRequest row).call

def createVerification (row : PaymentVerification) : ServiceProgram Unit :=
  (Op.createVerification row).call

/-- The ids of the request and of the verification that were stored. -/
def persistVerification (requestId : String) (body : VerifyRequest) (network : NetworkConfig)
    (verdict : Verdict) (signatureHash nonce : String) : ServiceProgram (String × String) := do
  match ← findNetwork network.chainId with
  | none =>
      .throw (.raised ("Network record not found in DB for chainId " ++ toString network.chainId
        ++ " (" ++ network.name ++ "). Ensure the seed script has been run or the network was "
        ++ "provisioned correctly."))
  | some networkRecord =>
      let paymentRequest ←
        upsertPaymentRequest (paymentRequestRow body requestId networkRecord.id)
      let verificationId ← ulid
      createVerification
        (verificationRow verdict verificationId paymentRequest.id signatureHash nonce)
      return (paymentRequest.id, verificationId)

/-- Expiration, validity, recipient and amount: the code and the message of the first check that
refuses. -/
def checkAuthorization (host : Host) (body : VerifyRequest) (nowSec : Nat) :
    Except Err (Option (String × String)) :=
  let auth := body.auth
  if auth.validBefore ≤ nowSec then
    match (JsDate.ofSeconds auth.validBefore).toISOString with
    | none => .error (.raised "Invalid time value")
    | some expiry => .ok (some ("expired_payment", "Payment expired at " ++ expiry))
  else if nowSec < auth.validAfter then
    .ok (some ("invalid_payload",
      "Payment not valid yet (validAfter: " ++ host.numberText auth.validAfter ++ ")"))
  else if auth.to.lower ≠ body.recipient.lower then
    .ok (some ("invalid_payload",
      "Recipient mismatch: expected " ++ body.recipient.text ++ ", got " ++ auth.to.text))
  else if auth.value.value < body.requiredAmount.value then
    .ok (some ("invalid_payload",
      "Insufficient amount: got " ++ auth.value.text ++ ", required " ++ body.requiredAmount.text))
  else .ok none

/-- Step 10. -/
def acceptedResponse (body : VerifyRequest) (requestId paymentRequestId verificationId : String) :
    ServiceProgram VerifyResponse :=
  match (JsDate.ofSeconds body.auth.validBefore).toISOString with
  | none => .throw (.raised "Invalid time value")
  | some expiresAt => do
      let verifiedAt ← dateNow
      return .accepted
        { requestId := requestId
          verificationId := verificationId
          paymentRequestId := paymentRequestId
          network := body.network
          asset := body.asset
          amount := body.auth.value.text
          «from» := body.auth.from.text
          «to» := body.auth.to.text
          invoiceId := body.invoiceId
          expiresAt := expiresAt
          verifiedAt := isoText verifiedAt }

/-- Steps 9 and 10: the accepted verification is stored and returned. -/
def verifyAccepted (body : VerifyRequest) (requestId : String) (network : NetworkConfig)
    (signatureHash : String) : ServiceProgram VerifyResponse := do
  let nonce := body.auth.nonce.text
  let verdict : Verdict := { status := .accepted, errorCode := none, reason := none }
  let stored ← (do
      return some (← persistVerification requestId body network verdict signatureHash nonce)
    ).tryCatch fun _ => do
      releaseNonceRedis nonce signatureHash
      return none
  match stored with
  | none => reject requestId "internal_error" "Failed to persist verification. Please retry." 500
  | some (paymentRequestId, verificationId) =>
      acceptedResponse body requestId paymentRequestId verificationId

/-- Step 8, and what follows it. -/
def verifySignature (imports : Imports) (network : NetworkConfig) (asset : AssetConfig)
    (body : VerifyRequest) (requestId signatureHash : String) : ServiceProgram VerifyResponse := do
  let nonce := body.auth.nonce.text
  let sigResult ← Program.ofExcept
    (imports.verifyTransferAuthorization body.auth body.payload.signature.text asset network)
  if sigResult.valid then verifyAccepted body requestId network signatureHash
  else
    releaseNonceRedis nonce signatureHash
    let verdict : Verdict :=
      { status := .rejected
        errorCode := some "invalid_signature"
        reason := sigResult.error }
    let _ ← persistVerification requestId body network verdict signatureHash nonce
    reject requestId "invalid_signature" (sigResult.error.getD "Signature verification failed") 402

/-- Steps 6 and 7: the claim in Redis, and the lookup in PostgreSQL. -/
def verifyClaimed (imports : Imports) (network : NetworkConfig) (asset : AssetConfig)
    (body : VerifyRequest) (requestId : String) : ServiceProgram VerifyResponse := do
  let nonce := body.auth.nonce.text
  let signatureHash := hashSignature imports.host body.payload.signature.text
  match ← claimNonceRedis nonce signatureHash with
  | some reason =>
      reject requestId "duplicate_payment" ("Payment already used (" ++ reason.text ++ ")") 409
  | none =>
      match ← checkReplayPostgres nonce signatureHash with
      | some reason =>
          releaseNonceRedis nonce signatureHash
          reject requestId "duplicate_payment" ("Payment already used (" ++ reason.text ++ ")") 409
      | none => verifySignature imports network asset body requestId signatureHash

/-- Steps 3 to 5, for a supported network and asset. -/
def verifyChecked (imports : Imports) (network : NetworkConfig) (asset : AssetConfig)
    (body : VerifyRequest) (requestId : String) : ServiceProgram VerifyResponse := do
  let nowMs ← dateNow
  match ← Program.ofExcept (checkAuthorization imports.host body (nowMs / 1000)) with
  | some (code, message) => reject requestId code message 402
  | none => verifyClaimed imports network asset body requestId

/-- Step 2, and what follows it. -/
def verifyParsed (imports : Imports) (body : VerifyRequest) (requestId : String) :
    ServiceProgram VerifyResponse :=
  match imports.networkRegistry.getNetworkByName body.network with
  | none =>
      reject requestId "unsupported_network"
        ("Network '" ++ body.network ++ "' is not supported") 402
  | some network =>
      match network.findAsset (imports.host.toUpperCase body.asset) with
      | none =>
          reject requestId "unsupported_asset"
            ("Asset '" ++ body.asset ++ "' is not supported on " ++ body.network) 402
      | some asset => verifyChecked imports network asset body requestId

def runVerify (imports : Imports) (raw : Json) (requestId : String) :
    ServiceProgram VerifyResponse :=
  match parseX402Payload imports raw with
  | .error message => reject requestId "invalid_payload" message 400
  | .ok body => verifyParsed imports body requestId

theorem runVerify_toJson (imports : Imports) (body : VerifyRequest) (requestId : String) :
    runVerify imports body.toJson requestId = verifyParsed imports body requestId := by
  rw [runVerify, parseX402Payload, parseVerifyRequest_toJson]

end Service

end FacilitatorX402
