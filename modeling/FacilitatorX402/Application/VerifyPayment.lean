import FacilitatorX402.Infrastructure.AntiReplay
import FacilitatorX402.Infrastructure.AssetRegistry
import FacilitatorX402.Infrastructure.PaymentStore

/-!
# Verifying a payment

`verifyPayment`, cut at the numbered steps of the source: the checks that need no store, the two
claims, the signature, and the transaction. Every failure after a claim gives the claims back.
-/

namespace FacilitatorX402

open Interact

namespace Payment

structure VerifyResult where
  requestId : String
  verificationId : String
  paymentRequestId : String
  status : VerificationStatus
  network : String
  asset : String
  amount : String
  «from» : String
  «to» : String
  invoiceId : String
  expiresAt : String
  verifiedAt : String
  deriving DecidableEq

abbrev PaymentProgram (α : Type) := Program interface Err α

/-- Redis commands of the payment pipeline. -/
def redis {α : Type} (program : RedisProgram α) : PaymentProgram α := program.lift redisHom

def generateUlid : PaymentProgram String := Op.generateId.call

/-- `Date.now()` and `new Date()`. -/
def dateNow : PaymentProgram Nat := Op.now.call

/-- `prisma.$transaction` that creates the request and its verification. -/
def createVerified (request : PaymentRequest) (verification : PaymentVerification) :
    PaymentProgram Unit := (Op.createVerified request verification).call

/-- The message of a body the parser refuses. -/
def issuesMessage (issues : List ParseIssue) : String :=
  "; ".intercalate (issues.map fun issue => issue.path ++ ": " ++ issue.message)

def computePayloadHash (host : Host) (req : VerifyRequest) : String :=
  let authorization := jsonObject
    [("from", jsonString req.auth.from.lower),
      ("to", jsonString req.auth.to.lower),
      ("value", jsonString req.auth.value.text),
      ("validAfter", host.numberText req.auth.validAfter),
      ("validBefore", host.numberText req.auth.validBefore),
      ("nonce", jsonString req.auth.nonce.lower)]
  let canonical := jsonObject
    [("version", jsonString req.version),
      ("scheme", jsonString req.scheme),
      ("network", jsonString req.network),
      ("asset", jsonString req.asset),
      ("invoiceId", jsonString req.invoiceId),
      ("requiredAmount", jsonString req.requiredAmount.text),
      ("recipient", jsonString req.recipient.lower),
      ("authorization", authorization),
      ("signature", jsonString req.payload.signature.lower)]
  (host.sha256 canonical).hex

/-- Expiration, recipient binding and amount: the error of the first check that fails. -/
def checkAuthorization (req : VerifyRequest) (requestId : String) (nowSec : Nat) :
    Except Err Unit :=
  let auth := req.auth
  if auth.validBefore ≤ nowSec then
    match (JsDate.ofSeconds auth.validBefore).toISOString with
    | none => .error (.raised "Invalid time value")
    | some expiry =>
        .error (facilitatorError "expired_payment" ("Payment expired at " ++ expiry)
          (some requestId))
  else if auth.to.lower ≠ req.recipient.lower then
    .error (facilitatorError "invalid_payload"
      ("Recipient mismatch: payload.to=" ++ auth.to.text ++ " != recipient=" ++ req.recipient.text)
      (some requestId))
  else if auth.value.value < req.requiredAmount.value then
    .error (facilitatorError "invalid_payload"
      ("Amount too low: got " ++ auth.value.text ++ ", required " ++ req.requiredAmount.text)
      (some requestId))
  else .ok ()

/-- Both claims, the nonce first: a taken signature gives the nonce back. -/
def claimPayment (nonce signatureHash requestId : String) : PaymentProgram Unit := do
  let nonceClaimed ← redis (claimNonce nonce)
  if nonceClaimed then
    let sigClaimed ← redis (claimSignatureHash signatureHash)
    if sigClaimed then return ()
    else
      redis (releaseNonce nonce)
      .throw (facilitatorError "duplicate_payment"
        "Payment already used (signature already claimed)" (some requestId))
  else
    .throw (facilitatorError "duplicate_payment" "Payment already used (nonce already claimed)"
      (some requestId))

/-- The rollback of both claims. -/
def releaseClaims (nonce signatureHash : String) : PaymentProgram Unit := do
  redis (releaseNonce nonce)
  redis (releaseSignatureHash signatureHash)

/-- The signer is recovered and compared with the sender. -/
def checkSigner (host : Host) (network : NetworkConfig) (asset : FoundAsset) (req : VerifyRequest)
    (signatureHash requestId : String) : PaymentProgram Unit :=
  let auth := req.auth
  match verifyErc3009Signature host auth req.payload.signature.text asset.contractAddress
      network.chainId asset.eip712Version with
  | .error _ => do
      releaseClaims auth.nonce.text signatureHash
      .throw (facilitatorError "invalid_signature" "Signature verification failed"
        (some requestId))
  | .ok recovered =>
      if HexText.lowerCase recovered ≠ auth.from.lower then do
        releaseClaims auth.nonce.text signatureHash
        .throw (facilitatorError "invalid_signature"
          ("Signature signer mismatch: recovered " ++ recovered ++ ", expected " ++ auth.from.text)
          (some requestId))
      else return ()

/-- The rows of an accepted payment. -/
def acceptedRequest (req : VerifyRequest) (requestId : String) : PaymentRequest :=
  { id := requestId
    seller := req.auth.to.text
    buyer := req.auth.from.text
    network := req.network
    asset := req.asset
    amount := req.auth.value.value
    invoiceId := req.invoiceId
    scheme := req.scheme
    expiresAt := .ofSeconds req.auth.validBefore }

def acceptedVerification (host : Host) (req : VerifyRequest)
    (verificationId requestId signatureHash : String) : PaymentVerification :=
  { id := verificationId
    requestId := requestId
    verificationStatus := .accepted
    signatureHash := signatureHash
    nonce := req.auth.nonce.text
    payloadHash := computePayloadHash host req }

/-- The transaction and the reply. Printing an invalid expiry throws, but the transaction has
refused it already. -/
def persistVerified (host : Host) (req : VerifyRequest) (requestId signatureHash : String)
    (verifiedAt : Nat) : PaymentProgram VerifyResult := do
  let verificationId ← generateUlid
  createVerified (acceptedRequest req requestId)
    (acceptedVerification host req verificationId requestId signatureHash)
  match (JsDate.ofSeconds req.auth.validBefore).toISOString with
  | none => .throw (.raised "Invalid time value")
  | some expiresAt =>
      return {
        requestId := requestId
        verificationId := verificationId
        paymentRequestId := requestId
        status := .accepted
        network := req.network
        asset := req.asset
        amount := req.auth.value.text
        «from» := req.auth.from.text
        «to» := req.auth.to.text
        invoiceId := req.invoiceId
        expiresAt := expiresAt
        verifiedAt := isoText verifiedAt }

/-- The steps from the clock reading on, for a supported network and asset. -/
def verifyChecked (host : Host) (network : NetworkConfig) (asset : FoundAsset)
    (req : VerifyRequest) (requestId : String) : PaymentProgram VerifyResult := do
  let nowMs ← dateNow
  Program.ofExcept (checkAuthorization req requestId (nowMs / 1000))
  let signatureHash := computeSignatureHash req.payload.signature.text
  claimPayment req.auth.nonce.text signatureHash requestId
  checkSigner host network asset req signatureHash requestId
  let verifiedAt ← dateNow
  (persistVerified host req requestId signatureHash verifiedAt).tryCatch fun _ => do
    releaseClaims req.auth.nonce.text signatureHash
    .throw (.facilitator (createError "internal_error" none (some requestId)))

/-- The steps after parsing. -/
def verifyParsed (host : Host) (registry : NetworkRegistry) (req : VerifyRequest) :
    PaymentProgram VerifyResult := do
  let requestId ← generateUlid
  match registry req.network with
  | none =>
      .throw (facilitatorError "unsupported_network"
        ("Network '" ++ req.network ++ "' is not supported") (some requestId))
  | some network =>
      match network.asset req.asset with
      | none =>
          .throw (facilitatorError "unsupported_asset"
            ("Asset '" ++ req.asset ++ "' is not supported on network '" ++ req.network ++ "'")
            (some requestId))
      | some asset => verifyChecked host network asset req requestId

def verifyPayment (host : Host) (registry : NetworkRegistry) (rawBody : Json) :
    PaymentProgram VerifyResult :=
  match parseVerifyRequest rawBody with
  | .error issues => .throw (facilitatorError "invalid_payload" (issuesMessage issues) none)
  | .ok req => verifyParsed host registry req

/-- The body of a request is verified as that request. -/
theorem verifyPayment_toJson (host : Host) (registry : NetworkRegistry) (req : VerifyRequest) :
    verifyPayment host registry req.toJson = verifyParsed host registry req := by
  rw [verifyPayment, parseVerifyRequest_toJson]

end Payment

end FacilitatorX402
