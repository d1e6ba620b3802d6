import FacilitatorX402.Http.Routes

/-!
# The middleware of the client library

`expressMiddleware` asks for a payment when the request carries none; otherwise it has the proof in
the header verified and settled, and lets the request through.
-/

namespace FacilitatorX402

open Interact

namespace Service

structure MiddlewareOptions where
  amount : String
  asset : String
  network : String
  invoiceId : Option String
  description : Option String
  autoSettle : Option Bool

/-- What the middleware reads of a request: the header, and the wallet of the application. -/
structure MiddlewareRequest where
  paymentHeader : Option String
  sellerWallet : Option String

/-- What the client is given. The decoding of a header, from base 64 and from JSON, is the
runtime's. -/
structure X402Client where
  decodeHeader : String → Except Err Json
  referralCode : Option String

structure PaymentOffer where
  scheme : String
  network : String
  maxAmountRequired : String
  asset : String
  payTo : String
  description : String
  invoiceId : String
  deriving DecidableEq

/-- What the request is given as `req.x402`. -/
structure PaidRequest where
  verified : VerifyAccepted
  settled : Option SettleConfirmed
  deriving DecidableEq

/-- A response with status 402 or 500, or a call of `next()`. A refusal without an error is an empty
object. -/
inductive MiddlewareReply where
  | paymentRequired (offer : PaymentOffer)
  | refused (error : Option (String × String))
  | internalError (message : String)
  | next (paid : PaidRequest)
  deriving DecidableEq

def MiddlewareRequest.payTo (req : MiddlewareRequest) : String := req.sellerWallet.getD ""

def MiddlewareOptions.newInvoiceId (opts : MiddlewareOptions) : ServiceProgram String :=
  match opts.invoiceId with
  | some invoiceId => return invoiceId
  | none => do
      let nowMs ← dateNow
      return "inv_" ++ toString nowMs

/-- The answer to a request without a payment. -/
def offerPayment (opts : MiddlewareOptions) (req : MiddlewareRequest) :
    ServiceProgram MiddlewareReply := do
  let invoiceId ← opts.newInvoiceId
  return .paymentRequired
    { scheme := "exact"
      network := opts.network
      maxAmountRequired := opts.amount
      asset := opts.asset
      payTo := req.payTo
      description := opts.description.getD "Access requires payment"
      invoiceId := invoiceId }

/-- The body of `POST /settle`. -/
def settleBodyJson (opts : SettleOpts) : Json :=
  .obj ([("requestId", .str opts.requestId), ("verificationId", .str opts.verificationId)]
    ++ (opts.referralCode.map fun code => ("referralCode", Json.str code)).toList)

/-- The code and the message the client reads in a response. The routes declare objects without properties
for 402 and 409, and send nothing of the body. -/
def sentError (httpStatus : Nat) (code message : String) : Option (String × String) :=
  if httpStatus = 402 ∨ httpStatus = 409 then none else some (code, message)

/-- The settlement of a verified payment, unless the options turn it off. -/
def settleVerified (imports : Imports) (client : X402Client) (opts : MiddlewareOptions)
    (verified : VerifyAccepted) : ServiceProgram MiddlewareReply :=
  if opts.autoSettle = some false then
    return .next { verified := verified, settled := none }
  else do
    let settled ← settleRoute imports (settleBodyJson
      { requestId := verified.requestId
        verificationId := verified.verificationId
        referralCode := client.referralCode })
    match settled with
    | .response (.confirmed result) =>
        return .next { verified := verified, settled := some result }
    | .response (.failed result) =>
        return .refused (sentError result.httpStatus result.code result.message)
    | .invalid message _ => return .refused (sentError 400 "invalid_payload" message)
    | .internalError _ _ =>
        return .refused (sentError 500 "internal_error" "An internal error occurred. Please retry.")

/-- What is done with a decoded proof. -/
def verifyAndSettle (imports : Imports) (client : X402Client) (opts : MiddlewareOptions)
    (proof : Json) : ServiceProgram MiddlewareReply := do
  match ← verifyRoute imports proof with
  | .rejected result => return .refused (sentError result.httpStatus result.code result.message)
  | .accepted verified => settleVerified imports client opts verified

/-- The try statement. -/
def admitPayment (imports : Imports) (client : X402Client) (opts : MiddlewareOptions)
    (paymentHeader : String) : ServiceProgram MiddlewareReply := do
  let proof ← Program.ofExcept (client.decodeHeader paymentHeader)
  verifyAndSettle imports client opts proof

/-- An empty header counts as a missing one. -/
def expressMiddleware (imports : Imports) (client : X402Client) (opts : MiddlewareOptions)
    (req : MiddlewareRequest) : ServiceProgram MiddlewareReply :=
  let paymentHeader := req.paymentHeader.getD ""
  if paymentHeader = "" then offerPayment opts req
  else
    (admitPayment imports client opts paymentHeader).tryCatch fun err =>
      return .internalError err.message

end Service

end FacilitatorX402
