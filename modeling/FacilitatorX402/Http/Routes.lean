import FacilitatorX402.Application.RunSettle

/-!
# The routes of the services

`POST /verify` and `POST /settle`: each calls its service, tells the seller of the outcome without
waiting for it, and answers an error that the service throws with a response of its own. The body is what
the framework's JSON schema has let through and coerced; a body it refuses never reaches the handler.
-/

namespace FacilitatorX402

open Interact

namespace Service

def notifyWebhook (notice : WebhookNotice) : ServiceProgram Unit :=
  (Op.notifyWebhook notice).call

/-! ### `POST /verify` -/

def verifiedNotice (result : VerifyAccepted) : WebhookNotice :=
  .paymentVerified result.requestId result.verificationId result.invoiceId result.network
    result.asset result.amount result.from result.to result.verifiedAt

/-- The try statement of the handler. -/
def verifyNotified (imports : Imports) (body : Json) (requestId : String) :
    ServiceProgram VerifyResponse := do
  match ← runVerify imports body requestId with
  | .rejected result => return .rejected result
  | .accepted result =>
      notifyWebhook (verifiedNotice result)
      return .accepted result

/-- The handler. An error the service throws is answered with a rejection. -/
def verifyRoute (imports : Imports) (body : Json) : ServiceProgram VerifyResponse := do
  let requestId ← ulid
  (verifyNotified imports body requestId).tryCatch fun _ => do
    let rejectedAt ← dateNow
    return .rejected
      { requestId := requestId
        code := "internal_error"
        message := "An internal error occurred. Please retry."
        httpStatus := 500
        rejectedAt := isoText rejectedAt }

/-! ### `POST /settle` -/

/-- `z.string()` with bounds on its length. -/
def checkBounded (path : String) (least most : Nat) (field : Option Json) : Checked String :=
  match checkString path field with
  | .error issues => .error issues
  | .ok text =>
      if utf16Length text < least then
        .error [⟨path, "String must contain at least " ++ toString least ++ " character(s)"⟩]
      else if most < utf16Length text then
        .error [⟨path, "String must contain at most " ++ toString most ++ " character(s)"⟩]
      else .ok text

/-- A field that may be missing. -/
def checkOptional {α : Type} (check : Option Json → Checked α) : Option Json → Checked (Option α)
  | none => .ok none
  | some value => (check (some value)).map some

def parseSettleFields (fields : List (String × Json)) : Checked SettleOpts :=
  let checked :=
    (checkBounded "requestId" 1 128 (fields.lookup "requestId")).both <|
    (checkBounded "verificationId" 1 128 (fields.lookup "verificationId")).both <|
    checkOptional (checkBounded "referralCode" 0 50) (fields.lookup "referralCode")
  checked.map fun (requestId, verificationId, referralCode) =>
    { requestId := requestId, verificationId := verificationId, referralCode := referralCode }

def parseSettleBody (raw : Json) : Checked SettleOpts :=
  checkNested "" parseSettleFields (some raw)

/-- What the route sends: a body it refuses, what the service answered, or what became of an error the
service threw. -/
inductive SettleAnswer where
  | invalid (message failedAt : String)
  | response (result : SettleResponse)
  | internalError (requestId failedAt : String)
  deriving DecidableEq

def failedNotice (requestId : String) (result : SettleRejected) : WebhookNotice :=
  .paymentFailed requestId result.code result.message result.failedAt

def settledNotice (result : SettleConfirmed) : WebhookNotice :=
  .paymentSettled result.requestId result.settlementId result.txHash result.feeAmount
    result.developerShare result.receiptId result.confirmedAt

/-- What the seller is told of an outcome. -/
def outcomeNotice (requestId : String) : SettleResponse → WebhookNotice
  | .failed result => failedNotice requestId result
  | .confirmed result => settledNotice result

/-- The try statement of the handler. -/
def settleNotified (imports : Imports) (opts : SettleOpts) : ServiceProgram SettleAnswer := do
  let result ← runSettle imports opts
  notifyWebhook (outcomeNotice opts.requestId result)
  return .response result

/-- The handler, for a body that passes the schema. -/
def settleParsed (imports : Imports) (opts : SettleOpts) : ServiceProgram SettleAnswer :=
  (settleNotified imports opts).tryCatch fun _ => do
    let failedAt ← dateNow
    return .internalError opts.requestId (isoText failedAt)

def settleRoute (imports : Imports) (body : Json) : ServiceProgram SettleAnswer :=
  match parseSettleBody body with
  | .error issues => do
      let failedAt ← dateNow
      return .invalid ((issues.head?.map (·.message)).getD "Validation failed") (isoText failedAt)
  | .ok opts => settleParsed imports opts

end Service

end FacilitatorX402
