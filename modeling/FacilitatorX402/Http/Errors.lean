import Mathlib.Tactic.Common

/-!
# Errors

A `FacilitatorError` looks its status and its reason up under its code. Not every code the services
throw is listed: for one that is not, both are undefined.
-/

namespace FacilitatorX402

def errorCodes : List String :=
  ["unsupported_network", "unsupported_asset", "expired_payment", "invalid_signature",
    "invalid_nonce", "duplicate_payment", "invalid_amount", "invalid_seller",
    "settlement_pending", "duplicate_settlement", "settlement_failed", "verification_required",
    "validation_error", "not_found", "rate_limited", "internal_error"]

def httpStatusMap : List (String × Nat) :=
  [("unsupported_network", 422), ("unsupported_asset", 422), ("expired_payment", 422),
    ("invalid_signature", 422), ("invalid_nonce", 422), ("duplicate_payment", 409),
    ("invalid_amount", 422), ("invalid_seller", 422), ("settlement_pending", 202),
    ("duplicate_settlement", 200), ("settlement_failed", 422), ("verification_required", 422),
    ("validation_error", 400), ("not_found", 404), ("rate_limited", 429), ("internal_error", 500)]

def reasons : List (String × String) :=
  [("unsupported_network", "Network not supported"),
    ("unsupported_asset", "Asset not supported"),
    ("expired_payment", "Payment proof has expired"),
    ("invalid_signature", "Signature verification failed"),
    ("invalid_nonce", "Nonce already used or invalid"),
    ("duplicate_payment", "Payment already processed"),
    ("invalid_amount", "Amount does not match invoice"),
    ("invalid_seller", "Seller address mismatch"),
    ("settlement_pending", "Settlement already in progress"),
    ("duplicate_settlement", "Settlement already completed"),
    ("settlement_failed", "On-chain transaction failed"),
    ("verification_required", "Payment must be verified first"),
    ("validation_error", "Request validation failed"),
    ("not_found", "Resource not found"),
    ("rate_limited", "Too many requests"),
    ("internal_error", "Internal server error")]

structure FacilitatorError where
  code : String
  httpStatus : Option Nat
  reason : Option String
  message : String
  correlationId : Option String
  deriving DecidableEq

/-- The message defaults to the reason; an `Error` built from undefined has an empty message. -/
def createError (code : String) (message : Option String) (correlationId : Option String) :
    FacilitatorError :=
  { code := code
    httpStatus := httpStatusMap.lookup code
    reason := reasons.lookup code
    message := (message.orElse fun _ => reasons.lookup code).getD ""
    correlationId := correlationId }

/-- What a function of the services can throw: an error of its own, or one raised by the runtime, a
driver or a client library. -/
inductive Err where
  | facilitator (error : FacilitatorError)
  | raised (message : String)
  deriving DecidableEq

def Err.message : Err → String
  | facilitator error => error.message
  | raised message => message

/-- `throw createError(code, { message, correlationId })`. -/
def facilitatorError (code message : String) (correlationId : Option String) : Err :=
  .facilitator (createError code (some message) correlationId)

/-- Every listed code has a status and a reason. -/
theorem lookup_isSome_of_mem_errorCodes :
    ∀ code ∈ errorCodes, (httpStatusMap.lookup code).isSome ∧ (reasons.lookup code).isSome := by
  decide

end FacilitatorX402
