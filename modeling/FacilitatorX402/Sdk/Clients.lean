import FacilitatorX402.Http.ErrorHandler
import FacilitatorX402.Library.Program

/-!
# The two clients

The client of the published package and the one bundled with the services. Both send a request, read
the answer, and send it again while the failure is one they take for transient; they differ in what
they read an answer as. The pauses between attempts are left out.
-/

namespace FacilitatorX402.Sdk

open Interact

structure HttpRequest where
  method : String
  path : String
  body : Option Json

/-- How `fetch` fails: the time limit aborts it, or the network does not deliver. -/
inductive TransportFailure where
  | aborted
  | network (message : String)
  deriving DecidableEq

/-- The error class of the package. Its fields are what the body has under these names. -/
structure FacilitatorAPIError where
  code : Option Json
  reason : Option Json
  message : Option Json
  correlationId : Option Json
  httpStatus : Nat

/-- The error class of the bundled client. -/
structure BundledError where
  code : Json
  reason : Json
  message : Json
  correlationId : Option Json
  httpStatus : Option Nat

inductive ClientError where
  | fetch (failure : TransportFailure)
  | api (error : FacilitatorAPIError)
  | timeout
  | pollTimeout (timeoutMs : Nat)
  | network (message : String)
  | bundled (error : BundledError)
  | typeError (message : String)

abbrev clientInterface : Interface := ⟨HttpRequest, fun _ => HttpResponse⟩

abbrev ClientProgram (α : Type) := Program clientInterface ClientError α

def fetch (request : HttpRequest) : ClientProgram HttpResponse :=
  Program.call (I := clientInterface) request

/-- What a client makes of an attempt: an answer, undefined for an empty one, or an error that it
retries, or one that it throws at once. -/
inductive Received where
  | done (json : Option Json)
  | retry (error : ClientError)
  | fail (error : ClientError)

/-- One request, with some attempts left after the first. -/
def request (received : Except ClientError HttpResponse → Received) (http : HttpRequest) :
    Nat → ClientProgram (Option Json)
  | 0 => (fetch http).attempt.bind fun outcome =>
      match received outcome with
      | .done json => .ret json
      | .retry error => .throw error
      | .fail error => .throw error
  | attempts + 1 => (fetch http).attempt.bind fun outcome =>
      match received outcome with
      | .done json => .ret json
      | .retry _ => request received http attempts
      | .fail error => .throw error

/-- A property of a value that may be undefined. -/
def readField (name : String) : Option Json → Except ClientError (Option Json)
  | none => .error (.typeError ("Cannot read properties of undefined (reading '" ++ name ++ "')"))
  | some .null => .error (.typeError ("Cannot read properties of null (reading '" ++ name ++ "')"))
  | some json => .ok (json.field? name)

/-- `value ?? fallback`. -/
def orElse (value : Option Json) (fallback : String) : Json :=
  match value with
  | none => .str fallback
  | some .null => .str fallback
  | some json => json

/-- A value in a template; what is not a string is printed by the runtime. -/
def templateText (print : Json → String) : Option Json → String
  | none => "undefined"
  | some (.str text) => text
  | some json => print json

mutual

/-- What cannot be made a text: an object with a `toString` of its own, which is no function. -/
def unprintable : Json → Bool
  | .obj fields => (fields.lookup "toString").isSome
  | .arr items => anyUnprintable items
  | _ => false

def anyUnprintable : List Json → Bool
  | [] => false
  | item :: items => unprintable item || anyUnprintable items

end

/-- Both clients list the same codes. -/
def retryableCodes : List String := ["internal_error", "settlement_pending", "rpc_unavailable"]

def isRetryableCode : Option Json → Bool
  | some (.str code) => retryableCodes.contains code
  | _ => false

/-- What sets the clients apart. -/
structure ClientKind where
  received : Except ClientError HttpResponse → Received
  rejected : Option Json → ClientError

def verifyRequest (proof : Json) : HttpRequest := ⟨"POST", "/verify", some proof⟩

/-- The body has the one field, unless it is undefined. -/
def settleBody (requestId : Option Json) : Json :=
  .obj (requestId.map fun json => ("requestId", json)).toList

def settleRequest (requestId : Option Json) : HttpRequest :=
  ⟨"POST", "/settle", some (settleBody requestId)⟩

/-- The verify step of `pay`. -/
def payVerify (kind : ClientKind) (attempts : Nat) (proof : Json) : ClientProgram (Option Json) := do
  let verify ← request kind.received (verifyRequest proof) attempts
  match readField "status" verify with
  | .error error => .throw error
  | .ok (some (.str "accepted")) => return verify
  | .ok _ => .throw (kind.rejected verify)

/-- The settle step of `pay`. -/
def paySettle (kind : ClientKind) (attempts : Nat) (verify : Option Json) :
    ClientProgram (Option Json) :=
  match readField "requestId" verify with
  | .error error => .throw error
  | .ok requestId => request kind.received (settleRequest requestId) attempts

/-! ### The client of the package -/

namespace Package

def defaultRetries : Nat := 2

/-- `new FacilitatorAPIError({ ...errBody.error, status: res.status })`. -/
def apiError (json : Json) (status : Nat) : FacilitatorAPIError :=
  let error := (json.field? "error").getD .null
  { code := error.field? "code"
    reason := error.field? "reason"
    message := error.field? "message"
    correlationId := error.field? "correlationId"
    httpStatus := status }

def FacilitatorAPIError.isRetryable (error : FacilitatorAPIError) : Bool :=
  isRetryableCode error.code

/-- The error of a refusal, or the message of the error that is thrown instead: the body of null has no
property to read, and `Error` makes a text of its message. -/
def decodeRefusal (status : Nat) : Json → Except String FacilitatorAPIError
  | .null => .error "Cannot read properties of null (reading 'error')"
  | json =>
      let error := apiError json status
      if error.message.any unprintable then .error "Cannot convert object to primitive value"
      else .ok error

/-- A refusal that cannot be decoded is retried like an error of the network. -/
def receivedRefusal (status : Nat) (json : Json) : Received :=
  match decodeRefusal status json with
  | .error message => .retry (.network ("Network error: " ++ message))
  | .ok error =>
      if FacilitatorAPIError.isRetryable error then .retry (.api error) else .fail (.api error)

def received : Except ClientError HttpResponse → Received
  | .error (.fetch .aborted) => .fail .timeout
  | .error (.fetch (.network message)) => .retry (.network ("Network error: " ++ message))
  | .error error => .fail error
  | .ok response =>
      match response.body with
      | .error message => .retry (.network ("Network error: " ++ message))
      | .ok json => if response.ok then .done (some json) else receivedRefusal response.status json

def rejected (print : Json → String) (verify : Option Json) : ClientError :=
  let reason := verify.bind (Json.field? "reason")
  .api
    { code := some (orElse (verify.bind (Json.field? "errorCode")) "verify_rejected")
      reason := some (orElse reason "Payment verification rejected")
      message := some (.str ("Payment was rejected: " ++ templateText print reason))
      correlationId := verify.bind (Json.field? "correlationId")
      httpStatus := 402 }

def kind (print : Json → String) : ClientKind := ⟨received, rejected print⟩

def pay (print : Json → String) (retries : Nat) (proof : Json) :
    ClientProgram (Option Json × Option Json) := do
  let verify ← payVerify (kind print) retries proof
  let settle ← paySettle (kind print) retries verify
  return (verify, settle)

end Package

/-! ### The bundled client -/

namespace Bundled

def defaultMaxRetries : Nat := 3

def apiError (json : Json) (status : Nat) : BundledError :=
  { code := orElse (json.field? "code") "unknown_error"
    reason := orElse (json.field? "reason") "Unknown error"
    message := orElse (json.field? "message") ("HTTP " ++ toString status)
    correlationId := json.field? "correlationId"
    httpStatus := some status }

def isRetryable (error : BundledError) : Bool := isRetryableCode (some error.code)

def receivedRefusal (status : Nat) : Json → Received
  | .null => .fail (.typeError "Cannot read properties of null (reading 'code')")
  | json =>
      let error := apiError json status
      if isRetryable error then .retry (.bundled error) else .fail (.bundled error)

def transportError (code reason message : String) : ClientError :=
  .bundled
    { code := .str code
      reason := .str reason
      message := .str message
      correlationId := none
      httpStatus := none }

def invalidResponse (status : Nat) : ClientError :=
  .bundled
    { code := .str "invalid_response"
      reason := .str "Non-JSON response"
      message := .str ("Server returned non-JSON response (HTTP " ++ toString status ++ ")")
      correlationId := none
      httpStatus := some status }

def received : Except ClientError HttpResponse → Received
  | .error (.fetch .aborted) =>
      .fail (transportError "request_timeout" "Request timed out" "This operation was aborted")
  | .error (.fetch (.network message)) =>
      .retry (transportError "network_error" "Network error" message)
  | .error error => .fail error
  | .ok response =>
      if response.status = 204 then .done none
      else
        match response.body with
        | .error _ => .fail (invalidResponse response.status)
        | .ok json => if response.ok then .done (some json) else receivedRefusal response.status json

def rejected (print : Json → String) (verify : Option Json) : ClientError :=
  let reason := verify.bind (Json.field? "reason")
  .bundled
    { code := orElse (verify.bind (Json.field? "code")) "verify_rejected"
      reason := orElse reason "Payment verification rejected"
      message := .str ("Verification rejected: " ++ templateText print reason)
      correlationId := none
      httpStatus := none }

def kind (print : Json → String) : ClientKind := ⟨received, rejected print⟩

/-- What `pay` tells of a settlement. -/
structure PayResult where
  receiptId : Json
  txHash : Json
  status : Option Json

def payResult (settle : Option Json) : Except ClientError PayResult :=
  (readField "receiptId" settle).map fun receiptId =>
    { receiptId := orElse receiptId ""
      txHash := orElse (settle.bind (Json.field? "txHash")) ""
      status := settle.bind (Json.field? "status") }

def pay (print : Json → String) (maxRetries : Nat) (payload : Json) : ClientProgram PayResult := do
  let verify ← payVerify (kind print) (maxRetries - 1) payload
  let settle ← paySettle (kind print) (maxRetries - 1) verify
  Program.ofExcept (payResult settle)

end Bundled

end FacilitatorX402.Sdk
