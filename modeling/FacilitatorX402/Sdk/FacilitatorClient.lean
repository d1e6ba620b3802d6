import FacilitatorX402.Sdk.Clients

/-!
# The request of the package, as it is written

`request` calls itself in two places, and one of them is in a `try` whose `catch` holds the other. The
promise of the next attempt is returned from there without being awaited: what it is rejected with is
not caught by the attempt that returns it.
-/

namespace FacilitatorX402.Sdk

open Interact

/-- The options of a client that its requests depend on. -/
structure FacilitatorClient where
  retries : Nat

namespace FacilitatorClient

/-- How an attempt that does not throw is left: with a value, or with the promise of the next one. -/
inductive Completion (mayRetry : Prop) where
  | value (json : Json)
  | next (h : mayRetry)

def new (retries : Option Nat) : FacilitatorClient := ⟨retries.getD Package.defaultRetries⟩

/-- An error that is no `FacilitatorAPIError` and no `AbortError`. Only its message is read. -/
def otherError (message : String) : ClientError := .fetch (.network message)

variable (client : FacilitatorClient)

/-- The `try` of `request`, once `fetch` is over. -/
def tryBlock (attempt : Nat) :
    Except ClientError HttpResponse → Except ClientError (Completion (attempt < client.retries))
  | .error error => .error error
  | .ok response =>
      match response.body with
      | .error message => .error (otherError message)
      | .ok json =>
          if response.ok then .ok (.value json)
          else
            match Package.decodeRefusal response.status json with
            | .error message => .error (otherError message)
            | .ok apiErr =>
                if h : Package.FacilitatorAPIError.isRetryable apiErr = true ∧ attempt < client.retries then
                  .ok (.next h.2)
                else .error (.api apiErr)

/-- The `catch` of `request`. -/
def catchClause (attempt : Nat) :
    ClientError → Except ClientError (Completion (attempt < client.retries))
  | .fetch .aborted => .error .timeout
  | .fetch (.network message) =>
      if h : attempt < client.retries then .ok (.next h)
      else .error (.network ("Network error: " ++ message))
  | error => .error error

/-- One attempt: what the `catch` makes of what the `try` throws. -/
def completion (attempt : Nat) (outcome : Except ClientError HttpResponse) :
    Except ClientError (Completion (attempt < client.retries)) :=
  match client.tryBlock attempt outcome with
  | .ok completion => .ok completion
  | .error error => client.catchClause attempt error

def request (http : HttpRequest) (attempt : Nat) : ClientProgram (Option Json) :=
  (fetch http).attempt.bind fun outcome =>
    match client.completion attempt outcome with
    | .ok (.value json) => .ret (some json)
    | .ok (.next _) => request http (attempt + 1)
    | .error error => .throw error
termination_by client.retries - attempt

def get (path : String) : ClientProgram (Option Json) := client.request ⟨"GET", path, none⟩ 0

def getReceipt (receiptId : String) : ClientProgram (Option Json) :=
  client.get ("/receipts/" ++ receiptId)

structure PollOptions where
  intervalMs : Option Nat
  maxAttempts : Option Nat

/-- `receipt.status === 'confirmed' || receipt.status === 'failed'`. -/
def isFinal (receipt : Option Json) : Except ClientError Bool :=
  (readField "status" receipt).map fun status =>
    match status with
    | some (.str status) => status == "confirmed" || status == "failed"
    | _ => false

/-- The attempts of a poll that remain. -/
def pollFrom (receiptId : String) (timeoutMs : Nat) : Nat → ClientProgram (Option Json)
  | 0 => .throw (.pollTimeout timeoutMs)
  | attempts + 1 => (client.getReceipt receiptId).bind fun receipt =>
      match isFinal receipt with
      | .error error => .throw error
      | .ok true => .ret receipt
      | .ok false => pollFrom receiptId timeoutMs attempts

def pollSettlement (receiptId : String) (options : PollOptions) : ClientProgram (Option Json) :=
  let intervalMs := options.intervalMs.getD 2000
  let maxAttempts := options.maxAttempts.getD 30
  client.pollFrom receiptId (intervalMs * maxAttempts) maxAttempts

end FacilitatorClient

end FacilitatorX402.Sdk
