import FacilitatorX402.Application.VerifyPayment
import FacilitatorX402.Library.Sequential
import FacilitatorX402.Sdk.Clients

/-!
# A network that loses messages

A client and a server that answers `POST /verify` with `verifyPayment`. Each attempt of the client
loses its request, its response, or neither. Between two attempts the server does whatever else it is
asked to; the verifications it has stored stay.
-/

namespace FacilitatorX402.Sdk

open Interact Payment

variable {ι : Type}

/-! ### The server -/

structure VerifyServer where
  host : Host
  registry : NetworkRegistry
  errorsTotal : ErrorsTotal
  fallback : Err → Json

def statusText : VerificationStatus → String
  | .pending => "pending"
  | .accepted => "accepted"
  | .rejected => "rejected"

def resultJson (result : VerifyResult) : Json :=
  .obj
    [("requestId", .str result.requestId), ("verificationId", .str result.verificationId),
      ("paymentRequestId", .str result.paymentRequestId), ("status", .str (statusText result.status)),
      ("network", .str result.network), ("asset", .str result.asset), ("amount", .str result.amount),
      ("from", .str result.from), ("to", .str result.to), ("invoiceId", .str result.invoiceId),
      ("expiresAt", .str result.expiresAt), ("verifiedAt", .str result.verifiedAt)]

def VerifyServer.respond (server : VerifyServer) (requestId : String) :
    Except Err VerifyResult → HttpResponse
  | .ok result => { status := 200, body := .ok (resultJson result) }
  | .error error => errorReply server.fallback server.errorsTotal requestId error

/-! ### The network -/

/-- What is lost of an attempt, and how `fetch` fails of it. -/
inductive Loss where
  | none
  | request (failure : TransportFailure)
  | response (failure : TransportFailure)

/-- Redis may lose keys; what the database commits it reports. -/
abbrev paymentMachine (ι : Type) : Machine Payment.interface Err ι := machine ι ⟨true, false⟩

/-- What the surroundings decide about an attempt. -/
structure Attempt (ι : Type) where
  meanwhile : Option (World ι)
  loss : Loss
  who : ι
  decisions : Decisions (paymentMachine ι)
  requestId : String

/-- An attempt that was made, with the rows of the server around it. -/
structure Sent where
  before : Db
  after : Db
  loss : Loss

structure Network (ι : Type) where
  server : World ι
  sent : List Sent

/-- The server after a while in which nothing has happened, or anything else. -/
def afterWhile (world : World ι) : Option (World ι) → World ι
  | none => world
  | some meanwhile =>
      { meanwhile with
        db :=
          { meanwhile.db with
            verifications := world.db.verifications ++ meanwhile.db.verifications } }

theorem subset_afterWhile (world : World ι) (meanwhile : Option (World ι)) :
    world.db.verifications ⊆ (afterWhile world meanwhile).db.verifications := by
  cases meanwhile with
  | none => exact List.Subset.refl _
  | some meanwhile => exact List.subset_append_left _ _

/-- The server handles a body. -/
def VerifyServer.handle (server : VerifyServer) (world : World ι) (attempt : Attempt ι) (body : Json) :
    Option (Except Err VerifyResult × World ι) :=
  runAlone (M := paymentMachine ι) (fun _ _ _ => true) attempt.who
    (verifyPayment server.host server.registry body) world attempt.decisions

def VerifyServer.deliver (server : VerifyServer) (network : Network ι) (attempt : Attempt ι)
    (body : Json) : Option (Except ClientError HttpResponse × Network ι) :=
  let before := afterWhile network.server attempt.meanwhile
  match attempt.loss with
  | .request failure =>
      some (.error (.fetch failure), ⟨before, ⟨before.db, before.db, attempt.loss⟩ :: network.sent⟩)
  | .response failure =>
      (server.handle before attempt body).map fun (_, after) =>
        (.error (.fetch failure), ⟨after, ⟨before.db, after.db, attempt.loss⟩ :: network.sent⟩)
  | .none =>
      (server.handle before attempt body).map fun (result, after) =>
        (.ok (server.respond attempt.requestId result),
          ⟨after, ⟨before.db, after.db, attempt.loss⟩ :: network.sent⟩)

/-- No other request is answered here. -/
def VerifyServer.exec (server : VerifyServer) (network : Network ι) (http : HttpRequest)
    (attempt : Attempt ι) : Option (Except ClientError HttpResponse × Network ι) :=
  if http.method = "POST" ∧ http.path = "/verify" then
    http.body.bind (server.deliver network attempt)
  else none

abbrev VerifyServer.machine (server : VerifyServer) (ι : Type) :
    Machine clientInterface ClientError Unit where
  World := Network ι
  Outcome := Attempt ι
  Env := Empty
  exec _ := server.exec
  env _ := nofun

/-- Any loss, and any answers to the server. -/
def anyAttempt {server : VerifyServer} : Fair (server.machine ι) := fun _ _ _ => True

/-- Nothing is lost. -/
def lossless {server : VerifyServer} : Fair (server.machine ι) :=
  fun _ _ attempt => attempt.loss = .none

end FacilitatorX402.Sdk
