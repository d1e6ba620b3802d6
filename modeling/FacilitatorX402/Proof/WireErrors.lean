import FacilitatorX402.Proof.ServiceStages
import FacilitatorX402.Http.Routes
import FacilitatorX402.Sdk.Clients

/-!
# What the clients and the server say to each other

Two messages on the wire. An error: the bundled client looks for its fields one level too high, so it
never reads one, and the client of the package reads every error that does not have a status of
success. And the settle request: neither client sends the id of the verification, which the schema of
the route requires.
-/

namespace FacilitatorX402.Sdk

open Interact Service

/-! ### Errors -/

namespace ClientError

def code? : ClientError → Option Json
  | api error => error.code
  | bundled error => some error.code
  | _ => none

def reason? : ClientError → Option Json
  | api error => error.reason
  | bundled error => some error.reason
  | _ => none

def message? : ClientError → Option Json
  | api error => error.message
  | bundled error => some error.message
  | _ => none

def correlationId? : ClientError → Option Json
  | api error => error.correlationId
  | bundled error => error.correlationId
  | _ => none

end ClientError

/-- The error that a client throws when no attempt is left. -/
def surfaced : Received → Option ClientError
  | .done _ => none
  | .retry error => some error
  | .fail error => some error

/-- The client takes the error for transient. -/
def retried : Received → Bool
  | .retry _ => true
  | _ => false

/-- A client's error says what an error of the server says. -/
structure Carries (surfaced : ClientError) (error : FacilitatorError) : Prop where
  code : surfaced.code? = some (.str error.code)
  reason : surfaced.reason? = error.reason.map .str
  message : surfaced.message? = some (.str error.message)
  correlationId : surfaced.correlationId? = error.correlationId.map .str

def Surfaces (received : Except ClientError HttpResponse → Received) (response : HttpResponse)
    (error : FacilitatorError) : Prop :=
  ∃ raised, surfaced (received (.ok response)) = some raised ∧ Carries raised error

/-- Both clients throw the error the handler has sent, and agree on whether to try again. -/
def ErrorSurvives (response : HttpResponse) (error : FacilitatorError) : Prop :=
  Surfaces Package.received response error ∧ Surfaces Bundled.received response error ∧
    retried (Package.received (.ok response)) = retried (Bundled.received (.ok response))

variable {fallback : Err → Json} {errorsTotal : ErrorsTotal} {requestId code : String}
  {message correlationId : Option String}

theorem bundled_unknown {status : Nat} {error : FacilitatorError} {raised : ClientError}
    (h : surfaced (Bundled.received (.ok ⟨status, .ok (toErrorResponse error)⟩)) = some raised) :
    raised.code? = some (.str "unknown_error") ∧ raised.correlationId? = none := by
  simp only [Bundled.received] at h
  split at h
  · cases h
  · split at h
    · cases h
    · obtain rfl : ClientError.bundled (Bundled.apiError (toErrorResponse error) status) = raised :=
        Option.some.inj h
      exact ⟨rfl, rfl⟩

theorem package_carries (error : FacilitatorError) (status : Nat) :
    Carries (.api (Package.apiError (toErrorResponse error) status)) error := by
  obtain ⟨code, httpStatus, reason, message, correlationId⟩ := error
  cases reason <;> cases correlationId <;> exact ⟨rfl, rfl, rfl, rfl⟩

theorem decodeRefusal_error (error : FacilitatorError) (status : Nat) :
    Package.decodeRefusal status (toErrorResponse error) =
      .ok (Package.apiError (toErrorResponse error) status) := by
  have hmessage : (Package.apiError (toErrorResponse error) status).message = some (.str error.message) :=
    (package_carries error status).message
  have hprinted : (Package.apiError (toErrorResponse error) status).message.any unprintable ≠ true := by
    simp [hmessage, unprintable]
  exact if_neg hprinted

/-- Two listed codes have a status of success. -/
theorem success_iff : ∀ code ∈ errorCodes,
    (httpStatusMap.lookup code).map (fun status => 200 ≤ status && status ≤ 299)
      = some (code == "settlement_pending" || code == "duplicate_settlement") := by decide

theorem ok_eq_false_iff (hcode : code ∈ errorCodes) {status : Nat}
    (hstatus : httpStatusMap.lookup code = some status) (body : Except String Json) :
    HttpResponse.ok ⟨status, body⟩ = false ↔
      code ≠ "settlement_pending" ∧ code ≠ "duplicate_settlement" := by
  have hsuccess := success_iff code hcode
  rw [hstatus, Option.map_some, Option.some.injEq] at hsuccess
  rw [HttpResponse.ok, hsuccess, Bool.or_eq_false_iff, beq_eq_false_iff_ne, beq_eq_false_iff_ne]

/-- The client of the package throws the errors that the handler sends, but for the two whose status is one
of success. -/
theorem package_surfaces_iff (hcode : code ∈ errorCodes) :
    Surfaces Package.received
        (errorReply fallback .counter requestId
          (.facilitator (createError code message correlationId)))
        (createError code message correlationId) ↔
      code ≠ "settlement_pending" ∧ code ≠ "duplicate_settlement" := by
  obtain ⟨status, hstatus, hresponse⟩ :=
    @errorReply_listed fallback requestId code message correlationId hcode
  have hok := ok_eq_false_iff hcode hstatus (.ok (toErrorResponse (createError code message correlationId)))
  rw [hresponse, ← hok, Surfaces]
  simp only [Package.received]
  cases hstatusOk : HttpResponse.ok
      ⟨status, .ok (toErrorResponse (createError code message correlationId))⟩ with
  | true => simp [surfaced]
  | false =>
      refine ⟨fun _ => rfl, fun _ => ⟨.api (Package.apiError
        (toErrorResponse (createError code message correlationId)) status), ?_, package_carries _ _⟩⟩
      simp only [Bool.false_eq_true, if_false, Package.receivedRefusal, decodeRefusal_error]
      split <;> rfl

/-- A body without a code on its top level is an unknown error to the bundled client. -/
theorem bundled_unknown_of_no_code {body : Json} {raised : ClientError}
    (hbody : body.field? "code" = none)
    (h : surfaced (Bundled.received (.ok ⟨500, .ok body⟩)) = some raised) :
    ∀ code, raised.code? = some code → code = .str "unknown_error" := by
  have hrefused : Bundled.received (.ok ⟨500, .ok body⟩) = Bundled.receivedRefusal 500 body := rfl
  intro code hcode
  rw [hrefused] at h
  cases body with
  | null =>
      obtain rfl := Option.some.inj h
      cases hcode
  | _ =>
      simp only [Bundled.receivedRefusal] at h
      split at h <;>
      · obtain rfl := Option.some.inj h
        simp only [ClientError.code?, Bundled.apiError, hbody, orElse, Option.some.injEq] at hcode
        exact hcode.symm

/-- No error of the server survives the wire to both clients, also where the handler throws and the
framework replies: an error without a code has none in its body. -/
theorem error_never_survives (hcode : code ∈ errorCodes)
    (hbody : errorsTotal = .undefined → (fallback undefinedInc).field? "code" = none) :
    ¬ ErrorSurvives
      (errorReply fallback errorsTotal requestId (.facilitator (createError code message correlationId)))
      (createError code message correlationId) := by
  rintro ⟨-, ⟨raised, hraised, hcarries⟩, -⟩
  have hread : raised.code? = some (.str "unknown_error") := by
    cases errorsTotal with
    | undefined =>
        rw [errorReply_undefined] at hraised
        rw [hcarries.code, bundled_unknown_of_no_code (hbody rfl) hraised _ hcarries.code]
    | counter =>
        obtain ⟨status, -, hresponse⟩ :=
          @errorReply_listed fallback requestId code message correlationId hcode
        rw [hresponse] at hraised
        exact (bundled_unknown hraised).1
  rw [hcarries.code] at hread
  obtain hname : code = "unknown_error" := by simpa [createError] using hread
  rw [hname] at hcode
  exact absurd hcode (by decide)

/-- The body that the framework makes of an error. -/
def frameworkBody (error : Err) : Json :=
  .obj [("statusCode", .num (.int 500)), ("error", .str "Internal Server Error"),
    ("message", .str error.message)]

theorem error_never_survives_duplicate : "duplicate_payment" ∈ errorCodes ∧
    ∀ errorsTotal, ¬ ErrorSurvives
      (errorReply frameworkBody errorsTotal "req-1"
        (.facilitator (createError "duplicate_payment" none (some "req_1"))))
      (createError "duplicate_payment" none (some "req_1")) :=
  ⟨by decide, fun _ => error_never_survives (by decide) fun _ => rfl⟩

/-- The server refuses a replayed payment, and the bundled client throws an unknown error. -/
theorem duplicate_unknown : ¬ ErrorSurvives
    (errorReply frameworkBody .counter "req-1"
      (.facilitator (createError "duplicate_payment" none (some "req_1"))))
    (createError "duplicate_payment" none (some "req_1")) := by
  rintro ⟨-, ⟨raised, hraised, hcarries⟩, -⟩
  obtain rfl := Option.some.inj hraised
  have hcode := hcarries.code
  simp [ClientError.code?, Bundled.apiError, createError, orElse, toErrorResponse, Json.field?,
    List.lookup_cons] at hcode

/-! ### The settle request -/

/-- The answer of `POST /verify` to a body it accepts. -/
def acceptedJson (result : VerifyAccepted) : Json :=
  .obj
    [("requestId", .str result.requestId), ("status", .str "accepted"),
      ("verificationId", .str result.verificationId),
      ("paymentRequestId", .str result.paymentRequestId), ("network", .str result.network),
      ("asset", .str result.asset), ("amount", .str result.amount), ("from", .str result.from),
      ("to", .str result.to), ("invoiceId", .str result.invoiceId),
      ("expiresAt", .str result.expiresAt), ("verifiedAt", .str result.verifiedAt)]

def acceptedResponse (result : VerifyAccepted) : HttpResponse := ⟨200, .ok (acceptedJson result)⟩

/-- A program whose first request has been answered. -/
def answered {α : Type} (response : HttpResponse) : ClientProgram α → ClientProgram α
  | .perform _ next => next (.ok response)
  | program => program

/-- `pay` sends the proof, and when it is told of the verification its next request settles what was
verified: the request passes the schema, with both ids. -/
def SettlesVerified {α : Type} (pay : ClientProgram α) (proof : Json) (result : VerifyAccepted) : Prop :=
  pay.next? = some (verifyRequest proof) ∧
    ∃ http body opts, (answered (acceptedResponse result) pay).next? = some http ∧
      http.method = "POST" ∧ http.path = "/settle" ∧ http.body = some body ∧
      parseSettleBody body = .ok opts ∧ opts.requestId = result.requestId ∧
      opts.verificationId = result.verificationId

/-- A body with a request id and nothing else does not pass. -/
theorem parseSettleBody_settleBody (requestId : Option Json) :
    ∃ issues, parseSettleBody (settleBody requestId) = .error issues := by
  have hmissing : checkBounded "verificationId" 1 128 none = .error [⟨"verificationId", "Required"⟩] :=
    rfl
  cases requestId with
  | none => exact ⟨_, rfl⟩
  | some json =>
      cases hid : checkBounded "requestId" 1 128 (some json) with
      | error issues =>
          refine ⟨issues ++ [⟨"verificationId", "Required"⟩], ?_⟩
          simp [parseSettleBody, checkNested, checkObject, settleBody, parseSettleFields, List.lookup_cons,
            hid, hmissing, Checked.both, checkOptional, Except.map]
      | ok text =>
          refine ⟨[⟨"verificationId", "Required"⟩], ?_⟩
          simp [parseSettleBody, checkNested, checkObject, settleBody, parseSettleFields, List.lookup_cons,
            hid, hmissing, Checked.both, checkOptional, Except.map]

/-- A request is sent, and a success ends it. -/
theorem request_answered (received : Except ClientError HttpResponse → Received) (http : HttpRequest)
    (attempts : Nat) : ∃ next, request received http attempts = .perform http next ∧
      ∀ response json, received (.ok response) = .done json → next (.ok response) = .ret json := by
  cases attempts with
  | zero =>
      refine ⟨_, rfl, fun response json hreceived => ?_⟩
      simp only [Program.attempt, Program.bind, hreceived]
  | succ attempts =>
      refine ⟨_, rfl, fun response json hreceived => ?_⟩
      simp only [Program.attempt, Program.bind, hreceived]

section Pay

variable {α : Type} {kind : ClientKind} {attempts : Nat} {proof : Json} {result : VerifyAccepted}
  {settled : Option Json → Option Json → ClientProgram α}

/-- What a client sends after the answer to its verify request, when it takes a success for one. -/
theorem next?_answered
    (hreceived : kind.received (.ok (acceptedResponse result)) = .done (some (acceptedJson result))) :
    (answered (acceptedResponse result) ((payVerify kind attempts proof).bind fun verify =>
      (paySettle kind attempts verify).bind (settled verify))).next?
        = some (settleRequest (some (.str result.requestId))) := by
  obtain ⟨next, hverify, hnext⟩ := request_answered kind.received (verifyRequest proof) attempts
  obtain ⟨next', hsettle, -⟩ :=
    request_answered kind.received (settleRequest (some (.str result.requestId))) attempts
  have hstatus : readField "status" (some (acceptedJson result)) = .ok (some (.str "accepted")) := by
    simp [readField, acceptedJson, Json.field?, List.lookup_cons]
  have hid : readField "requestId" (some (acceptedJson result))
      = .ok (some (.str result.requestId)) := by
    simp [readField, acceptedJson, Json.field?]
  rw [payVerify, hverify]
  show ((next (.ok (acceptedResponse result))).bind _ |>.bind _).next? = _
  rw [hnext _ _ hreceived]
  simp only [Program.bind, hstatus]
  show ((paySettle kind attempts (some (acceptedJson result))).bind _).next? = _
  rw [paySettle, hid]
  show ((request _ (settleRequest (some (.str result.requestId))) _).bind _).next? = _
  rw [hsettle]
  rfl

/-- Neither client ever settles what was verified: its request has no id of the verification. -/
theorem not_settlesVerified {pay : ClientProgram α}
    (hnext : (answered (acceptedResponse result) pay).next?
      = some (settleRequest (some (.str result.requestId)))) : ¬ SettlesVerified pay proof result := by
  rintro ⟨-, http, body, opts, hsent, -, -, hbody, hparse, -⟩
  obtain rfl := Option.some.inj (hnext.symm.trans hsent)
  obtain rfl : settleBody (some (.str result.requestId)) = body := Option.some.inj hbody
  obtain ⟨issues, hissues⟩ := parseSettleBody_settleBody (some (.str result.requestId))
  rw [hissues] at hparse
  cases hparse

end Pay

theorem package_received_accepted (result : VerifyAccepted) :
    Package.received (.ok (acceptedResponse result)) = .done (some (acceptedJson result)) := rfl

theorem bundled_received_accepted (result : VerifyAccepted) :
    Bundled.received (.ok (acceptedResponse result)) = .done (some (acceptedJson result)) := rfl

/-- Whatever was verified, the settle request that either client sends next does not pass the schema. -/
theorem pay_never_settles_verified (print : Json → String) (attempts : Nat) (proof : Json)
    (result : VerifyAccepted) :
    ¬ SettlesVerified (Package.pay print attempts proof) proof result ∧
      ¬ SettlesVerified (Bundled.pay print attempts proof) proof result :=
  ⟨not_settlesVerified (@next?_answered _ (Package.kind print) attempts proof result _
      (package_received_accepted result)),
    not_settlesVerified (@next?_answered _ (Bundled.kind print) (attempts - 1) proof result _
      (bundled_received_accepted result))⟩

/-- The route is sent a proof. -/
def verifyStart (proof : Json) : Config (machine Unit ⟨false, false⟩) VerifyResponse where
  world := seededWorld Unit
  calls _ := verifyRoute sampleImports proof
  history := []

/-- What a call of the route has accepted. -/
def verified? : Option (Except Err VerifyResponse) → Option VerifyAccepted
  | some (.ok (.accepted result)) => some result
  | _ => none

theorem eq_accepted_of_verified? {reply : Option (Except Err VerifyResponse)} {result : VerifyAccepted}
    (h : verified? reply = some result) : reply = some (.ok (.accepted result)) := by
  rcases reply with _ | error | answer
  · cases h
  · cases h
  · cases answer with
    | accepted result' =>
        obtain rfl := Option.some.inj h
        rfl
    | rejected => cases h

/-- A payment is verified, and the settle request of either client is refused. -/
theorem verified_never_settled : ∃ cfg result,
    Config.Reachable Config.anyStep (verifyStart (Payment.spelledPayment false).toJson) cfg ∧
      (cfg.calls ()).result? = some (.ok (.accepted result)) ∧
      ¬ SettlesVerified (Package.pay (fun _ => "") Package.defaultRetries
        (Payment.spelledPayment false).toJson) (Payment.spelledPayment false).toJson result ∧
      ¬ SettlesVerified (Bundled.pay (fun _ => "") Bundled.defaultMaxRetries
        (Payment.spelledPayment false).toJson) (Payment.spelledPayment false).toJson result := by
  obtain ⟨cfg, hreach, hended⟩ := Config.exists_reachable_of_run
    (show ((verifyStart (Payment.spelledPayment false).toJson).run
      ([.call () (.text "req-0")] ++ acceptMoves () "ver-0" ++ [.call () (.fate .done)])).map (fun cfg =>
        (verified? (cfg.calls ()).result?).isSome) = some true by
          simp only [verifyStart, verifyRoute, verifyNotified, runVerify_toJson]
          decide +kernel)
  obtain ⟨result, hresult⟩ := Option.isSome_iff_exists.mp hended
  exact ⟨cfg, result, hreach, eq_accepted_of_verified? hresult,
    not_settlesVerified (@next?_answered _ (Package.kind _) _ _ result _
      (package_received_accepted result)),
    not_settlesVerified (@next?_answered _ (Bundled.kind _) _ _ result _
      (bundled_received_accepted result))⟩

end FacilitatorX402.Sdk
