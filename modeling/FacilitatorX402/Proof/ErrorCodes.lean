import FacilitatorX402.Infrastructure.Receipts
import FacilitatorX402.Proof.Acceptance

/-!
# Codes that are listed

Every error the three use cases throw has a code that the tables list, but for one: the code of an invalid
payload is in neither table. It is thrown for a body the parser refuses, and for a payment to another
recipient or of too small an amount. The handler would answer all the others, but it counts an error first,
with a counter that the metrics do not export.
-/

namespace FacilitatorX402

open Interact

/-- The code is listed, and the error handler sends a status and a reason for it. -/
def Answered (errorsTotal : ErrorsTotal) (error : FacilitatorError) : Prop :=
  error.code ∈ errorCodes ∧ ∀ requestId, ∃ status reason,
    errorHandler errorsTotal requestId (.facilitator error) = .ok ⟨status, .ok (toErrorResponse error)⟩ ∧
      200 ≤ status ∧ status ≤ 599 ∧ error.reason = some reason

/-- Without the counter the handler answers no error at all. -/
theorem Answered.counter {errorsTotal : ErrorsTotal} {error : FacilitatorError}
    (h : Answered errorsTotal error) : errorsTotal = .counter := by
  cases errorsTotal with
  | undefined =>
      obtain ⟨status, reason, hreply, -⟩ := h.2 ""
      rw [errorHandler_undefined] at hreply
      cases hreply
  | counter => rfl

theorem httpStatus_bounds : ∀ code ∈ errorCodes, ∀ status ∈ httpStatusMap.lookup code,
    200 ≤ status ∧ status ≤ 599 := by
  decide

theorem answered_createError {code : String} (hcode : code ∈ errorCodes)
    (message correlationId : Option String) :
    Answered .counter (createError code message correlationId) := by
  refine ⟨hcode, fun requestId => ?_⟩
  obtain ⟨status, hstatus, hresponse⟩ :=
    @errorHandler_listed requestId code message correlationId hcode
  obtain ⟨reason, hreason⟩ :=
    Option.isSome_iff_exists.mp (lookup_isSome_of_mem_errorCodes code hcode).2
  obtain ⟨hlow, hhigh⟩ := httpStatus_bounds code hcode status hstatus
  exact ⟨status, reason, hresponse, hlow, hhigh, hreason⟩

/-- An error of a use case is answered where it is counted; one that something else raised is not its
own. -/
def AnsweredErr : Err → Prop
  | .facilitator error => Answered .counter error
  | .raised _ => True

theorem answeredErr_facilitatorError {code : String} (hcode : code ∈ errorCodes) (message : String)
    (correlationId : Option String) : AnsweredErr (facilitatorError code message correlationId) :=
  answered_createError hcode _ _

theorem not_answered_invalid_payload (errorsTotal : ErrorsTotal) (message correlationId : Option String) :
    ¬Answered errorsTotal (createError "invalid_payload" message correlationId) := by
  rintro ⟨hcode, -⟩
  exact absurd hcode (show "invalid_payload" ∉ errorCodes by decide)

namespace Payment

section Throws

variable {host : Host} {network : NetworkConfig} {asset : FoundAsset} {req : VerifyRequest}

theorem throws_op (op : Op) : op.call.Throws AnsweredErr := Program.throws_call (I := interface) op

theorem throws_redis (command : KeyStore.Op Key) :
    (redis (Program.call (I := KeyStore.interface Key) command)).Throws AnsweredErr :=
  (Program.throws_call (I := KeyStore.interface Key) command).lift redisHom

theorem throws_releaseClaims (nonce signatureHash : String) :
    (releaseClaims nonce signatureHash).Throws AnsweredErr :=
  (throws_redis _).bind fun _ => throws_redis _

theorem throws_claimPayment (nonce signatureHash requestId : String) :
    (claimPayment nonce signatureHash requestId).Throws AnsweredErr := by
  apply (throws_redis _).bind
  intro nonceClaimed
  split
  · apply (throws_redis _).bind
    intro sigClaimed
    split
    · trivial
    · exact (throws_redis _).bind fun _ => answeredErr_facilitatorError (by decide) _ _
  · exact answeredErr_facilitatorError (by decide) _ _

theorem throws_checkSigner (signatureHash requestId : String) :
    (checkSigner host network asset req signatureHash requestId).Throws AnsweredErr := by
  simp only [checkSigner]
  split
  · exact (throws_releaseClaims _ _).bind fun _ => answeredErr_facilitatorError (by decide) _ _
  · split
    · exact (throws_releaseClaims _ _).bind fun _ => answeredErr_facilitatorError (by decide) _ _
    · trivial

theorem throws_persist (requestId signatureHash : String) (verifiedAt : Nat) :
    ((persistVerified host req requestId signatureHash verifiedAt).tryCatch fun _ => do
      releaseClaims req.auth.nonce.text signatureHash
      .throw (.facilitator (createError "internal_error" none (some requestId)))).Throws AnsweredErr := by
  apply Program.throws_tryCatch
  intro error
  exact (throws_releaseClaims _ _).bind fun _ => answered_createError (by decide) _ _

/-- After the checks nothing unlisted is thrown. -/
theorem throws_claimed (requestId : String) :
    (do
      claimPayment req.auth.nonce.text (computeSignatureHash req.payload.signature.text) requestId
      checkSigner host network asset req (computeSignatureHash req.payload.signature.text) requestId
      let verifiedAt ← dateNow
      (persistVerified host req requestId (computeSignatureHash req.payload.signature.text)
        verifiedAt).tryCatch fun _ => do
          releaseClaims req.auth.nonce.text (computeSignatureHash req.payload.signature.text)
          .throw (.facilitator (createError "internal_error" none (some requestId))) :
        PaymentProgram VerifyResult).Throws AnsweredErr := by
  apply (throws_claimPayment _ _ _).bind
  intro claimed
  apply (throws_checkSigner _ _).bind
  intro signed
  apply (throws_op .now).bind
  intro verifiedAt
  exact throws_persist _ _ _

theorem throws_settleFailure (settleRequest : SettleRequest) (settlementId : String) :
    (settleFailure settleRequest settlementId).Throws AnsweredErr := by
  apply (throws_op (.failSettlement settlementId)).bind
  intro failed
  exact (throws_redis _).bind fun _ => answeredErr_facilitatorError (by decide) _ _

theorem throws_settlePayment (deps : SettleDeps) (settleRequest : SettleRequest) :
    (settlePayment deps settleRequest).Throws AnsweredErr := by
  apply (throws_op (.findPaymentRequest _)).bind
  rintro (_ | ⟨request, _ | ⟨verification, verifications⟩⟩)
  · exact answeredErr_facilitatorError (by decide) _ _
  · exact answeredErr_facilitatorError (by decide) _ _
  apply (throws_op (.findConfirmedSettlement _)).bind
  rintro (_ | ⟨existing, receipt⟩)
  · apply (throws_redis _).bind
    intro locked
    split
    · apply (throws_op .generateId).bind
      intro settlementId
      apply (throws_op (.createSettlement _)).bind
      intro created
      apply Program.Throws.tryFinally
      · exact Program.throws_tryCatch fun _ => throws_settleFailure _ _
      · exact Program.throws_ignoreErrors _
    · trivial
  · trivial

/-! ### The code that is not listed -/

/-- The body parses; and where the network and the asset are known and the payment has not expired at the
time read first, the recipient and the amount are as required. -/
def Payable {ι : Type} (registry : NetworkRegistry) (rawBody : Json)
    (events : List (Event interface Err ι)) : Prop :=
  ∃ req, parseVerifyRequest rawBody = .ok req ∧ ∀ network asset nowMs,
    registry req.network = some network → network.asset req.asset = some asset →
    firstReading events = some nowMs → nowMs / 1000 < req.auth.validBefore →
      req.auth.to.bytes = req.recipient.bytes ∧ req.requiredAmount.value ≤ req.auth.value.value

/-- What fails outside of the use case is not one of its errors. -/
def OthersRaise (op : Op) (answer : Except Err (interface.Ans op)) : Prop :=
  ∀ error, answer ≠ .error (.facilitator error)

variable {ι : Type} {who : ι} {registry : NetworkRegistry} {rawBody : Json}
  {events : List (Event interface Err ι)}

/-- The errors of a verification that are answered, given what it has performed. -/
def AnsweredIffPayable (registry : NetworkRegistry) (rawBody : Json)
    (events : List (Event interface Err ι)) (outcome : Except Err VerifyResult) : Prop :=
  ∀ error, outcome = .error (.facilitator error) →
    (Answered .counter error ↔ Payable registry rawBody events)

theorem answeredIffPayable_raised {op : Op} {error : Err}
    (h : OthersRaise op (.error error)) : AnsweredIffPayable registry rawBody events (.error error) := by
  intro error' heq
  obtain rfl := Except.error.inj heq
  exact absurd rfl (h error')

theorem answeredIffPayable_of_listed {code message : String} {correlationId : Option String}
    (hcode : code ∈ errorCodes) (hpayable : Payable registry rawBody events) :
    AnsweredIffPayable registry rawBody events (.error (facilitatorError code message correlationId)) := by
  rintro error heq
  cases heq
  exact ⟨fun _ => hpayable, fun _ => answered_createError hcode _ _⟩

theorem answeredIffPayable_of_unlisted {message : String} {correlationId : Option String}
    (hpayable : ¬Payable registry rawBody events) : AnsweredIffPayable registry rawBody events
      (.error (facilitatorError "invalid_payload" message correlationId)) := by
  rintro error heq
  cases heq
  exact ⟨fun h => absurd h (not_answered_invalid_payload _ _ _), fun h => absurd h hpayable⟩

/-- The checks that need no store throw the unlisted code for the recipient and the amount. -/
theorem answeredIffPayable_checkAuthorization {requestId : String} {nowMs : Nat} {error : Err}
    (hparse : parseVerifyRequest rawBody = .ok req) (hsupported : registry req.network = some network)
    (hlisted : network.asset req.asset = some asset) (hreading : firstReading events = some nowMs)
    (h : checkAuthorization req requestId (nowMs / 1000) = .error error) :
    AnsweredIffPayable registry rawBody events (.error error) := by
  have hreq : ∀ req', parseVerifyRequest rawBody = .ok req' → req' = req := fun req' hparse' =>
    Except.ok.inj (hparse'.symm.trans hparse)
  unfold checkAuthorization at h
  dsimp only at h
  split at h
  · rename_i hexpired
    split at h
    · obtain rfl := Except.error.inj h
      rintro error heq
      cases heq
    · obtain rfl := Except.error.inj h
      apply answeredIffPayable_of_listed (by decide)
      refine ⟨req, hparse, fun _ _ nowMs' _ _ hreading' hbefore => ?_⟩
      obtain rfl := Option.some.inj (hreading.symm.trans hreading')
      omega
  · rename_i hbefore
    split at h
    · rename_i hrecipient
      obtain rfl := Except.error.inj h
      apply answeredIffPayable_of_unlisted
      rintro ⟨req', hparse', hpayable⟩
      obtain rfl := hreq req' hparse'
      have hbytes := (hpayable network asset nowMs hsupported hlisted hreading (by omega)).1
      exact hrecipient ((HexString.lower_eq_iff _ _).mpr hbytes)
    · split at h
      · rename_i hamount
        obtain rfl := Except.error.inj h
        apply answeredIffPayable_of_unlisted
        rintro ⟨req', hparse', hpayable⟩
        obtain rfl := hreq req' hparse'
        have henough := (hpayable network asset nowMs hsupported hlisted hreading (by omega)).2
        omega
      · cases h

theorem answered_verifyChecked {requestId : String} (hparse : parseVerifyRequest rawBody = .ok req)
    (hsupported : registry req.network = some network)
    (hlisted : network.asset req.asset = some asset) (hnone : firstReading events = none) :
    (verifyChecked host network asset req requestId).Sat (traced who OthersRaise) events
      (AnsweredIffPayable registry rawBody) := by
  rw [verifyChecked, dateNow, Program.sat_bind', sat_op]
  refine ⟨trivial, ?_⟩
  rintro (error | nowMs) _ ⟨hraised, rfl⟩
  · exact answeredIffPayable_raised hraised
  have hreading : firstReading ((⟨who, .now, .ok nowMs⟩ : Event interface Err ι) :: events)
      = some nowMs := by
    rw [firstReading, hnone]
    rfl
  rw [Program.thenSat_ok, Program.sat_bind', Program.sat_ofExcept]
  cases hcheck : checkAuthorization req requestId (nowMs / 1000) with
  | error error =>
      exact answeredIffPayable_checkAuthorization hparse hsupported hlisted hreading hcheck
  | ok checked =>
      obtain ⟨-, hrecipient, hamount⟩ := of_checkAuthorization hcheck
      have hadmits : ∀ (op : Op) (answer : Except Err (interface.Ans op)), OthersRaise op answer →
          ∀ error, answer = .error error → AnsweredErr error := by
        rintro op answer hraised (error | message) heq
        · exact absurd heq (hraised error)
        · trivial
      rw [Program.thenSat_ok]
      refine ((throws_claimed requestId).sat hadmits _).mono ?_
      intro events' outcome hthrown error heq
      refine ⟨fun _ => ⟨req, hparse, fun _ _ _ _ _ _ _ => ?_⟩, fun _ => hthrown _ heq⟩
      exact ⟨(HexString.lower_eq_iff _ _).mp hrecipient, hamount⟩

theorem answered_verifyPayment (host : Host) (registry : NetworkRegistry) (rawBody : Json) :
    (verifyPayment host registry rawBody).Sat (traced who OthersRaise) []
      (AnsweredIffPayable registry rawBody) := by
  unfold verifyPayment
  cases hparse : parseVerifyRequest rawBody with
  | error issues =>
      apply answeredIffPayable_of_unlisted
      rintro ⟨req, hparse', -⟩
      rw [hparse] at hparse'
      cases hparse'
  | ok req =>
      change (verifyParsed host registry req).Sat _ _ _
      rw [verifyParsed, generateUlid, Program.sat_bind', sat_op]
      refine ⟨trivial, ?_⟩
      rintro (error | requestId) _ ⟨hraised, rfl⟩
      · exact answeredIffPayable_raised hraised
      rw [Program.thenSat_ok]
      split
      · rename_i hunsupported
        apply answeredIffPayable_of_listed (by decide)
        refine ⟨req, hparse, fun network _ _ hsupported => ?_⟩
        rw [hunsupported] at hsupported
        cases hsupported
      · rename_i network hsupported
        split
        · rename_i hunlisted
          apply answeredIffPayable_of_listed (by decide)
          refine ⟨req, hparse, fun network' asset _ hsupported' hlisted => ?_⟩
          obtain rfl := Option.some.inj (hsupported.symm.trans hsupported')
          rw [hunlisted] at hlisted
          cases hlisted
        · rename_i asset hlisted
          exact answered_verifyChecked hparse hsupported hlisted rfl

end Throws

section Runs

variable {ι : Type} {faults : Faults} [DecidableEq ι]

/-- Only the use cases throw errors of this kind. -/
def othersRaise {α : Type} (_ : Config (machine ι faults) α) (event : Event interface Err ι) : Prop :=
  OthersRaise event.op event.answer

/-- **Which errors are answered.** In every run, an error that a verification throws has a listed code
and is answered under it if and only if it is counted and the payment is payable; those of settlements and
of receipts always are where they are counted. Without the counter none is. -/
theorem errors_answered_iff (errorsTotal : ErrorsTotal) (host : Host) (registry : NetworkRegistry)
    (deps : SettleDeps) :
    (∀ (start cfg : Config (machine ι faults) VerifyResult) (who : ι) (rawBody : Json)
      (error : FacilitatorError), start.calls who = verifyPayment host registry rawBody →
      start.NotStarted who → Config.Reachable othersRaise start cfg →
      (cfg.calls who).result? = some (.error (.facilitator error)) →
        (Answered errorsTotal error ↔
          errorsTotal = .counter ∧ Payable registry rawBody (cfg.eventsOf who))) ∧
    (∀ (start cfg : Config (machine ι faults) SettleReply) (who : ι) (settleRequest : SettleRequest)
      (error : FacilitatorError), start.calls who = settlePayment deps settleRequest →
      start.NotStarted who → Config.Reachable othersRaise start cfg →
      (cfg.calls who).result? = some (.error (.facilitator error)) →
        (Answered errorsTotal error ↔ errorsTotal = .counter)) ∧
    ∀ (print : Json → String) (id : String) (found : Option FoundReceipt) (error : FacilitatorError),
      getReceiptById print id found = .error (.facilitator error) →
        (Answered errorsTotal error ↔ errorsTotal = .counter) := by
  refine ⟨?_, ?_, ?_⟩
  · intro start cfg who rawBody error hcall hbegin hreach hthrown
    have hsat : (start.calls who).Sat (traced who OthersRaise) (start.eventsOf who)
        (AnsweredIffPayable registry rawBody) := by
      rw [hcall, Config.eventsOf_of_notStarted hbegin]
      exact answered_verifyPayment host registry rawBody
    have hiff := hreach.traced_result (fun _ _ _ _ _ _ hgood => hgood) hsat hthrown error rfl
    refine ⟨fun h => ⟨h.counter, hiff.mp (h.counter ▸ h)⟩, ?_⟩
    rintro ⟨rfl, hpayable⟩
    exact hiff.mpr hpayable
  · intro start cfg who settleRequest error hcall hbegin hreach hthrown
    have hadmits : ∀ (op : Op) (answer : Except Err (interface.Ans op)), OthersRaise op answer →
        ∀ error, answer = .error error → AnsweredErr error := by
      rintro op answer hraised (error | message) heq
      · exact absurd heq (hraised error)
      · trivial
    have hsat : (start.calls who).Sat (traced who OthersRaise) (start.eventsOf who)
        fun _ outcome => ∀ error, outcome = .error error → AnsweredErr error := by
      rw [hcall]
      exact (throws_settlePayment deps settleRequest).sat hadmits _
    refine ⟨Answered.counter, ?_⟩
    rintro rfl
    exact hreach.traced_result (fun _ _ _ _ _ _ hgood => hgood) hsat hthrown _ rfl
  · intro print id found error h
    refine ⟨Answered.counter, ?_⟩
    rintro rfl
    cases found with
    | none =>
        cases h
        exact answered_createError (by decide) _ _
    | some receipt => cases h

end Runs

/-! ### A refused body, and a payment that is not supported -/

section Samples

/-- A call with a body that is no object. -/
def refusedStart : Config (machine Unit ⟨false, false⟩) VerifyResult where
  world := emptyWorld _
  calls _ := verifyPayment trustingHost baseRegistry .null
  history := []

def thrownBy (cfg : Config (machine Unit ⟨false, false⟩) VerifyResult) : Option FacilitatorError :=
  match (cfg.calls ()).result? with
  | some (.error (.facilitator error)) => some error
  | _ => none

theorem result?_of_thrownBy {cfg : Config (machine Unit ⟨false, false⟩) VerifyResult}
    {error : FacilitatorError} (h : thrownBy cfg = some error) :
    (cfg.calls ()).result? = some (.error (.facilitator error)) := by
  unfold thrownBy at h
  split at h
  · rename_i hresult
    rw [hresult, Option.some.inj h]
  · cases h

/-- The error handler has no status for a body that the parser refuses. As the metrics stand, it does not
answer the listed error of a receipt that is not there either. -/
theorem refused_unanswered :
    (∃ error, (refusedStart.calls ()).result? = some (.error (.facilitator error)) ∧
      error.code = "invalid_payload" ∧ ∀ errorsTotal, ¬Answered errorsTotal error) ∧
    ∃ error, getReceiptById (fun _ => "") "nope" none = .error (.facilitator error) ∧
      error.code ∈ errorCodes ∧ ¬Answered .exported error := by
  constructor
  · obtain ⟨error, hthrown, hcode⟩ := (Option.any_eq_true _ _).mp
      (show (thrownBy refusedStart).any (fun error => error.code = "invalid_payload") = true by
        decide +kernel)
    refine ⟨error, result?_of_thrownBy hthrown, of_decide_eq_true hcode, fun errorsTotal h => ?_⟩
    have hlisted := h.1
    rw [of_decide_eq_true hcode] at hlisted
    exact absurd hlisted (by decide)
  · refine ⟨_, rfl, by decide, fun h => ?_⟩
    cases h.counter

/-- A registry that knows no network. -/
def noNetworks : NetworkRegistry := fun _ => none

def unsupportedStart : Config (machine Unit ⟨false, false⟩) VerifyResult where
  world := emptyWorld _
  calls _ := verifyParsed trustingHost noNetworks (firstPayment 0)
  history := []

theorem unsupported_answered : ∃ error, error.code = "unsupported_network" ∧ Answered .counter error := by
  have hexec : (machine Unit ⟨false, false⟩).exec () unsupportedStart.world .generateId (.text "req-0")
      = some (.ok "req-0", unsupportedStart.world) := rfl
  have hreach : Config.Reachable othersRaise unsupportedStart
      (unsupportedStart.perform () .generateId _ (.ok "req-0") unsupportedStart.world) :=
    .single (.call rfl hexec fun error heq => by cases heq)
  have hiff := (errors_answered_iff .counter trustingHost noNetworks sampleDeps).1 _ _ ()
    (firstPayment 0).toJson _ (verifyPayment_toJson trustingHost noNetworks (firstPayment 0)).symm
    (fun event hevent => absurd hevent List.not_mem_nil) hreach rfl
  refine ⟨_, rfl, hiff.mpr ⟨rfl, _, parseVerifyRequest_toJson _, fun network asset nowMs hsupported => ?_⟩⟩
  cases hsupported

end Samples

end Payment

end FacilitatorX402
