import FacilitatorX402.Library.Trace
import FacilitatorX402.Proof.HeaderTransport
import FacilitatorX402.Proof.TransferTrail

/-!
# The payment gate of the client library

The middleware never compares a proof with what it asks for. The facilitator checks the proof against
the requirements the proof itself states, so a request is let through for whatever payment its header
carries, once that payment is settled.
-/

namespace FacilitatorX402

open Interact

namespace Service

/-- The payment is what the middleware offers to accept: the asset, the network, the wallet, and at
least the amount. -/
structure Covers (opts : MiddlewareOptions) (req : MiddlewareRequest) (body : VerifyRequest) :
    Prop where
  network : body.network = opts.network
  asset : body.asset = opts.asset
  amount : decimalValue opts.amount ≤ body.auth.value.value
  payTo : body.auth.to.lower = HexText.lowerCase req.payTo

/-- The payment in the header. -/
def Carries (client : X402Client) (req : MiddlewareRequest) (body : VerifyRequest) : Prop :=
  ∃ header proof, req.paymentHeader = some header ∧ client.decodeHeader header = .ok proof ∧
    parseVerifyRequest proof = .ok body

section Settled

variable {ι : Type} {faults : Faults}

/-- The call that let a request through has had the payment of its header settled: the request and the
verification it was told of are in the tables, the settlement it was told of is confirmed, and the
transaction of that settlement is a transfer the call has broadcast under the authorization of the
payment. -/
structure SettledPayment (imports : Imports) (client : X402Client) (req : MiddlewareRequest) (who : ι)
    (cfg : Config (machine ι faults) MiddlewareReply) (paid : PaidRequest) (body : VerifyRequest) : Prop where
  carried : Carries client req body
  requested : ∃ networkId,
    paymentRequestRow body paid.verified.requestId networkId ∈ cfg.world.db.requests
  verified : verificationRow ⟨.accepted, none, none⟩ paid.verified.verificationId paid.verified.requestId
    (hashSignature imports.host body.payload.signature.text) body.auth.nonce.text
      ∈ cfg.world.db.verifications
  settled : ∃ result settlement txHash transfer, paid.settled = some result ∧
    settlement ∈ cfg.world.db.settlements ∧ settlement.id = result.settlementId ∧
    settlement.requestId = paid.verified.requestId ∧ settlement.settlementStatus = .confirmed ∧
    settlement.txHash = some txHash ∧ result.txHash = some txHash ∧
    ⟨who, .chain (.writeContract transfer), .ok txHash⟩ ∈ cfg.history ∧ Authorizes body.auth transfer

end Settled

/-- Whatever the other calls do, whatever fails, whichever signatures are genuine and whatever the header: a
request is let through only if the payment that was settled for it covers the offer. -/
def KeepsOffer (opts : MiddlewareOptions) (sellerWallet : Option String) : Prop :=
  ∀ (ι : Type) [DecidableEq ι] (faults : Faults) (imports : Imports) (client : X402Client) (header : String)
    (who : ι) (start cfg : Config (machine ι faults) MiddlewareReply),
    start.history = [] → start.calls who = expressMiddleware imports client opts ⟨some header, sellerWallet⟩ →
    Config.Reachable Config.anyStep start cfg → ∀ paid, (cfg.calls who).result? = some (.ok (.next paid)) →
    ∀ body, SettledPayment imports client ⟨some header, sellerWallet⟩ who cfg paid body →
      Covers opts ⟨some header, sellerWallet⟩ body

section Gate

variable {ι : Type} {who : ι} {imports : Imports} {client : X402Client} {opts : MiddlewareOptions}

/-- Every operation and every answer is possible. -/
abbrev anything (who : ι) : Protocol interface Err (List (Event interface Err ι)) :=
  traced who fun _ _ => True

theorem sat_runVerify_accepted (raw : Json) (requestId : String)
    (events : List (Event interface Err ι)) :
    (runVerify imports raw requestId).Sat (anything who) events fun _ outcome =>
      ∀ result, outcome = .ok (.accepted result) →
        ∃ body, parseVerifyRequest raw = .ok body ∧ Acceptable imports body := by
  apply ((sat_runVerify raw requestId).to_traced _ events).mono
  · rintro _ outcome ⟨stage, hpost⟩ result hresult
    obtain ⟨body, row, hparse, hacceptable, -⟩ := hpost result hresult
    exact ⟨body, hparse, hacceptable⟩
  · exact fun stage op answer _ => ⟨stage.next op answer, rfl⟩

theorem sat_verifyRoute_accepted (raw : Json) (events : List (Event interface Err ι)) :
    (verifyRoute imports raw).Sat (anything who) events fun _ outcome =>
      ∀ result, outcome = .ok (.accepted result) →
        ∃ body, parseVerifyRequest raw = .ok body ∧ Acceptable imports body := by
  have hnotified : ∀ requestId (events : List (Event interface Err ι)),
      (verifyNotified imports raw requestId).Sat (anything who) events fun _ outcome =>
        ∀ result, outcome = .ok (.accepted result) →
          ∃ body, parseVerifyRequest raw = .ok body ∧ Acceptable imports body := by
    intro requestId events
    rw [verifyNotified, Program.sat_bind']
    apply (sat_runVerify_accepted raw requestId events).mono
    rintro events (error | accepted | rejected) hpost
    · intro result hresult
      cases hresult
    · have hbody := hpost accepted rfl
      exact Program.sat_traced _ events fun _ _ _ _ => hbody
    · intro result hresult
      cases hresult
  rw [verifyRoute, ulid, Program.sat_bind', sat_op]
  refine ⟨trivial, ?_⟩
  rintro (error | requestId) events -
  · intro result hresult
    cases hresult
  rw [Program.thenSat_ok, Program.sat_tryCatch]
  apply (hnotified requestId events).mono
  rintro events (error | response) hpost
  · change Program.Sat _ _ _ _
    rw [dateNow, Program.sat_bind', sat_op]
    refine ⟨trivial, ?_⟩
    rintro (error | rejectedAt) events - result hresult <;> cases hresult
  · exact hpost

theorem sat_expressMiddleware_next (req : MiddlewareRequest)
    (events : List (Event interface Err ι)) :
    (expressMiddleware imports client opts req).Sat (anything who) events fun _ outcome =>
      ∀ paid, outcome = .ok (.next paid) → ∃ body, Carries client req body ∧ Acceptable imports body := by
  simp only [expressMiddleware]
  split
  · rw [offerPayment, Program.sat_bind']
    apply Program.sat_traced _ events
    rintro events (error | invoiceId) paid hpaid <;> cases hpaid
  rename_i hheader
  obtain ⟨header, hsome⟩ : ∃ header, req.paymentHeader = some header := by
    cases hcase : req.paymentHeader with
    | none => exact absurd (by rw [hcase]; rfl) hheader
    | some header => exact ⟨header, rfl⟩
  rw [Program.sat_tryCatch, admitPayment, Program.sat_bind', Program.sat_ofExcept]
  cases hdecode : client.decodeHeader (req.paymentHeader.getD "") with
  | error error =>
      intro paid hpaid
      cases hpaid
  | ok proof =>
      rw [hsome, Option.getD_some] at hdecode
      rw [Program.thenSat_ok, verifyAndSettle, Program.sat_bind']
      apply (sat_verifyRoute_accepted proof events).mono
      rintro events (error | accepted | rejected) hpost
      · intro paid hpaid
        cases hpaid
      · obtain ⟨body, hparse, hacceptable⟩ := hpost accepted rfl
        apply Program.sat_traced _ events
        rintro events (error | reply) paid hpaid
        · cases hpaid
        · exact ⟨body, ⟨header, proof, hsome, hdecode, hparse⟩, hacceptable⟩
      · intro paid hpaid
        cases hpaid

variable [DecidableEq ι] {faults : Faults} {start cfg : Config (machine ι faults) MiddlewareReply}

/-- In every run, what is let through is a payment in the header that the facilitator accepts by the
requirements the payment states. -/
theorem carries_of_next {req : MiddlewareRequest}
    (hcall : start.calls who = expressMiddleware imports client opts req)
    (hreach : Config.Reachable Config.anyStep start cfg) {paid : PaidRequest}
    (hnext : (cfg.calls who).result? = some (.ok (.next paid))) :
    ∃ body, Carries client req body ∧ Acceptable imports body := by
  have hsat : (start.calls who).Sat (anything who) (start.eventsOf who) fun _ outcome =>
      ∀ paid, outcome = .ok (.next paid) → ∃ body, Carries client req body ∧ Acceptable imports body := by
    rw [hcall]
    exact sat_expressMiddleware_next req _
  exact hreach.traced_result (fun _ _ _ _ _ _ _ => trivial) hsat hnext paid rfl

omit [DecidableEq ι] in
/-- The options only say whether to settle. -/
theorem admitProof_congr {opts' : MiddlewareOptions} (proof : Json)
    (h : opts.autoSettle = some false ↔ opts'.autoSettle = some false) :
    admitProof imports client opts proof = admitProof imports client opts' proof := by
  simp only [admitProof, verifyAndSettle, settleVerified, h]

end Gate

/-! ### Payments to others -/

section Schedules

open Payment (spelledDigest forgedDigest trustingHost repeatedHex)

theorem isDigit_payee : HexText.isDigit 'c' = true := rfl

/-- Payments of one payer to two payees, under two signatures. -/
def gatePayment (other : Bool) : VerifyRequest :=
  let payment := if other then Payment.forgedPayment true else Payment.spelledPayment false
  let payee : Address := if other then repeatedHex _ 'c' isDigit_payee else payment.recipient
  { payment with
    recipient := payee
    payload := { payment.payload with authorization := { payment.auth with «to» := payee } } }

/-- A deployment where the payer has signed these two. -/
def gateImports : Imports :=
  { sampleImports with
    host :=
      { trustingHost with
        sha256 := fun text =>
          if text = (gatePayment true).payload.signature.text then forgedDigest else spelledDigest false }
    verifyTransferAuthorization := fun auth signature _ _ =>
      let signed := fun other =>
        decide (auth = (gatePayment other).auth ∧ signature = (gatePayment other).payload.signature.text)
      if signed false || signed true then .ok { valid := true, error := none }
      else .ok { valid := false, error := some "Signer does not match" } }

def gateClient : X402Client := .on decimalRuntime none

def gateHeader (other : Bool) : String :=
  String.ofList (paymentHeader decimalRuntime (gatePayment other).toJson)

abbrev OneRequest := Config (machine Unit ⟨false, false⟩) MiddlewareReply

def gateStart (opts : MiddlewareOptions) (sellerWallet : Option String) (other : Bool) : OneRequest where
  world := seededWorld _
  calls _ := expressMiddleware gateImports gateClient opts ⟨some (gateHeader other), sellerWallet⟩
  history := []

/-- The proof is verified, settled and let through. -/
def letThrough : List (Move (machine Unit ⟨false, false⟩)) :=
  [.call () (.text "req-0")] ++ acceptMoves () "ver-0" ++ [.call () (.fate .done)]
    ++ lookups () ++ lockAndSubmit () "set-0" ++ mineAndConfirm () "0x01" "rec-0"
    ++ [.call () (.fate .done)]

/-- What a call let through, if it has. -/
def paid? : Option (Except Err MiddlewareReply) → Option PaidRequest
  | some (.ok (.next paid)) => some paid
  | _ => none

theorem eq_next_of_paid? {reply : Option (Except Err MiddlewareReply)} {paid : PaidRequest}
    (h : paid? reply = some paid) : reply = some (.ok (.next paid)) := by
  unfold paid? at h
  split at h
  · rw [Option.some.inj h]
  · cases h

/-- A transfer that was broadcast, and its transaction. -/
def broadcastOf? : Event interface Err Unit → Option (TransferCall × String)
  | ⟨_, .chain (.writeContract transfer), .ok txHash⟩ => some (transfer, txHash)
  | _ => none

theorem eq_of_broadcastOf? {event : Event interface Err Unit} {transfer : TransferCall} {txHash : String}
    (h : broadcastOf? event = some (transfer, txHash)) :
    event = ⟨(), .chain (.writeContract transfer), .ok txHash⟩ := by
  unfold broadcastOf? at h
  split at h
  · cases h
    rfl
  · cases h

section Gate

variable (opts : MiddlewareOptions) (sellerWallet : Option String) (other : Bool)

theorem prints_gatePayment : decimalRuntime.Prints (gatePayment other).toJson :=
  prints_toJson (by cases other <;> rfl) (by cases other <;> rfl)

theorem respells_gateHeader : Base64.Respells (paymentHeader decimalRuntime (gatePayment other).toJson)
    (gateHeader other).toList := by
  rw [gateHeader, String.toList_ofList]
  exact .refl _

theorem parse_gateHeader : JsonText.parse decimalRuntime.number
    (Webhooks.utf8Text (Webhooks.fromBase64 (gateHeader other))) = some (gatePayment other).toJson := by
  rw [parse_of_respells (prints_gatePayment other) (respells_gateHeader other), kept_toJson]

theorem carries_gatePayment :
    Carries gateClient ⟨some (gateHeader other), sellerWallet⟩ (gatePayment other) := by
  have hdecodes : decodePaymentHeader decimalRuntime (gateHeader other) = .ok (gatePayment other).toJson :=
    decodePaymentHeader_of_some (parse_gateHeader other)
  refine ⟨gateHeader other, (gatePayment other).toJson, rfl, ?_, parseVerifyRequest_toJson _⟩
  simpa only [gateClient, X402Client.on] using hdecodes

/-- Under all options that settle, the middleware makes the requests of the sample options. -/
theorem gateStart_eq (hsettle : opts.autoSettle ≠ some false) :
    gateStart opts sellerWallet other =
      { world := seededWorld _
        calls := fun _ => admitProof gateImports gateClient sampleOptions (gatePayment other).toJson
        history := [] } := by
  have hsame : opts.autoSettle = some false ↔ sampleOptions.autoSettle = some false := by
    simp [hsettle, sampleOptions]
  have hadmits := @expressMiddleware_of_some decimalRuntime (gatePayment other).toJson (gateHeader other)
    gateImports opts none ⟨some (gateHeader other), sellerWallet⟩ rfl
    (ne_empty_of_respells (prints_gatePayment other) (respells_gateHeader other)) (parse_gateHeader other)
  rw [gateStart, gateClient, hadmits, admitProof_congr _ hsame]

/-- What is found at the end of the run. -/
def EndsSettled (other : Bool) (cfg : OneRequest) : Prop :=
  ∃ paid ∈ paid? (cfg.calls ()).result?, ∃ result ∈ paid.settled,
    ∃ settlement ∈ cfg.world.db.settlements, ∃ sent ∈ cfg.history.filterMap broadcastOf?,
      paymentRequestRow (gatePayment other) paid.verified.requestId "net-0" ∈ cfg.world.db.requests ∧
      verificationRow ⟨.accepted, none, none⟩ paid.verified.verificationId paid.verified.requestId
        (hashSignature gateImports.host (gatePayment other).payload.signature.text)
        (gatePayment other).auth.nonce.text ∈ cfg.world.db.verifications ∧
      settlement.id = result.settlementId ∧ settlement.requestId = paid.verified.requestId ∧
      settlement.settlementStatus = .confirmed ∧ settlement.txHash = some sent.2 ∧
      result.txHash = some sent.2 ∧ sent.1.from = (gatePayment other).auth.from.text ∧
      sent.1.value = (gatePayment other).auth.value.value ∧
      sent.1.validBefore = (gatePayment other).auth.validBefore ∧
      sent.1.nonce = (gatePayment other).auth.nonce.text

instance (cfg : OneRequest) : Decidable (EndsSettled other cfg) := by
  unfold EndsSettled
  infer_instance

theorem settledPayment_of_endsSettled {cfg : OneRequest} (h : EndsSettled other cfg) :
    ∃ paid, (cfg.calls ()).result? = some (.ok (.next paid)) ∧
      SettledPayment gateImports gateClient ⟨some (gateHeader other), sellerWallet⟩ () cfg paid
        (gatePayment other) := by
  obtain ⟨paid, hpaid, result, hresult, settlement, hsettlement, ⟨transfer, txHash⟩, hsent, hrequest,
    hverification, hid, hrequestId, hstatus, htxHash, htold, hfrom, hvalue, hbefore, hnonce⟩ := h
  obtain ⟨event, hevent, hbroadcast⟩ := List.mem_filterMap.mp hsent
  rw [eq_of_broadcastOf? hbroadcast] at hevent
  exact ⟨paid, eq_next_of_paid? hpaid, carries_gatePayment sellerWallet other, ⟨"net-0", hrequest⟩,
    hverification, result, settlement, txHash, transfer, hresult, hsettlement, hid, hrequestId, hstatus,
    htxHash, htold, hevent, hfrom, hvalue, hbefore, hnonce⟩

/-- Under all options that settle and for every wallet, each of the payments is settled and let through. -/
theorem exists_settled (hsettle : opts.autoSettle ≠ some false) :
    ∃ cfg paid, Config.Reachable Config.anyStep (gateStart opts sellerWallet other) cfg ∧
      (cfg.calls ()).result? = some (.ok (.next paid)) ∧
      SettledPayment gateImports gateClient ⟨some (gateHeader other), sellerWallet⟩ () cfg paid
        (gatePayment other) := by
  obtain ⟨cfg, hreach, hended⟩ := Config.exists_reachable_of_run
    (show ((gateStart opts sellerWallet other).run letThrough).map (fun cfg => decide (EndsSettled other cfg))
      = some true by
        simp only [gateStart_eq opts sellerWallet other hsettle, admitProof, verifyAndSettle, verifyRoute,
          verifyNotified, runVerify_toJson]
        cases other <;> decide +kernel)
  obtain ⟨paid, hnext, hsettled⟩ := settledPayment_of_endsSettled sellerWallet other (of_decide_eq_true hended)
  exact ⟨cfg, paid, hreach, hnext, hsettled⟩

end Gate

/-- The two payees differ, so no wallet is that of both. -/
theorem exists_other_payee (wallet : String) :
    ∃ other, (gatePayment other).auth.to.lower ≠ HexText.lowerCase wallet := by
  have hdiffer : (gatePayment false).auth.to.lower ≠ (gatePayment true).auth.to.lower := by decide +kernel
  by_cases h : (gatePayment false).auth.to.lower = HexText.lowerCase wallet
  · exact ⟨true, fun h' => hdiffer (h.trans h'.symm)⟩
  · exact ⟨false, h⟩

/-- **The gate asks for nothing.** Under no options that settle, and for no wallet, does the middleware keep
its offer: a payment to somebody else is settled and let through. -/
theorem gate_never_keeps_offer (opts : MiddlewareOptions) (sellerWallet : Option String)
    (hsettle : opts.autoSettle ≠ some false) : ¬ KeepsOffer opts sellerWallet := by
  intro hkeeps
  obtain ⟨other, hpayee⟩ := exists_other_payee (sellerWallet.getD "")
  obtain ⟨cfg, paid, hreach, hnext, hsettled⟩ := exists_settled opts sellerWallet other hsettle
  have hcall : (gateStart opts sellerWallet other).calls () =
      expressMiddleware gateImports gateClient opts ⟨some (gateHeader other), sellerWallet⟩ := by
    rw [gateStart]
  have hcovers := hkeeps Unit ⟨false, false⟩ gateImports gateClient (gateHeader other) ()
    (gateStart opts sellerWallet other) cfg rfl hcall hreach paid hnext (gatePayment other) hsettled
  exact hpayee hcovers.payTo

theorem gate_never_keeps_offer_sample : ¬ KeepsOffer sampleOptions (some "0xcccccccccccccccccccccccccccccccccccccccc") :=
  gate_never_keeps_offer sampleOptions _ nofun

/-- A payment of 1000 units on another network to somebody else is let through where a unit is asked for. -/
theorem let_through_unpaid :
    ∃ cfg paid, Config.Reachable Config.anyStep
        (gateStart sampleOptions (some "0x1111111111111111111111111111111111111111") false) cfg ∧
      (cfg.calls ()).result? = some (.ok (.next paid)) ∧
      SettledPayment gateImports gateClient
        ⟨some (gateHeader false), some "0x1111111111111111111111111111111111111111"⟩ () cfg paid
        (gatePayment false) ∧
      (gatePayment false).auth.to.lower ≠ "0x1111111111111111111111111111111111111111" ∧
      (gatePayment false).network ≠ sampleOptions.network ∧
      (gatePayment false).auth.value.value < decimalValue sampleOptions.amount := by
  obtain ⟨cfg, paid, hreach, hnext, hsettled⟩ := exists_settled sampleOptions
    (some "0x1111111111111111111111111111111111111111") false nofun
  exact ⟨cfg, paid, hreach, hnext, hsettled, by decide +kernel⟩

end Schedules

end Service

end FacilitatorX402
