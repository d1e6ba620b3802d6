import FacilitatorX402.Proof.RebuiltAuthorization
import FacilitatorX402.Sdk.LossyNetwork

/-!
# Payments over a network that loses messages

The client sends a request again that the server may have answered. The server takes that for a replay
and refuses it, now and later. What a lost message does to a payment is therefore decided by one thing:
whether the server has accepted the payment in an answer that did not arrive.
-/

namespace FacilitatorX402

open Interact

namespace Payment

/-- The rows have an accepted verification of the payment, under this request id. -/
def Db.HasAccepted (db : Db) (host : Host) (req : VerifyRequest) (requestId : String) : Prop :=
  ∃ verificationId, acceptedVerification host req verificationId requestId
    (computeSignatureHash req.payload.signature.text) ∈ db.verifications

/-- The rows have none. -/
def Db.HasNoAccepted (db : Db) (host : Host) (req : VerifyRequest) : Prop :=
  ∀ requestId, ¬ db.HasAccepted host req requestId

/-- What a verification does to the rows: an error leaves them, and an acceptance is the first. -/
def Verdict (host : Host) (req : VerifyRequest) (before after : Db) : Except Err VerifyResult → Prop
  | .error _ => after.verifications = before.verifications
  | .ok result => result.status = .accepted ∧ before.HasNoAccepted host req ∧
      ∃ verificationId, after.verifications = before.verifications ++
        [acceptedVerification host req verificationId result.requestId
          (computeSignatureHash req.payload.signature.text)]

section Server

variable {ι : Type} {faults : Faults} {who : ι} {world : World ι} {host : Host} {req : VerifyRequest}
  {requestId : String}

/-- Every decision of the surroundings. -/
def anyDecision : Fair (machine ι faults) := fun _ _ _ => True

/-- A quiet program leaves the verifications alone. -/
theorem alone_quiet {α : Type} {program : PaymentProgram α} (h : program.Only Op.Quiet) :
    program.Sat (solo (machine ι faults) anyDecision who) world fun world' _ =>
      world'.db.verifications = world.db.verifications := by
  apply h.keeps (R := fun world' : World ι => world'.db.verifications = world.db.verifications)
    (fun _ _ _ _ => trivial) _ rfl
  rintro world' op answer world'' hquiet hrows ⟨outcome, -, hexec⟩
  rcases exec_verified_cases hexec with ⟨-, hsame⟩ | ⟨request, verification, rfl, -, -⟩
  · exact hsame.trans hrows
  · exact hquiet.elim

/-- A payment that has been accepted once is not accepted again. -/
theorem hasNoAccepted_of_canVerify {db : Db} {request : PaymentRequest} {verificationId : String}
    (h : db.canVerify request (acceptedVerification host req verificationId requestId
      (computeSignatureHash req.payload.signature.text)) = true) : db.HasNoAccepted host req := by
  rintro other ⟨otherId, hmem⟩
  have hunique := List.all_eq_true.mp (Bool.and_eq_true_iff.mp h).2 _ hmem
  exact (of_decide_eq_true hunique).2.2 rfl

theorem alone_persist (hreported : faults.commitLost = false) {verifiedAt : Nat} {before : Db}
    (hbefore : world.db.verifications = before.verifications) :
    (persistVerified host req requestId (computeSignatureHash req.payload.signature.text)
      verifiedAt).Sat (solo (machine ι faults) anyDecision who) world fun world' outcome =>
        Verdict host req before world'.db outcome := by
  rw [persistVerified, generateUlid, Program.sat_bind', sat_op]
  refine ⟨trivial, ?_⟩
  rintro answer world' ⟨outcome, -, hexec⟩
  obtain ⟨rfl, verificationId, rfl⟩ := exec_generateId hexec
  rw [Program.thenSat_ok, createVerified, Program.sat_bind', sat_op]
  refine ⟨trivial, ?_⟩
  rintro answer world' ⟨outcome, -, hexec⟩
  rcases transaction_cases hreported hexec with ⟨hcan, rfl, rfl⟩ | ⟨⟨error, rfl⟩, rfl⟩
  · have hdate : (JsDate.ofSeconds req.auth.validBefore).isSome = true := by
      simp only [Db.canVerify, acceptedRequest, Bool.and_eq_true] at hcan
      exact hcan.1.1
    obtain ⟨timeValue, htime⟩ := Option.isSome_iff_exists.mp hdate
    have hnone : before.HasNoAccepted host req := by
      intro other hother
      apply hasNoAccepted_of_canVerify hcan other
      rwa [Db.HasAccepted, hbefore]
    rw [Program.thenSat_ok, htime]
    exact ⟨rfl, hnone, verificationId, congrArg (· ++ _) hbefore⟩
  · exact hbefore

theorem alone_verify (hreported : faults.commitLost = false) {registry : NetworkRegistry}
    {proof : Json} (hparse : parseVerifyRequest proof = .ok req) :
    (verifyPayment host registry proof).Sat (solo (machine ι faults) anyDecision who) world
      fun world' outcome => Verdict host req world.db world'.db outcome := by
  unfold verifyPayment
  rw [hparse]
  change (verifyParsed host registry req).Sat _ _ _
  rw [verifyParsed, Program.sat_bind']
  apply (alone_quiet (@only_op Op.Quiet .generateId trivial)).mono
  rintro world₁ (error | requestId) hrows₁
  · exact hrows₁
  rw [Program.thenSat_ok]
  split
  · exact hrows₁
  split
  · exact hrows₁
  rw [verifyChecked, Program.sat_bind']
  apply (alone_quiet (@only_op Op.Quiet .now trivial)).mono
  rintro world₂ (error | nowMs) hrows₂
  · exact hrows₂.trans hrows₁
  have hrows₂ := hrows₂.trans hrows₁
  rw [Program.thenSat_ok, Program.sat_bind', Program.sat_ofExcept]
  cases checkAuthorization req requestId (nowMs / 1000) with
  | error error => exact hrows₂
  | ok checked =>
      rw [Program.thenSat_ok, Program.sat_bind']
      apply (alone_quiet (only_claimPayment (fun _ => trivial) _ _ _)).mono
      rintro world₃ (error | claimed) hrows₃
      · exact hrows₃.trans hrows₂
      have hrows₃ := hrows₃.trans hrows₂
      rw [Program.thenSat_ok, Program.sat_bind']
      apply (alone_quiet (only_checkSigner (fun _ => trivial) _ _ req _ requestId)).mono
      rintro world₄ (error | signed) hrows₄
      · exact hrows₄.trans hrows₃
      have hrows₄ := hrows₄.trans hrows₃
      rw [Program.thenSat_ok, Program.sat_bind']
      apply (alone_quiet (@only_op Op.Quiet .now trivial)).mono
      rintro world₅ (error | verifiedAt) hrows₅
      · exact hrows₅.trans hrows₄
      have hrows₅ := hrows₅.trans hrows₄
      rw [Program.thenSat_ok, Program.sat_tryCatch]
      apply (alone_persist hreported hrows₅).mono
      rintro world₆ (error | result) hverdict
      · rw [Program.sat_bind']
        apply (alone_quiet (only_releaseClaims (fun _ => trivial) _ _)).mono
        rintro world₇ (error | released) hrows₇ <;> exact hrows₇.trans hverdict
      · exact hverdict

end Server

end Payment

namespace Sdk

open Payment

/-! ### What a client makes of the answers -/

/-- What `pay` takes for an acceptance. -/
def Accepting (verify : Option Json) : Prop :=
  readField "status" verify = .ok (some (.str "accepted"))

/-- What is left of an attempt when it is the last. -/
def Received.ended : Received → Except ClientError (Option Json)
  | .done json => .ok json
  | .retry error => .error error
  | .fail error => .error error

theorem receivedRefusal_ne_done {status : Nat} {json : Json} {verify : Option Json} :
    Package.receivedRefusal status json ≠ .done verify := by
  unfold Package.receivedRefusal
  split
  · exact nofun
  · split <;> exact nofun

/-- An error of the server is never taken for an acceptance, whatever its status. -/
theorem not_accepting_of_error {server : VerifyServer} {requestId : String} {error : Err}
    {verify : Option Json}
    (h : Package.received (.ok (server.respond requestId (.error error))) = .done verify) :
    ¬ Accepting verify := by
  -- what is not a reply of the handler has status 500
  have hframework : ∀ body, Package.received (.ok ⟨500, .ok body⟩) ≠ .done verify := fun body =>
    receivedRefusal_ne_done
  cases hcounter : server.errorsTotal with
  | undefined =>
      rw [VerifyServer.respond, hcounter, errorReply_undefined] at h
      exact absurd h (hframework _)
  | counter =>
      rw [VerifyServer.respond, hcounter] at h
      cases error with
      | raised message => exact absurd h (hframework _)
      | facilitator error =>
          cases hstatus : error.httpStatus with
          | none =>
              have hreply : errorReply server.fallback .counter requestId (.facilitator error) =
                  ⟨500, .ok (server.fallback
                    (.raised "Called reply with an invalid status code: undefined"))⟩ := by
                simp only [errorReply, errorHandler, ErrorsTotal.inc, hstatus]
                rfl
              rw [hreply] at h
              exact absurd h (hframework _)
          | some status =>
              have hreply : errorReply server.fallback .counter requestId (.facilitator error) =
                  ⟨status, .ok (toErrorResponse error)⟩ := by
                simp only [errorReply, errorHandler, ErrorsTotal.inc, hstatus]
                rfl
              rw [hreply] at h
              simp only [Package.received] at h
              split at h
              · obtain rfl := Received.done.inj h
                simp [Accepting, readField, toErrorResponse, Json.field?, List.lookup_cons]
              · exact absurd h receivedRefusal_ne_done

/-- An acceptance that arrives is taken for one. -/
theorem received_accepted {server : VerifyServer} {requestId : String} {result : VerifyResult} :
    Package.received (.ok (server.respond requestId (.ok result)))
      = .done (some (resultJson result)) := rfl

theorem accepting_resultJson {result : VerifyResult} (h : result.status = .accepted) :
    Accepting (some (resultJson result)) := by
  simp [Accepting, readField, resultJson, Json.field?, List.lookup_cons, h, statusText]

/-! ### One attempt -/

section Attempts

variable {ι : Type} {server : VerifyServer} {proof : Json} {req : VerifyRequest}
  {host : Host}

/-- An attempt that finds the payment not yet accepted, and does not lose the answer that accepts it. -/
def Sent.Harmless (host : Host) (req : VerifyRequest) (sent : Sent) : Prop :=
  sent.before.HasNoAccepted host req ∧
    ∀ failure, sent.loss = .response failure → sent.after.HasNoAccepted host req

/-- How attempts end: the acceptance arrives, or there is none, or there is one that does not arrive. -/
inductive Ended (host : Host) (req : VerifyRequest) (made : List Sent) (before after : Db)
    (outcome : Except ClientError (Option Json)) : Prop
  | delivered {verify : Option Json} (houtcome : outcome = .ok verify) (haccepting : Accepting verify)
      (hbefore : before.HasNoAccepted host req) (hmade : ∀ sent ∈ made, sent.Harmless host req)
  | refused (houtcome : ∀ verify, outcome = .ok verify → ¬ Accepting verify)
      (hbefore : before.HasNoAccepted host req) (hafter : after.HasNoAccepted host req)
      (hmade : ∀ sent ∈ made, sent.Harmless host req)
  | lost (houtcome : ∀ verify, outcome = .ok verify → ¬ Accepting verify) {sent : Sent}
      (hsent : sent ∈ made) (hharm : ¬ sent.Harmless host req) {requestId : String}
      (hafter : after.HasAccepted host req requestId)

theorem hasNoAccepted_mono {db db' : Db} (h : db'.HasNoAccepted host req)
    (hrows : db.verifications ⊆ db'.verifications) : db.HasNoAccepted host req := by
  rintro requestId ⟨verificationId, hmem⟩
  exact h requestId ⟨verificationId, hrows hmem⟩

/-- What the server does in an attempt. -/
theorem verdict_of_handle (hparse : parseVerifyRequest proof = .ok req) {world world' : World ι}
    {attempt : Attempt ι} {result : Except Err VerifyResult}
    (h : server.handle world attempt proof = some (result, world')) :
    Verdict server.host req world.db world'.db result := by
  have halone : Alone (paymentMachine ι) anyDecision attempt.who _ world _ result world' :=
    alone_of_runAlone (fun _ _ _ _ => trivial) h
  exact halone.of_sat (alone_verify rfl hparse)

theorem ended_refused {before middle after : Db} {loss : Loss} {outcome : Except ClientError (Option Json)}
    (hwhile : before.verifications ⊆ middle.verifications)
    (hrows : after.verifications = middle.verifications)
    (houtcome : ∀ verify, outcome = .ok verify → ¬ Accepting verify) :
    Ended host req [⟨middle, after, loss⟩] before after outcome := by
  by_cases hnone : middle.HasNoAccepted host req
  · have hafter : after.HasNoAccepted host req := 
      hasNoAccepted_mono hnone (hrows ▸ List.Subset.refl _)
    refine .refused houtcome (hasNoAccepted_mono hnone hwhile) hafter ?_
    rintro sent hsent
    obtain rfl := List.mem_singleton.mp hsent
    exact ⟨hnone, fun _ _ => hafter⟩
  · obtain ⟨requestId, verificationId, hmem⟩ := not_forall_not.mp hnone
    have hafter : after.HasAccepted host req requestId := ⟨verificationId, by rwa [hrows]⟩
    exact .lost houtcome (List.mem_singleton_self _) (fun hharmless => hnone hharmless.1) hafter

/-- After an attempt whose answer accepts the payment and is lost. -/
theorem ended_lost {before middle after : Db} {failure : TransportFailure} {requestId : String}
    {outcome : Except ClientError (Option Json)} (hafter : after.HasAccepted host req requestId)
    (houtcome : ∀ verify, outcome = .ok verify → ¬ Accepting verify) :
    Ended host req [⟨middle, after, .response failure⟩] before after outcome :=
  .lost houtcome (List.mem_singleton_self _) (fun hharmless => hharmless.2 failure rfl _ hafter) hafter

theorem Ended.again {sent : Sent} {made : List Sent} {before middle after : Db} {error : ClientError}
    {outcome : Except ClientError (Option Json)} (hfirst : Ended host req [sent] before middle (.error error))
    (hrest : Ended host req made middle after outcome) :
    Ended host req (made ++ [sent]) before after outcome := by
  cases hfirst with
  | delivered houtcome => cases houtcome
  | refused _ hbefore _ hmade =>
      have hall : (∀ other ∈ made, other.Harmless host req) →
          ∀ other ∈ made ++ [sent], other.Harmless host req := by
        intro hmade' other hother
        rcases List.mem_append.mp hother with hold | hnew
        · exact hmade' other hold
        · exact hmade other hnew
      cases hrest with
      | delivered houtcome haccepting _ hmade' =>
          exact .delivered houtcome haccepting hbefore (hall hmade')
      | refused houtcome _ hafter hmade' => exact .refused houtcome hbefore hafter (hall hmade')
      | lost houtcome hsent hharm hafter =>
          exact .lost houtcome (List.mem_append_left _ hsent) hharm hafter
  | lost _ hsent hharm hmiddle =>
      cases hrest with
      | delivered _ _ hbefore _ => exact absurd hmiddle (hbefore _)
      | refused _ hbefore _ _ => exact absurd hmiddle (hbefore _)
      | lost houtcome _ _ hafter => exact .lost houtcome (List.mem_append_right _ hsent) hharm hafter

theorem ended_of_exec (hparse : parseVerifyRequest proof = .ok req) {network network' : Network ι}
    {attempt : Attempt ι} {answer : Except ClientError HttpResponse}
    (h : (server.machine ι).exec () network (verifyRequest proof) attempt = some (answer, network')) :
    ∃ sent, network'.sent = sent :: network.sent ∧
      Ended server.host req [sent] network.server.db network'.server.db
        (Package.received answer).ended := by
  change server.deliver network attempt proof = some (answer, network') at h
  have hwhile := subset_afterWhile network.server attempt.meanwhile
  have hfailed : ∀ failure verify,
      (Package.received (.error (.fetch failure))).ended = .ok verify → ¬ Accepting verify := by
    intro failure verify hended
    cases failure <;> cases hended
  unfold VerifyServer.deliver at h
  split at h
  · obtain ⟨rfl, rfl⟩ := Prod.mk.inj (Option.some.inj h)
    exact ⟨_, rfl, ended_refused hwhile rfl (hfailed _)⟩
  · rename_i failure hloss
    obtain ⟨⟨result, after⟩, hhandle, heq⟩ := Option.map_eq_some_iff.mp h
    obtain ⟨rfl, rfl⟩ := Prod.mk.inj heq
    refine ⟨_, rfl, ?_⟩
    have hverdict := verdict_of_handle hparse hhandle
    cases result with
    | error error => exact ended_refused hwhile hverdict (hfailed _)
    | ok result =>
        obtain ⟨-, -, verificationId, hrows⟩ := hverdict
        have hafter : after.db.HasAccepted server.host req result.requestId := by
          refine ⟨verificationId, ?_⟩
          rw [hrows]
          exact List.mem_append_right _ (List.mem_singleton_self _)
        rw [hloss]
        exact ended_lost hafter (hfailed _)
  · rename_i hloss
    obtain ⟨⟨result, after⟩, hhandle, heq⟩ := Option.map_eq_some_iff.mp h
    obtain ⟨rfl, rfl⟩ := Prod.mk.inj heq
    refine ⟨_, rfl, ?_⟩
    have hverdict := verdict_of_handle hparse hhandle
    cases result with
    | error error =>
        refine ended_refused hwhile hverdict fun verify hended => ?_
        cases hreceived : Package.received (.ok (server.respond attempt.requestId (.error error))) with
        | done json =>
            rw [hreceived] at hended
            obtain rfl := Except.ok.inj hended
            exact not_accepting_of_error hreceived
        | retry error =>
            rw [hreceived] at hended
            cases hended
        | fail error =>
            rw [hreceived] at hended
            cases hended
    | ok result =>
        obtain ⟨hstatus, hnone, -⟩ := hverdict
        rw [received_accepted]
        refine .delivered rfl (accepting_resultJson hstatus) (hasNoAccepted_mono hnone hwhile) ?_
        rintro sent hsent
        obtain rfl := List.mem_singleton.mp hsent
        refine ⟨hnone, fun failure hlost => ?_⟩
        rw [hloss] at hlost
        cases hlost

/-! ### The attempts of a call -/

/-- The attempts made from one state of the network to another have ended. -/
def Ends (host : Host) (req : VerifyRequest) (network network' : Network ι)
    (outcome : Except ClientError (Option Json)) : Prop :=
  ∃ made, network'.sent = made ++ network.sent ∧
    Ended host req made network.server.db network'.server.db outcome

theorem sat_request (hparse : parseVerifyRequest proof = .ok req) (attempts : Nat)
    (network : Network ι) :
    (request Package.received (verifyRequest proof) attempts).Sat
      (solo (server.machine ι) anyAttempt ()) network (Ends server.host req network) := by
  induction attempts generalizing network with
  | zero =>
      rw [request, Program.sat_bind, Program.sat_attempt, fetch, Program.sat_call]
      refine ⟨trivial, ?_⟩
      rintro answer network' ⟨attempt, -, hexec⟩
      obtain ⟨sent, hsent, hended⟩ := ended_of_exec hparse hexec
      rw [Program.thenSat_ok]
      cases hreceived : Package.received answer <;> rw [hreceived] at hended <;>
        exact ⟨[sent], hsent, hended⟩
  | succ attempts ih =>
      rw [request, Program.sat_bind, Program.sat_attempt, fetch, Program.sat_call]
      refine ⟨trivial, ?_⟩
      rintro answer network' ⟨attempt, -, hexec⟩
      obtain ⟨sent, hsent, hended⟩ := ended_of_exec hparse hexec
      rw [Program.thenSat_ok]
      cases hreceived : Package.received answer with
      | done json =>
          rw [hreceived] at hended
          exact ⟨[sent], hsent, hended⟩
      | fail error =>
          rw [hreceived] at hended
          exact ⟨[sent], hsent, hended⟩
      | retry error =>
          rw [hreceived] at hended
          apply (ih network').mono
          rintro last outcome ⟨made, hmade, hrest⟩
          refine ⟨made ++ [sent], ?_, hended.again hrest⟩
          rw [hmade, hsent, List.append_assoc, List.singleton_append]

/-- `pay` gets past its verify step only with an acceptance. -/
theorem sat_payVerify (hparse : parseVerifyRequest proof = .ok req) (print : Json → String)
    (retries : Nat) (network : Network ι) :
    (payVerify (Package.kind print) retries proof).Sat (solo (server.machine ι) anyAttempt ()) network
      fun network' outcome => Ends server.host req network network' outcome ∧
        ∀ verify, outcome = .ok verify → Accepting verify := by
  rw [payVerify, Program.sat_bind']
  apply (sat_request hparse retries network).mono
  rintro network' (error | verify) ⟨made, hmade, hended⟩
  · exact ⟨⟨made, hmade, hended⟩, nofun⟩
  have hthrown : ∀ error : ClientError, ¬ Accepting verify →
      Ends server.host req network network' (.error error) := by
    intro error hrefused
    refine ⟨made, hmade, ?_⟩
    cases hended with
    | delivered houtcome haccepting =>
        obtain rfl := Except.ok.inj houtcome
        exact absurd haccepting hrefused
    | refused _ hbefore hafter hall => exact .refused (fun _ => nofun) hbefore hafter hall
    | lost _ hsent hharm hafter => exact .lost (fun _ => nofun) hsent hharm hafter
  rw [Program.thenSat_ok]
  split
  · rename_i error hread
    refine ⟨hthrown error ?_, nofun⟩
    rw [Accepting, hread]
    exact nofun
  · rename_i hread
    exact ⟨⟨made, hmade, hended⟩, fun verify' heq => by rwa [← Except.ok.inj heq]⟩
  · rename_i hother hread
    refine ⟨hthrown _ fun haccepting => ?_, nofun⟩
    rw [Accepting, hread] at haccepting
    exact hother (Except.ok.inj haccepting)

/-! ### Payments that survive -/

/-- If `pay` throws in its verify step, the server has no acceptance of the payment, or a later call,
with nothing lost any more, gets past that step with the request id of one. -/
def PaySurvives (server : VerifyServer) (print : Json → String) (proof : Json) (req : VerifyRequest)
    (result : Except ClientError (Option Json)) (last : World ι) : Prop :=
  ∀ error, result = .error error →
    last.db.HasNoAccepted server.host req ∨
      ∃ requestId retries decisions verify later, last.db.HasAccepted server.host req requestId ∧
        Alone (server.machine ι) lossless () (payVerify (Package.kind print) retries proof) ⟨last, []⟩
          decisions (.ok verify) later ∧
        readField "requestId" verify = .ok (some (.str requestId))

section Survival

variable {print : Json → String} {retries : Nat} {start last : Network ι}
  {decisions : Decisions (server.machine ι)} {result : Except ClientError (Option Json)}

/-- A payment that has been accepted never gets past the verify step again. -/
theorem never_past_verify (hparse : parseVerifyRequest proof = .ok req) {requestId : String}
    (haccepted : start.server.db.HasAccepted server.host req requestId)
    (hrun : Alone (server.machine ι) anyAttempt () (payVerify (Package.kind print) retries proof) start
      decisions result last) (verify : Option Json) : result ≠ .ok verify := by
  rintro rfl
  obtain ⟨⟨made, -, hended⟩, haccepting⟩ := hrun.of_sat (sat_payVerify hparse print retries start)
  cases hended with
  | delivered _ _ hbefore _ => exact hbefore requestId haccepted
  | refused houtcome _ _ _ => exact houtcome verify rfl (haccepting verify rfl)
  | lost houtcome _ _ _ => exact houtcome verify rfl (haccepting verify rfl)

theorem not_survives_of_accepted (hparse : parseVerifyRequest proof = .ok req) {error : ClientError}
    (hthrown : result = .error error) {requestId : String} {world : World ι}
    (haccepted : world.db.HasAccepted server.host req requestId) :
    ¬ PaySurvives server print proof req result world := by
  intro hsurvives
  rcases hsurvives error hthrown with hnone | ⟨_, _, _, verify, _, -, hlater, -⟩
  · exact hnone requestId haccepted
  · have hlater : Alone (server.machine ι) anyAttempt () _ ⟨world, []⟩ _ (.ok verify) _ :=
      hlater.mono fun _ _ _ _ => trivial
    exact never_past_verify hparse haccepted hlater verify rfl

/-- **Payments and lost messages.** A call survives its losses exactly when no attempt finds the payment
accepted already, and no lost response is one that has accepted it. -/
theorem pay_survives_iff (hparse : parseVerifyRequest proof = .ok req) (hstart : start.sent = [])
    (hrun : Alone (server.machine ι) anyAttempt () (payVerify (Package.kind print) retries proof) start
      decisions result last) :
    PaySurvives server print proof req result last.server ↔
      ∀ sent ∈ last.sent, sent.Harmless server.host req := by
  obtain ⟨⟨made, hmade, hended⟩, haccepting⟩ := hrun.of_sat (sat_payVerify hparse print retries start)
  rw [hstart, List.append_nil] at hmade
  rw [hmade]
  cases hended with
  | delivered houtcome _ _ hall =>
      refine ⟨fun _ => hall, fun _ error hthrown => ?_⟩
      rw [houtcome] at hthrown
      cases hthrown
  | refused _ _ hafter hall => exact ⟨fun _ => hall, fun _ _ _ => .inl hafter⟩
  | lost houtcome hsent hharm hafter =>
      cases result with
      | ok verify => exact absurd (haccepting verify rfl) (houtcome verify rfl)
      | error error =>
          exact ⟨fun hsurvives => absurd hsurvives (not_survives_of_accepted hparse rfl hafter),
            fun hall => absurd (hall _ hsent) hharm⟩

end Survival

end Attempts

/-! ### A response that is lost -/

/-- A client and a server that has seen nothing. -/
def lossyServer : VerifyServer where
  host := trustingHost
  registry := baseRegistry
  errorsTotal := .counter
  fallback _ := .null

def quietNetwork : Network Bool := ⟨emptyWorld Bool, []⟩

/-- The server accepts the payment. -/
def acceptingAttempt (loss : Loss) : Attempt Bool where
  meanwhile := none
  loss := loss
  who := false
  decisions := constantly [.text "req-0", .time 1700000000000, .fate .done, .fate .done,
    .time 1700000000000, .text "ver-0", .fate .done]
  requestId := "http-0"

/-- The server takes it for a replay. -/
def refusingAttempt : Attempt Bool where
  meanwhile := none
  loss := .none
  who := true
  decisions := constantly [.text "req-1", .time 1700000000000, .fate .done]
  requestId := "http-1"

/-- The verify step of a call with the retries it has by default. -/
abbrev VerifyStep (decisions : Decisions (lossyServer.machine Bool))
    (result : Except ClientError (Option Json)) (last : Network Bool) : Prop :=
  Alone (lossyServer.machine Bool) anyAttempt ()
    (payVerify (Package.kind fun _ => "") Package.defaultRetries (firstPayment 0).toJson) quietNetwork
    decisions result last

/-- Every request is lost. -/
theorem pay_survives_requests_lost : ∃ decisions error last,
    VerifyStep decisions (.error error) last ∧ last.sent.length = 3 ∧
      (PaySurvives lossyServer (fun _ => "") (firstPayment 0).toJson (firstPayment 0) (.error error)
        last.server ↔ ∀ sent ∈ last.sent, sent.Harmless trustingHost (firstPayment 0)) := by
  obtain ⟨⟨result, last⟩, hrun, hended⟩ := Option.map_eq_some_iff.mp
    (show (runAlone (M := lossyServer.machine Bool) (fun _ _ _ => true) ()
      (payVerify (Package.kind fun _ => "") Package.defaultRetries (firstPayment 0).toJson) quietNetwork
      (constantly (List.replicate 3 (acceptingAttempt (.request (.network "socket hang up")))))).map
        (fun ended => !ended.1.isOk && decide (ended.2.sent.length = 3)) = some true by decide +kernel)
  obtain ⟨hthrown, hsent⟩ := Bool.and_eq_true_iff.mp hended
  cases result with
  | ok verify => cases hthrown
  | error error =>
      have hstep : VerifyStep _ (.error error) last := alone_of_runAlone (fun _ _ _ _ => trivial) hrun
      exact ⟨_, error, last, hstep, of_decide_eq_true hsent,
        pay_survives_iff (parseVerifyRequest_toJson _) rfl hstep⟩

/-- The response that accepts the payment is lost, and the attempt after it is refused. -/
theorem acceptance_lost : ∃ decisions error last,
    VerifyStep decisions (.error error) last ∧
      last.server.db.HasAccepted trustingHost (firstPayment 0) "req-0" ∧
      ¬ PaySurvives lossyServer (fun _ => "") (firstPayment 0).toJson (firstPayment 0) (.error error)
        last.server := by
  obtain ⟨⟨result, last⟩, hrun, hended⟩ := Option.map_eq_some_iff.mp
    (show (runAlone (M := lossyServer.machine Bool) (fun _ _ _ => true) ()
      (payVerify (Package.kind fun _ => "") Package.defaultRetries (firstPayment 0).toJson) quietNetwork
      (constantly [acceptingAttempt (.response (.network "socket hang up")), refusingAttempt])).map
        (fun ended => !ended.1.isOk && decide (acceptedVerification trustingHost (firstPayment 0) "ver-0"
          "req-0" (computeSignatureHash (firstPayment 0).payload.signature.text) ∈
            ended.2.server.db.verifications)) = some true by
        decide +kernel)
  obtain ⟨hthrown, hrow⟩ := Bool.and_eq_true_iff.mp hended
  have haccepted : last.server.db.HasAccepted trustingHost (firstPayment 0) "req-0" :=
    ⟨"ver-0", of_decide_eq_true hrow⟩
  cases result with
  | ok verify => cases hthrown
  | error error =>
      exact ⟨_, error, last, alone_of_runAlone (fun _ _ _ _ => trivial) hrun, haccepted,
        not_survives_of_accepted (parseVerifyRequest_toJson _) rfl haccepted⟩

end Sdk

end FacilitatorX402
