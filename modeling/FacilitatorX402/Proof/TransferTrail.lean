import FacilitatorX402.Proof.PipelineWarrants
import FacilitatorX402.Proof.RebuiltAuthorization
import FacilitatorX402.Proof.ServicePayment
import FacilitatorX402.Proof.VerifyEndings

/-!
# What a transfer goes back to

A settlement never sees the signed authorization. It reads a verification and its request, and makes a
transfer of their columns. Rows of both tables are neither changed nor lost, so each goes back to the call
that stored it, and to what that call was told.
-/

namespace FacilitatorX402

open Interact

namespace Service

/-! ### Where the rows come from -/

section Rows

variable {ι : Type} {origin db : Db} {history : List (Event interface Err ι)}

/-- The rows of a read verification are in the tables, and belong together. -/
structure Db.Joined (db : Db) (id requestId : String) (verification : PaymentVerification)
    (request : PaymentRequest) : Prop where
  storedVerification : verification ∈ db.verifications
  verificationId : verification.id = id
  ofRequest : verification.requestId = requestId
  accepted : verification.verificationStatus = .accepted
  storedRequest : request ∈ db.requests
  requestId : request.id = requestId

/-- Requests and verifications were there at the origin or are stored by an event, and what the calls were
told of them still stands. -/
structure Recorded (origin db : Db) (history : List (Event interface Err ι)) : Prop where
  requests : ∀ row ∈ db.requests, row ∈ origin.requests ∨
    ∃ event ∈ history, event.op = .upsertPaymentRequest row
  verifications : ∀ row ∈ db.verifications, row ∈ origin.verifications ∨
    ∃ event ∈ history, event.op = .createVerification row
  upserted : ∀ who row stored, ⟨who, .upsertPaymentRequest row, .ok stored⟩ ∈ history → stored.id = row.id
  read : ∀ who id requestId verification request record,
    ⟨who, .findAcceptedVerification id requestId, .ok (some (verification, request, record))⟩ ∈ history →
      db.Joined id requestId verification request

theorem Db.joined_of_mem {id requestId : String} {verification : PaymentVerification}
    {request : PaymentRequest} {record : Network}
    (h : (verification, request, record) ∈ db.acceptedVerifications id requestId) :
    db.Joined id requestId verification request := by
  obtain ⟨row, hrow, hjoin⟩ := List.mem_filterMap.mp h
  obtain ⟨hverification, hboth⟩ := List.mem_filter.mp hrow
  obtain ⟨request', hrequest, hnetwork⟩ := Option.bind_eq_some_iff.mp hjoin
  obtain ⟨network', -, heq⟩ := Option.bind_eq_some_iff.mp hnetwork
  obtain ⟨rfl, hrest⟩ := Prod.mk.inj (Option.some.inj heq)
  obtain ⟨rfl, -⟩ := Prod.mk.inj hrest
  obtain ⟨hid, hrequestId, haccepted⟩ := of_decide_eq_true hboth
  have hkey : request'.id = row.requestId := by simpa using List.find?_some hrequest
  exact ⟨hverification, hid, hrequestId, haccepted, List.mem_of_find?_eq_some hrequest,
    hkey.trans hrequestId⟩

theorem Db.Joined.mono {db' : Db} {id requestId : String} {verification : PaymentVerification}
    {request : PaymentRequest} (h : db.Joined id requestId verification request)
    (hverifications : db.verifications ⊆ db'.verifications) (hrequests : db.requests ⊆ db'.requests) :
    db'.Joined id requestId verification request :=
  ⟨hverifications h.storedVerification, h.verificationId, h.ofRequest, h.accepted,
    hrequests h.storedRequest, h.requestId⟩

variable {faults : Faults} {who : ι} {world world' : World ι} {outcome : Outcome}

theorem exec_requests {op : Op} {answer : Except Err (interface.Ans op)}
    (h : (machine ι faults).exec who world op outcome = some (answer, world')) :
    world.db.requests ⊆ world'.db.requests := by
  cases exec_effect h with
  | upsertPaymentRequest row =>
      simp only [Db.upsertPaymentRequest]
      split
      · exact List.Subset.refl _
      · exact List.subset_append_left _ _
  | confirmByWorker id data receipt =>
      simp only [Db.confirmByWorker]
      split <;> exact List.Subset.refl _
  | _ => exact List.Subset.refl _

/-- Only an upsert stores a request, and only a creation a verification. -/
theorem exec_rows {op : Op} {answer : Except Err (interface.Ans op)}
    (h : (machine ι faults).exec who world op outcome = some (answer, world')) :
    (∀ row ∈ world'.db.requests, row ∈ world.db.requests ∨ op = .upsertPaymentRequest row) ∧
      ∀ row ∈ world'.db.verifications, row ∈ world.db.verifications ∨ op = .createVerification row := by
  cases exec_effect h with
  | upsertPaymentRequest row =>
      simp only [Db.upsertPaymentRequest]
      split
      · exact ⟨fun _ => .inl, fun _ => .inl⟩
      · refine ⟨fun other hother => ?_, fun _ => .inl⟩
        rcases List.mem_append.mp hother with hold | hnew
        · exact .inl hold
        · rw [List.mem_singleton.mp hnew]
          exact .inr rfl
  | createVerification row =>
      refine ⟨fun _ => .inl, fun other hother => ?_⟩
      rcases List.mem_append.mp hother with hold | hnew
      · exact .inl hold
      · rw [List.mem_singleton.mp hnew]
        exact .inr rfl
  | confirmByWorker id data receipt =>
      simp only [Db.confirmByWorker]
      split <;> exact ⟨fun _ => .inl, fun _ => .inl⟩
  | _ => exact ⟨fun _ => .inl, fun _ => .inl⟩

theorem exec_upserted {row stored : PaymentRequest}
    (h : (machine ι faults).exec who world (.upsertPaymentRequest row) outcome
      = some (.ok stored, world')) : stored.id = row.id := by
  rcases returning_cases h with ⟨-, -, hstored | ⟨error, herror⟩⟩ | ⟨⟨error, herror⟩, -⟩
  · rw [Except.ok.inj hstored]
    exact Db.upserted_id _ row
  · cases herror
  · cases herror

theorem exec_joined {id requestId : String} {verification : PaymentVerification}
    {request : PaymentRequest} {record : Network}
    (h : (machine ι faults).exec who world (.findAcceptedVerification id requestId) outcome
      = some (.ok (some (verification, request, record)), world')) :
    world.db.Joined id requestId verification request := by
  obtain ⟨-, ⟨hnone, -⟩ | ⟨found, hmem, hfound⟩ | ⟨error, herror⟩⟩ := findFirst_cases h
  · cases hnone
  · obtain rfl := Option.some.inj (Except.ok.inj hfound)
    exact Db.joined_of_mem hmem
  · cases herror

theorem Recorded.step (h : Recorded origin world.db history) {op : Op}
    {answer : Except Err (interface.Ans op)}
    (hexec : (machine ι faults).exec who world op outcome = some (answer, world')) :
    Recorded origin world'.db (⟨who, op, answer⟩ :: history) where
  requests row hrow := by
    rcases (exec_rows hexec).1 row hrow with hold | rfl
    · rcases h.requests row hold with hbefore | ⟨event, hevent, hop⟩
      · exact .inl hbefore
      · exact .inr ⟨event, List.mem_cons_of_mem _ hevent, hop⟩
    · exact .inr ⟨_, List.mem_cons_self, rfl⟩
  verifications row hrow := by
    rcases (exec_rows hexec).2 row hrow with hold | rfl
    · rcases h.verifications row hold with hbefore | ⟨event, hevent, hop⟩
      · exact .inl hbefore
      · exact .inr ⟨event, List.mem_cons_of_mem _ hevent, hop⟩
    · exact .inr ⟨_, List.mem_cons_self, rfl⟩
  upserted other row stored hmem := by
    rcases List.mem_cons.mp hmem with heq | hold
    · cases heq
      exact exec_upserted hexec
    · exact h.upserted other row stored hold
  read other id requestId verification request record hmem := by
    have hjoined : world.db.Joined id requestId verification request := by
      rcases List.mem_cons.mp hmem with heq | hold
      · cases heq
        exact exec_joined hexec
      · exact h.read other id requestId verification request record hold
    exact hjoined.mono (exec_verifications hexec) (exec_requests hexec)

theorem recorded_self (origin : Db) : Recorded origin origin ([] : List (Event interface Err ι)) where
  requests _ := .inl
  verifications _ := .inl
  upserted _ _ _ h := by cases h
  read _ _ _ _ _ _ h := by cases h

end Rows

/-! ### Runs -/

section Runs

variable {ι : Type} {faults : Faults}

/-- A verification under its id has upserted the request, which its checks had cleared. -/
def RequestedBy (call : ι → PipelineCall) (history : List (Event interface Err ι))
    (row : PaymentRequest) : Prop :=
  ∃ later event earlier imports raw body, history = later ++ event :: earlier ∧
    event.op = .upsertPaymentRequest row ∧ call event.who = .verify imports raw row.id ∧
    parseVerifyRequest raw = .ok body ∧ Requested event.who earlier imports body row.id row

/-- A verification under the id of its request has created the row, after its checks. -/
def VerifiedBy (call : ι → PipelineCall) (history : List (Event interface Err ι))
    (row : PaymentVerification) : Prop :=
  ∃ later event earlier imports raw body, history = later ++ event :: earlier ∧
    event.op = .createVerification row ∧ call event.who = .verify imports raw row.requestId ∧
    parseVerifyRequest raw = .ok body ∧ Verified event.who earlier imports body row.requestId row

/-- The payer, the amount, the deadline and the nonce are those that were signed. -/
structure Authorizes (auth : Authorization) (transfer : TransferCall) : Prop where
  «from» : transfer.from = auth.from.text
  value : transfer.value = auth.value.value
  validBefore : transfer.validBefore = auth.validBefore
  nonce : transfer.nonce = auth.nonce.text

/-- A verification was cleared with a valid signature of the authorization behind the transfer. -/
def AuthorizedBy (call : ι → PipelineCall) (history : List (Event interface Err ι)) (requestId : String)
    (transfer : TransferCall) : Prop :=
  ∃ verifier imports raw body network asset sigResult, call verifier = .verify imports raw requestId ∧
    parseVerifyRequest raw = .ok body ∧
    Cleared verifier history imports body network asset sigResult ∧ sigResult.valid = true ∧
    Authorizes body.auth transfer

/-- No two verifications are given the same request id. -/
def DistinctIds (call : ι → PipelineCall) : Prop :=
  ∀ verifier verifier' imports imports' raw raw' requestId,
    call verifier = .verify imports raw requestId → call verifier' = .verify imports' raw' requestId →
      verifier = verifier'

section Columns

variable {who : ι} {events : List (Event interface Err ι)} {imports imports' : Imports}
  {body : VerifyRequest} {requestId networkId : String} {verification : PaymentVerification}
  {record : Network} {transfer : TransferCall}

theorem authorizes_of_madeOf
    (hmade : MadeOf who events imports verification (paymentRequestRow body requestId networkId) record
      transfer)
    (hfor : StoredFor imports' body verification) : Authorizes body.auth transfer := by
  obtain ⟨network, asset, value, recipient, args, rpcUrl, -, -, hvalue, -, hargs, -, rfl⟩ := hmade
  have hamount : value = body.auth.value.value := by
    rw [paymentRequestRow, grossAmount, if_pos body.auth.value.wf] at hvalue
    exact (Except.ok.inj hvalue).symm
  unfold submitArgs at hargs
  split at hargs
  · cases hargs
  · rename_i validBefore hfloor
    cases hargs
    refine ⟨rfl, hamount, Payment.floorSeconds_ofSeconds hfloor, ?_⟩
    rw [SubmitArgs.transfer, hfor.1, Option.getD_some]

end Columns

variable [DecidableEq ι] {call : ι → PipelineCall}
  {start cfg : Config (machine ι faults) (Option SettleResponse)}

theorem recorded_of_reachable (hhistory : start.history = [])
    (hreach : Config.Reachable Config.anyStep start cfg) :
    Recorded start.world.db cfg.world.db cfg.history := by
  have hstep : ∀ cfg cfg' : Config (machine ι faults) (Option SettleResponse),
      Recorded start.world.db cfg.world.db cfg.history → Config.Step Config.anyStep cfg cfg' →
        Recorded start.world.db cfg'.world.db cfg'.history := by
    intro cfg cfg' h hstep
    cases hstep with
    | @call who op next outcome answer world hcall hexec hgood => exact h.step hexec
    | @env event world henv =>
        obtain ⟨clock, hdb⟩ := machine_env_db henv
        have hsame : world.db.requests = cfg.world.db.requests ∧
            world.db.verifications = cfg.world.db.verifications := by
          rw [hdb]
          exact ⟨rfl, rfl⟩
        refine ⟨fun row hrow => h.requests row (hsame.1 ▸ hrow),
          fun row hrow => h.verifications row (hsame.2 ▸ hrow), h.upserted, ?_⟩
        intro who id requestId verification request record hread
        exact (h.read who id requestId verification request record hread).mono
          (hsame.2 ▸ List.Subset.refl _) (hsame.1 ▸ List.Subset.refl _)
  apply hreach.invariant hstep
  rw [hhistory]
  exact recorded_self _

theorem pipeline_warranted (hcalls : ∀ who, start.calls who = (call who).program)
    (hhistory : start.history = []) (hreach : Config.Reachable Config.anyStep start cfg)
    {event : Event interface Err ι} (hevent : event ∈ cfg.history) :
    ∃ later earlier, cfg.history = later ++ event :: earlier ∧
      (call event.who).Warrants event.who (earlier.filter (·.who = event.who)) event.op := by
  have hsat : ∀ who, (start.calls who).Sat (pipelineRules who (call who)) [] fun _ _ => True := by
    intro who
    rw [hcalls]
    exact (call who).sat_pipelineRules
  exact (hreach.warranted hhistory hsat).of_mem hevent

theorem requestedBy_of_event (hcalls : ∀ who, start.calls who = (call who).program)
    (hhistory : start.history = []) (hreach : Config.Reachable Config.anyStep start cfg)
    {event : Event interface Err ι} (hevent : event ∈ cfg.history) {row : PaymentRequest}
    (hop : event.op = .upsertPaymentRequest row) : RequestedBy call cfg.history row := by
  obtain ⟨later, earlier, hsplit, hwarrants⟩ := pipeline_warranted hcalls hhistory hreach hevent
  rw [hop] at hwarrants
  cases hcall : call event.who with
  | write writer =>
      rw [hcall] at hwarrants
      rcases writer with _ | _ | _ <;> exact hwarrants.elim
  | verify imports raw requestId =>
      rw [hcall] at hwarrants
      obtain ⟨body, hparse, hrequested⟩ := hwarrants
      have hid : row.id = requestId := by
        obtain ⟨_, _, _, _, _, _, rfl⟩ := hrequested
        rfl
      subst hid
      exact ⟨later, event, earlier, imports, raw, body, hsplit, hop, hcall, hparse,
        hrequested.mono List.filter_sublist.subset⟩

theorem verifiedBy_of_event (hcalls : ∀ who, start.calls who = (call who).program)
    (hhistory : start.history = []) (hreach : Config.Reachable Config.anyStep start cfg)
    {event : Event interface Err ι} (hevent : event ∈ cfg.history) {row : PaymentVerification}
    (hop : event.op = .createVerification row) : VerifiedBy call cfg.history row := by
  obtain ⟨later, earlier, hsplit, hwarrants⟩ := pipeline_warranted hcalls hhistory hreach hevent
  rw [hop] at hwarrants
  cases hcall : call event.who with
  | write writer =>
      rw [hcall] at hwarrants
      rcases writer with _ | _ | _ <;> exact hwarrants.elim
  | verify imports raw requestId =>
      rw [hcall] at hwarrants
      obtain ⟨body, hparse, hverified⟩ := hwarrants
      have hearlier : earlier.filter (·.who = event.who) ⊆ earlier := List.filter_sublist.subset
      have hverified := hverified.mono hearlier
      -- the request that was returned has the id of the one that was asked for
      have hid : row.requestId = requestId := by
        obtain ⟨_, _, _, _, _, _, request, stored, hrequested, hupserted, hrow⟩ := hverified
        obtain ⟨_, _, _, _, _, _, rfl⟩ := hrequested
        rw [hrow]
        apply (recorded_of_reachable hhistory hreach).upserted event.who
        rw [hsplit]
        exact List.mem_append_right _ (List.mem_cons_of_mem _ hupserted)
      subst hid
      exact ⟨later, event, earlier, imports, raw, body, hsplit, hop, hcall, hparse, hverified⟩

omit [DecidableEq ι] in
/-- One verification has stored both rows, so the transfer is made of its body. -/
theorem authorizedBy_of_rows {who : ι} {history : List (Event interface Err ι)} {imports : Imports}
    {id requestId : String} {verification : PaymentVerification} {request : PaymentRequest}
    {record : Network} {transfer : TransferCall} {db : Db} (hdistinct : DistinctIds call)
    (hjoined : db.Joined id requestId verification request)
    (hmade : MadeOf who history imports verification request record transfer)
    (hverified : VerifiedBy call history verification) (hrequested : RequestedBy call history request) :
    AuthorizedBy call history requestId transfer := by
  obtain ⟨later, event, earlier, imports₁, raw, body, hsplit, -, hcall, hparse, network, asset, sigResult,
    hcleared, hvalid, hfor, -⟩ := hverified
  obtain ⟨-, event', -, imports₂, raw', body', -, -, hcall', hparse', _, _, _, networkRecord, -, -, hrow⟩ :=
    hrequested
  rw [hjoined.ofRequest] at hcall
  rw [hjoined.requestId] at hcall'
  have hsame := hdistinct event.who event'.who _ _ _ _ _ hcall hcall'
  rw [← hsame] at hcall'
  obtain ⟨rfl, rfl, -⟩ := PipelineCall.verify.inj (hcall.symm.trans hcall')
  obtain rfl := Except.ok.inj (hparse.symm.trans hparse')
  rw [hrow] at hmade
  have hearlier : earlier ⊆ history := by
    rw [hsplit]
    exact List.subset_append_of_subset_right _ (List.subset_cons_self _ _)
  exact ⟨event.who, imports₁, raw, body, network, asset, sigResult, hcall, hparse,
    hcleared.mono hearlier, hvalid hjoined.accepted, authorizes_of_madeOf hmade hfor⟩

/-- **No transfer without a signature.** In every run of verifications, settlements, attempts of the worker
and handlers of failed attempts, whatever fails, only a settlement broadcasts, and what it broadcasts is made
of a verification and a request that are in the tables. Either row was there at the start, or the statement
that has stored it is in the history, of a verification that had passed every check before. If no two verifications share a request id and neither row was
there at the start, the transfer has the payer, the amount, the deadline and the nonce of an authorization
whose signature was found valid. -/
theorem transfers_authorized (hcalls : ∀ who, start.calls who = (call who).program)
    (hhistory : start.history = []) (hreach : Config.Reachable Config.anyStep start cfg) {who : ι}
    {transfer : TransferCall} {answer : Except Err String}
    (hsent : ⟨who, .chain (.writeContract transfer), answer⟩ ∈ cfg.history) :
    ∃ imports opts verification request record, call who = .write (.settle imports opts) ∧
      cfg.world.db.Joined opts.verificationId opts.requestId verification request ∧
      MadeOf who cfg.history imports verification request record transfer ∧
      (verification ∈ start.world.db.verifications ∨ VerifiedBy call cfg.history verification) ∧
      (request ∈ start.world.db.requests ∨ RequestedBy call cfg.history request) ∧
      (DistinctIds call → verification ∉ start.world.db.verifications →
        request ∉ start.world.db.requests → AuthorizedBy call cfg.history opts.requestId transfer) := by
  have hrecorded := recorded_of_reachable hhistory hreach
  obtain ⟨later, earlier, hsplit, hwarrants⟩ := pipeline_warranted hcalls hhistory hreach hsent
  have hsubset : earlier.filter (·.who = who) ⊆ cfg.history := by
    rw [hsplit]
    exact List.Subset.trans List.filter_sublist.subset
      (List.subset_append_of_subset_right _ (List.subset_cons_self _ _))
  obtain ⟨imports, opts, hcall, hordered⟩ : ∃ imports opts, call who = .write (.settle imports opts) ∧
      Ordered who (earlier.filter (·.who = who)) imports opts transfer := by
    rcases hcall : call who with ⟨imports, raw, requestId⟩ | (⟨imports, opts⟩ | _ | _)
    · rw [hcall] at hwarrants
      exact hwarrants.elim
    · rw [hcall] at hwarrants
      exact ⟨imports, opts, rfl, hwarrants⟩
    · rw [hcall] at hwarrants
      exact hwarrants.elim
    · rw [hcall] at hwarrants
      exact hwarrants.elim
  obtain ⟨verification, request, record, hread, hmade⟩ := hordered.mono hsubset
  have hjoined := hrecorded.read who _ _ _ _ _ hread
  have hverified : verification ∈ start.world.db.verifications ∨
      VerifiedBy call cfg.history verification := by
    rcases hrecorded.verifications verification hjoined.storedVerification with hold | ⟨event, hevent, hop⟩
    · exact .inl hold
    · exact .inr (verifiedBy_of_event hcalls hhistory hreach hevent hop)
  have hrequested : request ∈ start.world.db.requests ∨ RequestedBy call cfg.history request := by
    rcases hrecorded.requests request hjoined.storedRequest with hold | ⟨event, hevent, hop⟩
    · exact .inl hold
    · exact .inr (requestedBy_of_event hcalls hhistory hreach hevent hop)
  refine ⟨imports, opts, verification, request, record, hcall, hjoined, hmade, hverified, hrequested, ?_⟩
  intro hdistinct hnewVerification hnewRequest
  exact authorizedBy_of_rows hdistinct hjoined hmade (hverified.resolve_left hnewVerification)
    (hrequested.resolve_left hnewRequest)

/-! ### A verification and its settlement -/

abbrev TwoPipelineCalls := Config (machine (Fin 2) ⟨false, false⟩) (Option SettleResponse)

/-- Call 0 verifies a payment, and call 1 settles it. -/
def verifyAndTransfer (who : Fin 2) : PipelineCall :=
  if who.val = 0 then .verify sampleImports (Payment.spelledPayment false).toJson "req-0"
  else .write (.settle sampleImports
    { requestId := "req-0", verificationId := "ver-0", referralCode := none })

def transferStart : TwoPipelineCalls where
  world := seededWorld _
  calls who :=
    if who.val = 0 then do
      let _ ← verifyParsed sampleImports (Payment.spelledPayment false) "req-0"
      return none
    else (verifyAndTransfer who).program
  history := []

theorem transferStart_calls (who : Fin 2) : transferStart.calls who = (verifyAndTransfer who).program := by
  by_cases hwho : who.val = 0
  · simp only [transferStart, verifyAndTransfer, if_pos hwho, PipelineCall.program, runVerify_toJson]
  · simp only [transferStart, if_neg hwho]

theorem distinctIds_verifyAndTransfer : DistinctIds verifyAndTransfer := by
  have hzero : ∀ who imports raw requestId, verifyAndTransfer who = .verify imports raw requestId →
      who.val = 0 := by
    intro who imports raw requestId hcall
    by_contra hwho
    rw [verifyAndTransfer, if_neg hwho] at hcall
    cases hcall
  intro verifier verifier' imports imports' raw raw' requestId hcall hcall'
  exact Fin.ext ((hzero _ _ _ _ hcall).trans (hzero _ _ _ _ hcall').symm)

def broadcast? : Event interface Err (Fin 2) → Bool
  | ⟨_, .chain (.writeContract _), _⟩ => true
  | _ => false

theorem exists_of_broadcast? {event : Event interface Err (Fin 2)} (h : broadcast? event = true) :
    ∃ who transfer answer, event = ⟨who, .chain (.writeContract transfer), answer⟩ := by
  unfold broadcast? at h
  split at h
  · exact ⟨_, _, _, rfl⟩
  · cases h

theorem transfers_authorized_once : ∃ (cfg : TwoPipelineCalls) (who : Fin 2) (transfer : TransferCall)
    (answer : Except Err String), ⟨who, .chain (.writeContract transfer), answer⟩ ∈ cfg.history ∧
      AuthorizedBy verifyAndTransfer cfg.history "req-0" transfer := by
  obtain ⟨cfg, hreach, hsent⟩ := Config.exists_reachable_of_run
    (show (transferStart.run (verifyThenSubmit 0 1 ++ [.call 1 (.text "0x01")])).map
      (fun cfg => cfg.history.any broadcast?) = some true by decide +kernel)
  obtain ⟨event, hevent, hbroadcast⟩ := List.any_eq_true.mp hsent
  obtain ⟨who, transfer, answer, rfl⟩ := exists_of_broadcast? hbroadcast
  obtain ⟨imports, opts, verification, request, record, hcall, -, -, -, -, hauthorized⟩ :=
    transfers_authorized transferStart_calls rfl hreach hevent
  have hopts : opts.requestId = "req-0" := by
    unfold verifyAndTransfer at hcall
    split at hcall
    · cases hcall
    · obtain ⟨-, rfl⟩ := StatusWriter.settle.inj (PipelineCall.write.inj hcall)
      rfl
  refine ⟨cfg, who, transfer, answer, hevent, ?_⟩
  rw [← hopts]
  exact hauthorized distinctIds_verifyAndTransfer List.not_mem_nil List.not_mem_nil

end Runs

end Service

end FacilitatorX402
