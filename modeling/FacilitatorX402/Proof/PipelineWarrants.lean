import FacilitatorX402.Proof.ConfirmationTrail

/-!
# What the calls of the pipeline are told

A verification stores a request and its verification, and a settlement broadcasts a transfer made of the two.
Neither is done before the call has been told what warrants it: the checks that were passed, the claims that
were taken and the answer of the verifier, or the rows that were read.
-/

namespace FacilitatorX402

open Interact

namespace Service

/-- A call of the whole pipeline: a verification, or one that writes the status of settlements. -/
inductive PipelineCall where
  | verify (imports : Imports) (raw : Json) (requestId : String)
  | write (writer : StatusWriter)

def PipelineCall.program : PipelineCall → ServiceProgram (Option SettleResponse)
  | verify imports raw requestId => do
      let _ ← runVerify imports raw requestId
      return none
  | write writer => writer.program

/-! ### What a call has been told -/

section Told

variable {ι : Type} (who : ι) (events : List (Event interface Err ι))

/-- The body has passed the checks at a time that was read, both claims of the payment are taken, the
database has no row with either, and the verifier has answered. -/
structure Cleared (imports : Imports) (body : VerifyRequest) (network : NetworkConfig)
    (asset : AssetConfig) (sigResult : SignatureResult) : Prop where
  networkFound : imports.networkRegistry.getNetworkByName body.network = some network
  assetFound : network.findAsset (imports.host.toUpperCase body.asset) = some asset
  checked : ∃ nowMs, ⟨who, .now, .ok nowMs⟩ ∈ events ∧
    checkAuthorization imports.host body (nowMs / 1000) = .ok none
  nonceClaimed : ⟨who, .redis (.setNx (.nonce body.auth.nonce.text)), .ok true⟩ ∈ events
  signatureClaimed :
    ⟨who, .redis (.setNx (.sig (hashSignature imports.host body.payload.signature.text))), .ok true⟩
      ∈ events
  unused : ⟨who, .findReplay body.auth.nonce.text
    (hashSignature imports.host body.payload.signature.text), .ok none⟩ ∈ events
  answered : imports.verifyTransferAuthorization body.auth body.payload.signature.text asset network
    = .ok sigResult

/-- The request is the one of a cleared body, on the network of that record. -/
def Requested (imports : Imports) (body : VerifyRequest) (requestId : String) (row : PaymentRequest) :
    Prop :=
  ∃ network asset sigResult record, Cleared who events imports body network asset sigResult ∧
    ⟨who, .findNetwork network.chainId, .ok (some record)⟩ ∈ events ∧
    row = paymentRequestRow body requestId record.id

/-- The verification is the one of a cleared body, for the request that was returned; it is accepted only
if the signature is valid. -/
def Verified (imports : Imports) (body : VerifyRequest) (requestId : String)
    (row : PaymentVerification) : Prop :=
  ∃ network asset sigResult, Cleared who events imports body network asset sigResult ∧
    (row.verificationStatus = .accepted → sigResult.valid = true) ∧ StoredFor imports body row ∧
    ∃ request stored, Requested who events imports body requestId request ∧
      ⟨who, .upsertPaymentRequest request, .ok stored⟩ ∈ events ∧ row.requestId = stored.id

/-- The transfer is made of the columns of the two rows. -/
def MadeOf (imports : Imports) (verification : PaymentVerification) (request : PaymentRequest)
    (record : Network) (transfer : TransferCall) : Prop :=
  ∃ network asset value recipient args rpcUrl,
    imports.networkRegistry.getNetwork record.chainId = some network ∧
    network.findAsset request.asset = some asset ∧ grossAmount request.amount = .ok value ∧
    PaidTo who events request recipient ∧
    submitArgs request verification network asset value recipient = .ok args ∧
    rpcUrl ∈ args.rpcUrls ∧ transfer = args.transfer rpcUrl

/-- The transfer is made of what the settlement has read. -/
def Ordered (imports : Imports) (opts : SettleOpts) (transfer : TransferCall) : Prop :=
  ∃ verification request record,
    ⟨who, .findAcceptedVerification opts.verificationId opts.requestId,
      .ok (some (verification, request, record))⟩ ∈ events ∧
    MadeOf who events imports verification request record transfer

/-- The operations that store no request and no verification, and broadcast nothing. -/
def Op.Plain : Op → Prop
  | .upsertPaymentRequest _ => False
  | .createVerification _ => False
  | .chain (.writeContract _) => False
  | _ => True

/-- What a call must have been told before it stores a request or a verification, or broadcasts. -/
def PipelineCall.Warrants : PipelineCall → Op → Prop
  | verify imports raw requestId, .upsertPaymentRequest row =>
      ∃ body, parseVerifyRequest raw = .ok body ∧ Requested who events imports body requestId row
  | verify imports raw requestId, .createVerification row =>
      ∃ body, parseVerifyRequest raw = .ok body ∧ Verified who events imports body requestId row
  | write (.settle imports opts), .chain (.writeContract transfer) =>
      Ordered who events imports opts transfer
  | _, op => op.Plain

end Told

section Mono

variable {ι : Type} {who : ι} {events events' : List (Event interface Err ι)} {imports : Imports}
  {body : VerifyRequest} {requestId : String}

theorem Cleared.mono {network : NetworkConfig} {asset : AssetConfig} {sigResult : SignatureResult}
    (h : Cleared who events imports body network asset sigResult) (hsubset : events ⊆ events') :
    Cleared who events' imports body network asset sigResult where
  networkFound := h.networkFound
  assetFound := h.assetFound
  checked := by
    obtain ⟨nowMs, hread, hchecked⟩ := h.checked
    exact ⟨nowMs, hsubset hread, hchecked⟩
  nonceClaimed := hsubset h.nonceClaimed
  signatureClaimed := hsubset h.signatureClaimed
  unused := hsubset h.unused
  answered := h.answered

theorem Requested.mono {row : PaymentRequest} (h : Requested who events imports body requestId row)
    (hsubset : events ⊆ events') : Requested who events' imports body requestId row := by
  obtain ⟨network, asset, sigResult, record, hcleared, hfound, hrow⟩ := h
  exact ⟨network, asset, sigResult, record, hcleared.mono hsubset, hsubset hfound, hrow⟩

theorem Verified.mono {row : PaymentVerification} (h : Verified who events imports body requestId row)
    (hsubset : events ⊆ events') : Verified who events' imports body requestId row := by
  obtain ⟨network, asset, sigResult, hcleared, hvalid, hfor, request, stored, hrequest, hupserted, hid⟩ := h
  exact ⟨network, asset, sigResult, hcleared.mono hsubset, hvalid, hfor, request, stored,
    hrequest.mono hsubset, hsubset hupserted, hid⟩

theorem MadeOf.mono {verification : PaymentVerification} {request : PaymentRequest} {record : Network}
    {transfer : TransferCall} (h : MadeOf who events imports verification request record transfer)
    (hsubset : events ⊆ events') : MadeOf who events' imports verification request record transfer := by
  obtain ⟨network, asset, value, recipient, args, rpcUrl, hnetwork, hasset, hvalue, hpaid, hrest⟩ := h
  exact ⟨network, asset, value, recipient, args, rpcUrl, hnetwork, hasset, hvalue, hpaid.mono hsubset,
    hrest⟩

theorem Ordered.mono {opts : SettleOpts} {transfer : TransferCall}
    (h : Ordered who events imports opts transfer) (hsubset : events ⊆ events') :
    Ordered who events' imports opts transfer := by
  obtain ⟨verification, request, record, hread, hmade⟩ := h
  exact ⟨verification, request, record, hsubset hread, hmade.mono hsubset⟩

end Mono

/-! ### The calls keep to it -/

section Sat

variable {ι : Type} {who : ι} {call : PipelineCall} {events : List (Event interface Err ι)}
  {imports : Imports}

abbrev pipelineRules (who : ι) (call : PipelineCall) :
    Protocol interface Err (List (Event interface Err ι)) :=
  warranted who fun events => call.Warrants who events

theorem pipeline_of_plain {op : Op} (h : op.Plain) : call.Warrants who events op := by
  cases op with
  | upsertPaymentRequest row => exact h.elim
  | createVerification row => exact h.elim
  | chain op =>
      cases op with
      | writeContract transfer => exact h.elim
      | _ => rcases call with _ | (_ | _ | _) <;> exact h
  | _ => rcases call with _ | (_ | _ | _) <;> exact h

theorem sat_plain {α : Type} {program : ServiceProgram α} (h : program.Only Op.Plain) :
    program.Sat (pipelineRules who call) events fun events' _ => events ⊆ events' :=
  h.warranted fun _ _ _ hop => pipeline_of_plain hop

/-- From here on the call neither stores nor broadcasts. -/
theorem sat_rest {α : Type} {program : ServiceProgram α} (h : program.Only Op.Plain) :
    program.Sat (pipelineRules who call) events fun _ _ => True :=
  (sat_plain h).mono fun _ _ _ => trivial

/-! #### A verification -/

theorem told_claimBoth (nonce signatureHash : String) :
    (promiseAll (redisSetNx (.nonce nonce)) (redisSetNx (.sig signatureHash))).Sat
      (pipelineRules who call) events fun events' outcome => events ⊆ events' ∧
        ∀ nonceClaimed sigClaimed, outcome = .ok (nonceClaimed, sigClaimed) →
          ⟨who, .redis (.setNx (.nonce nonce)), .ok nonceClaimed⟩ ∈ events' ∧
            ⟨who, .redis (.setNx (.sig signatureHash)), .ok sigClaimed⟩ ∈ events' := by
  have hsubset : ∀ event event' event'' : Event interface Err ι,
      events ⊆ event :: event' :: event'' :: events := fun _ _ _ =>
    List.subset_cons_of_subset _ (List.subset_cons_of_subset _ (List.subset_cons_self _ _))
  rw [sat_promiseAll]
  refine ⟨pipeline_of_plain trivial, ?_⟩
  rintro (error | _ | _) events₁ rfl
  · exact ⟨List.subset_cons_self _ _, fun _ _ h => by cases h⟩
  · dsimp only
    rw [sat_redisSetNx]
    refine ⟨pipeline_of_plain trivial, ?_⟩
    rintro y events₂ rfl
    rw [sat_redisSetNx]
    refine ⟨pipeline_of_plain trivial, ?_⟩
    rintro x events₃ rfl
    refine ⟨hsubset _ _ _, fun nonceClaimed sigClaimed h => ?_⟩
    rcases x with error | x <;> rcases y with error' | y <;> cases h
    exact ⟨List.mem_cons_self, List.mem_cons_of_mem _ List.mem_cons_self⟩
  · dsimp only
    rw [sat_redisSetNx]
    refine ⟨pipeline_of_plain trivial, ?_⟩
    rintro x events₂ rfl
    rw [sat_redisSetNx]
    refine ⟨pipeline_of_plain trivial, ?_⟩
    rintro y events₃ rfl
    refine ⟨hsubset _ _ _, fun nonceClaimed sigClaimed h => ?_⟩
    rcases x with error | x <;> rcases y with error' | y <;> cases h
    exact ⟨List.mem_cons_of_mem _ List.mem_cons_self, List.mem_cons_self⟩

theorem told_claimNonceRedis (nonce signatureHash : String) :
    (claimNonceRedis nonce signatureHash).Sat (pipelineRules who call) events fun events' outcome =>
      events ⊆ events' ∧ (outcome = .ok none →
        ⟨who, .redis (.setNx (.nonce nonce)), .ok true⟩ ∈ events' ∧
          ⟨who, .redis (.setNx (.sig signatureHash)), .ok true⟩ ∈ events') := by
  rw [claimNonceRedis, Program.sat_bind']
  apply (told_claimBoth nonce signatureHash).mono
  rintro events₁ (error | ⟨nonceClaimed, sigClaimed⟩) ⟨hsubset, htold⟩
  · exact ⟨hsubset, fun h => by cases h⟩
  have hclaims := htold nonceClaimed sigClaimed rfl
  cases nonceClaimed with
  | false => exact ⟨hsubset, fun h => by cases h⟩
  | true =>
      cases sigClaimed with
      | true => exact ⟨hsubset, fun _ => hclaims⟩
      | false =>
          change Program.Sat _ (redisDel (.nonce nonce) >>= fun _ => _) _ _
          rw [Program.sat_bind', sat_redisDel]
          refine ⟨pipeline_of_plain trivial, ?_⟩
          rintro (error | released) events₂ rfl
          · exact ⟨List.subset_cons_of_subset _ hsubset, fun h => by cases h⟩
          · exact ⟨List.subset_cons_of_subset _ hsubset, fun h => by cases h⟩

theorem told_checkReplayPostgres (nonce signatureHash : String) :
    (checkReplayPostgres nonce signatureHash).Sat (pipelineRules who call) events fun events' outcome =>
      events ⊆ events' ∧
        (outcome = .ok none → ⟨who, .findReplay nonce signatureHash, .ok none⟩ ∈ events') := by
  rw [checkReplayPostgres, findReplay, Program.sat_bind', sat_op]
  refine ⟨pipeline_of_plain trivial, ?_⟩
  rintro (error | _ | existing) events₁ rfl
  · exact ⟨List.subset_cons_self _ _, fun h => by cases h⟩
  · exact ⟨List.subset_cons_self _ _, fun _ => List.mem_cons_self⟩
  · rw [Program.thenSat_ok]
    dsimp only
    split
    · exact ⟨List.subset_cons_self _ _, fun h => by cases h⟩
    · exact ⟨List.subset_cons_self _ _, fun h => by cases h⟩

theorem only_reject_plain (requestId code message : String) (httpStatus : Nat) :
    (reject requestId code message httpStatus).Only Op.Plain :=
  (only_op trivial).bind fun _ => trivial

theorem only_release_plain (nonce signatureHash : String) :
    (releaseNonceRedis nonce signatureHash).Only Op.Plain :=
  (only_promiseAll trivial (only_redisDel trivial) (only_redisDel trivial)).bind fun _ => trivial

section Verify

variable {raw : Json} {requestId : String} {body : VerifyRequest} {network : NetworkConfig}
  {asset : AssetConfig} {sigResult : SignatureResult}

theorem told_persistVerification (hparse : parseVerifyRequest raw = .ok body)
    (hcleared : Cleared who events imports body network asset sigResult) {verdict : Verdict}
    (hvalid : verdict.status = .accepted → sigResult.valid = true) :
    (persistVerification requestId body network verdict
      (hashSignature imports.host body.payload.signature.text) body.auth.nonce.text).Sat
      (pipelineRules who (.verify imports raw requestId)) events fun _ _ => True := by
  rw [persistVerification, findNetwork, Program.sat_bind', sat_op]
  refine ⟨trivial, ?_⟩
  rintro (error | _ | record) events₁ rfl
  · trivial
  · trivial
  have hrequest : Requested who (⟨who, .findNetwork network.chainId, .ok (some record)⟩ :: events) imports
      body requestId (paymentRequestRow body requestId record.id) :=
    ⟨network, asset, sigResult, record, hcleared.mono (List.subset_cons_self _ _), List.mem_cons_self, rfl⟩
  rw [Program.thenSat_ok]
  dsimp only
  rw [upsertPaymentRequest, Program.sat_bind', sat_op]
  refine ⟨⟨body, hparse, hrequest⟩, ?_⟩
  rintro (error | stored) events₂ rfl
  · trivial
  rw [Program.thenSat_ok, ulid, Program.sat_bind', sat_op]
  refine ⟨trivial, ?_⟩
  rintro (error | verificationId) events₃ rfl
  · trivial
  have hverified : Verified who (⟨who, .upsertPaymentRequest (paymentRequestRow body requestId record.id),
      .ok stored⟩ :: ⟨who, .findNetwork network.chainId, .ok (some record)⟩ :: events) imports body
      requestId (verificationRow verdict verificationId stored.id
        (hashSignature imports.host body.payload.signature.text) body.auth.nonce.text) :=
    ⟨network, asset, sigResult,
      hcleared.mono (List.subset_cons_of_subset _ (List.subset_cons_self _ _)), hvalid, ⟨rfl, rfl⟩,
      paymentRequestRow body requestId record.id, stored, hrequest.mono (List.subset_cons_self _ _),
      List.mem_cons_self, rfl⟩
  rw [Program.thenSat_ok, createVerification, Program.sat_bind', sat_op]
  refine ⟨⟨body, hparse, hverified.mono (List.subset_cons_self _ _)⟩, ?_⟩
  rintro (error | created) events₄ - <;> trivial

theorem told_verifyAccepted (hparse : parseVerifyRequest raw = .ok body)
    (hcleared : Cleared who events imports body network asset sigResult) (hvalid : sigResult.valid = true) :
    (verifyAccepted body requestId network
      (hashSignature imports.host body.payload.signature.text)).Sat
      (pipelineRules who (.verify imports raw requestId)) events fun _ _ => True := by
  rw [verifyAccepted, Program.sat_bind', Program.sat_tryCatch, Program.sat_bind']
  apply (told_persistVerification hparse hcleared fun _ => hvalid).mono
  rintro events₁ (error | ⟨paymentRequestId, verificationId⟩) -
  · change Program.Sat _ _ _ _
    rw [Program.sat_bind']
    apply (sat_rest (only_release_plain _ _)).mono
    rintro events₂ (error | released) -
    · trivial
    · exact sat_rest (only_reject_plain _ _ _ _)
  · change (acceptedResponse body requestId paymentRequestId verificationId).Sat _ _ _
    unfold acceptedResponse
    split
    · trivial
    · exact sat_rest ((only_op trivial).bind fun _ => trivial)

theorem told_verifySignature (hparse : parseVerifyRequest raw = .ok body)
    (hcleared : ∀ sigResult,
      imports.verifyTransferAuthorization body.auth body.payload.signature.text asset network
        = .ok sigResult → Cleared who events imports body network asset sigResult) :
    (verifySignature imports network asset body requestId
      (hashSignature imports.host body.payload.signature.text)).Sat
      (pipelineRules who (.verify imports raw requestId)) events fun _ _ => True := by
  rw [verifySignature, Program.sat_bind', Program.sat_ofExcept]
  cases hanswer : imports.verifyTransferAuthorization body.auth body.payload.signature.text asset
    network with
  | error error => trivial
  | ok sigResult =>
      have hclear := hcleared sigResult hanswer
      rw [Program.thenSat_ok]
      split
      · rename_i hvalid
        exact told_verifyAccepted hparse hclear hvalid
      · rw [Program.sat_bind']
        apply (sat_plain (only_release_plain _ _)).mono
        rintro events₁ (error | released) hsubset
        · trivial
        rw [Program.thenSat_ok, Program.sat_bind']
        apply (told_persistVerification hparse (hclear.mono hsubset) (fun h => by cases h)).mono
        rintro events₂ (error | ids) -
        · trivial
        · exact sat_rest (only_reject_plain _ _ _ _)

theorem told_verifyClaimed (hparse : parseVerifyRequest raw = .ok body)
    (hnetwork : imports.networkRegistry.getNetworkByName body.network = some network)
    (hasset : network.findAsset (imports.host.toUpperCase body.asset) = some asset)
    (hchecked : ∃ nowMs, ⟨who, .now, .ok nowMs⟩ ∈ events ∧
      checkAuthorization imports.host body (nowMs / 1000) = .ok none) :
    (verifyClaimed imports network asset body requestId).Sat
      (pipelineRules who (.verify imports raw requestId)) events fun _ _ => True := by
  rw [verifyClaimed, Program.sat_bind']
  apply (told_claimNonceRedis _ _).mono
  rintro events₁ (error | _ | reason) ⟨hsubset₁, hclaims⟩
  · trivial
  · rw [Program.thenSat_ok, Program.sat_bind']
    apply (told_checkReplayPostgres _ _).mono
    rintro events₂ (error | _ | reason) ⟨hsubset₂, hunused⟩
    · trivial
    · apply told_verifySignature hparse
      intro sigResult hanswer
      obtain ⟨nowMs, hread, hpassed⟩ := hchecked
      exact ⟨hnetwork, hasset, ⟨nowMs, hsubset₂ (hsubset₁ hread), hpassed⟩, hsubset₂ (hclaims rfl).1,
        hsubset₂ (hclaims rfl).2, hunused rfl, hanswer⟩
    · exact sat_rest ((only_release_plain _ _).bind fun _ => only_reject_plain _ _ _ _)
  · exact sat_rest (only_reject_plain _ _ _ _)

theorem told_runVerify (raw : Json) (requestId : String) :
    (runVerify imports raw requestId).Sat (pipelineRules who (.verify imports raw requestId)) events
      fun _ _ => True := by
  unfold runVerify parseX402Payload
  cases hparse : parseVerifyRequest raw with
  | error issues => exact sat_rest (only_reject_plain _ _ _ _)
  | ok body =>
      dsimp only [verifyParsed]
      split
      · exact sat_rest (only_reject_plain _ _ _ _)
      · rename_i network hnetwork
        split
        · exact sat_rest (only_reject_plain _ _ _ _)
        · rename_i asset hasset
          rw [verifyChecked, dateNow, Program.sat_bind', sat_op]
          refine ⟨trivial, ?_⟩
          rintro (error | nowMs) events₁ rfl
          · trivial
          rw [Program.thenSat_ok, Program.sat_bind', Program.sat_ofExcept]
          rcases hchecked : checkAuthorization imports.host body (nowMs / 1000)
            with error | _ | ⟨code, message⟩
          · trivial
          · exact told_verifyClaimed hparse hnetwork hasset ⟨nowMs, List.mem_cons_self, hchecked⟩
          · exact sat_rest (only_reject_plain _ _ _ _)

end Verify

/-! #### A settlement -/

/-- The operations of a submission: it broadcasts one transfer, through its endpoints. -/
def Op.Submits (args : SubmitArgs) (op : Op) : Prop :=
  op.Plain ∨ ∃ rpcUrl ∈ args.rpcUrls, op = .chain (.writeContract (args.transfer rpcUrl))

theorem only_submitThrough {args : SubmitArgs} {rpcUrl : String} (hurl : rpcUrl ∈ args.rpcUrls) :
    (submitThrough args rpcUrl).Only fun op => Op.Submits args (.chain op) := by
  have hwrite : Op.Submits args (.chain (.writeContract (args.transfer rpcUrl))) :=
    .inr ⟨rpcUrl, hurl, rfl⟩
  have hwait : ∀ txHash, Op.Submits args (.chain (.waitForTransactionReceipt rpcUrl txHash)) :=
    fun _ => .inl trivial
  apply Program.Only.bind (Program.only_call hwrite)
  intro txHash
  apply Program.Only.bind (Program.only_call (hwait txHash))
  intro receipt
  dsimp only
  split <;> trivial

theorem only_submitLoop {args : SubmitArgs} (rpcUrls : List String) (hurls : rpcUrls ⊆ args.rpcUrls)
    (lastError : Option Err) :
    (submitLoop args rpcUrls lastError).Only fun op => Op.Submits args (.chain op) := by
  induction rpcUrls generalizing lastError with
  | nil => trivial
  | cons rpcUrl rpcUrls ih =>
      apply (only_submitThrough (hurls List.mem_cons_self)).tryCatch
      intro error
      exact ih (List.subset_of_cons_subset hurls) (some error)

theorem only_submit (args : SubmitArgs) : (submit args).Only (Op.Submits args) := by
  apply Program.Only.lift chainHom
  have henter : Op.Submits args (.chain (.submitOnChain args)) := .inl trivial
  have hleave : Op.Submits args (.chain .submitOnChainEnd) := .inl trivial
  have hloop := only_submitLoop args.rpcUrls (List.Subset.refl _) none
  apply Program.Only.bind (Program.only_call henter)
  intro entered
  exact (hloop.attempt.bind fun _ => (Program.only_call hleave).bind fun _ => Program.only_ofExcept _)

section Settle

variable {opts : SettleOpts} {verification : PaymentVerification} {request : PaymentRequest}
  {record : Network} {settlementId : String}

theorem only_settleReject_plain (requestId code message : String) (httpStatus : Nat) :
    (settleReject requestId code message httpStatus).Only Op.Plain :=
  only_settleReject trivial _ _ _ _

theorem told_order
    (hread : ⟨who, .findAcceptedVerification opts.verificationId opts.requestId,
      .ok (some (verification, request, record))⟩ ∈ events) :
    (settleBody imports opts verification request record settlementId).Sat
      (pipelineRules who (.write (.settle imports opts))) events fun _ _ => True := by
  unfold settleBody
  dsimp only
  split
  · trivial
  · rename_i network asset hfound
    obtain ⟨network', hnetwork, hrest⟩ := Option.bind_eq_some_iff.mp hfound
    obtain ⟨asset', hasset, hboth⟩ := Option.bind_eq_some_iff.mp hrest
    obtain ⟨rfl, rfl⟩ := Prod.mk.inj (Option.some.inj hboth)
    rw [Program.sat_bind', Program.sat_ofExcept]
    cases hvalue : grossAmount request.amount with
    | error error => trivial
    | ok value =>
        rw [Program.thenSat_ok, Program.sat_bind']
        apply (told_payee (fun _ _ => trivial) request).mono
        rintro events₁ (error | recipient) ⟨hsubset₁, hpaid⟩
        · trivial
        rw [Program.thenSat_ok, Program.sat_bind', Program.sat_ofExcept]
        cases hargs : submitArgs request verification network' asset' value recipient with
        | error error => trivial
        | ok args =>
            have hordered : ∀ events', events₁ ⊆ events' → ∀ op, Op.Submits args op →
                (PipelineCall.write (.settle imports opts)).Warrants who events' op := by
              rintro events' hsubset op (hplain | ⟨rpcUrl, hurl, rfl⟩)
              · exact pipeline_of_plain hplain
              · exact ⟨verification, request, record, hsubset (hsubset₁ hread), network', asset', value,
                  recipient, args, rpcUrl, hnetwork, hasset, hvalue, (hpaid recipient rfl).mono hsubset,
                  hargs, hurl, rfl⟩
            rw [Program.thenSat_ok, Program.sat_bind']
            apply ((only_submit args).warranted hordered).mono
            rintro events₂ (error | onChainResult) -
            · trivial
            · exact sat_rest (only_settleSubmitted trivial trivial (fun _ _ _ => trivial) trivial
                request _ value onChainResult)

theorem told_settlement (imports : Imports) (opts : SettleOpts) :
    (runSettle imports opts).Sat (pipelineRules who (.write (.settle imports opts))) events
      fun _ _ => True := by
  rw [runSettle, findAcceptedVerification, Program.sat_bind', sat_op]
  refine ⟨trivial, ?_⟩
  rintro (error | _ | ⟨verification, request, record⟩) events₁ rfl
  · trivial
  · exact sat_rest (only_settleReject_plain _ _ _ _)
  change (settleAccepted imports opts verification request record).Sat _ _ _
  rw [settleAccepted, findSettlement, Program.sat_bind', sat_op]
  refine ⟨trivial, ?_⟩
  rintro (error | _ | ⟨existing, receipt⟩) events₂ rfl
  · trivial
  · rw [Program.thenSat_ok, Program.sat_bind', sat_redisSetNx]
    refine ⟨trivial, ?_⟩
    rintro (error | _ | _) events₃ rfl
    · trivial
    · exact sat_rest (only_settleReject_plain _ _ _ _)
    rw [Program.thenSat_ok, if_pos rfl, settleHolding, ulid, Program.sat_bind', sat_op]
    refine ⟨trivial, ?_⟩
    rintro (error | settlementId) events₄ rfl
    · trivial
    rw [Program.thenSat_ok, createSettlement, Program.sat_bind', sat_op]
    refine ⟨trivial, ?_⟩
    rintro (error | created) events₅ rfl
    · trivial
    rw [Program.thenSat_ok, Program.sat_tryCatch]
    apply (told_order (by simp)).mono
    rintro events₆ (error | response) -
    · exact sat_rest (only_settleFailure trivial trivial trivial error)
    · trivial
  · exact sat_rest (only_settleExisting trivial _ _ _)

end Settle

open ConfirmWorker

theorem only_pollReceipt_plain (txHash : String) (rpcUrls : List String) :
    (pollReceipt txHash rpcUrls).Only Op.Plain := by
  induction rpcUrls with
  | nil => trivial
  | cons rpcUrl rpcUrls ih =>
      have hwait : (waitForReceipt rpcUrl txHash).Only Op.Plain :=
        Program.Only.lift chainHom (Program.only_call trivial)
      have hfirst : ((waitForReceipt rpcUrl txHash).bind fun receipt =>
          (.ret (some receipt) : ServiceProgram (Option TxReceipt))).Only Op.Plain :=
        hwait.bind fun _ => trivial
      exact hfirst.tryCatch fun _ => ih

theorem only_persistReceipt_plain (computeFees : Int → Fees) (job : SettlementConfirmationJob)
    (status : ReceiptStatus) : (persistReceipt computeFees job status).Only Op.Plain := by
  cases status with
  | reverted => exact (only_op trivial).bind fun _ => trivial
  | success =>
      apply (Program.only_ofExcept _).bind
      intro value
      apply (only_op trivial).bind
      intro confirmedAt
      apply (only_op trivial).bind
      intro receiptId
      apply (only_op trivial).bind
      intro confirmed
      exact (only_redisDel trivial).ignoreErrors

theorem only_confirmOnChain_plain (computeFees : Int → Fees) (job : SettlementConfirmationJob) :
    (confirmOnChain computeFees job).Only Op.Plain := by
  apply (only_pollReceipt_plain job.txHash job.rpcUrls).bind
  rintro (_ | receipt)
  · trivial
  · exact only_persistReceipt_plain computeFees job receipt.status

theorem only_attempt_plain (computeFees : Int → Fees) (job : SettlementConfirmationJob) :
    (ConfirmWorker.confirmSettlement computeFees job).Only Op.Plain := by
  apply Program.Only.bind (only_op trivial)
  rintro (_ | status)
  · exact only_confirmOnChain_plain computeFees job
  · cases status with
    | pending => exact only_confirmOnChain_plain computeFees job
    | processing => exact only_confirmOnChain_plain computeFees job
    | confirmed => trivial
    | failed => trivial

theorem only_onFailed_plain (job : Option Job) : (onFailed job).Only Op.Plain := by
  unfold onFailed
  split
  · trivial
  · split
    · exact (only_op trivial).ignoreErrors
    · trivial

theorem PipelineCall.sat_pipelineRules (call : PipelineCall) :
    call.program.Sat (pipelineRules who call) [] fun _ _ => True := by
  rcases call with ⟨imports, raw, requestId⟩ | (⟨imports, opts⟩ | ⟨computeFees, job⟩ | ⟨job⟩)
  · rw [program, Program.sat_bind']
    apply (told_runVerify raw requestId).mono
    rintro events (error | response) - <;> trivial
  · change Program.Sat _ (runSettle imports opts >>= fun _ => _) _ _
    rw [Program.sat_bind']
    apply (told_settlement imports opts).mono
    rintro events (error | response) - <;> trivial
  · exact sat_rest ((only_attempt_plain computeFees job).bind fun _ => trivial)
  · exact sat_rest ((only_onFailed_plain job).bind fun _ => trivial)

end Sat

end Service

end FacilitatorX402
