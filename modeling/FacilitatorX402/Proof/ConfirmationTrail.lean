import FacilitatorX402.Library.Warranted
import FacilitatorX402.Proof.TerminalStatus

/-!
# What a confirmation goes back to

A settlement is confirmed in two places: by the call that has submitted it, and by the worker that polls for
the receipt of its transaction. Neither takes the transaction or the fees from the row. What is stored in the
row and in the receipt of the payment goes back to the history of the call that stored it: to the rows it has
read, the transfer it has broadcast and the receipt it was given.
-/

namespace FacilitatorX402

open Interact KeyedRows

namespace Service

open ConfirmWorker

/-! ### What a call has been told -/

section Told

variable {ι : Type} (who : ι) (events : List (Event interface Err ι))

/-- An endpoint has returned the receipt of the transaction, as successful. -/
def Mined (rpcUrl txHash : String) : Prop :=
  ∃ receipt : TxReceipt, receipt.status = .success ∧
    ⟨who, .chain (.waitForTransactionReceipt rpcUrl txHash), .ok receipt⟩ ∈ events

/-- One of the endpoints has taken the transfer as this transaction, and has returned its receipt. -/
def Transferred (args : SubmitArgs) (txHash : String) : Prop :=
  ∃ rpcUrl ∈ args.rpcUrls,
    ⟨who, .chain (.writeContract (args.transfer rpcUrl)), .ok txHash⟩ ∈ events ∧
      Mined who events rpcUrl txHash

/-- The recipient of a payment without a seller is its buyer, of any other the wallet that was read. -/
def PaidTo (request : PaymentRequest) (recipient : Option String) : Prop :=
  request.sellerId.getD "" = "" ∧ recipient = some request.buyerAddress ∨
    ∃ seller, ⟨who, .findSeller (request.sellerId.getD ""), .ok seller⟩ ∈ events ∧
      recipient = seller.map (·.walletAddress)

/-- The columns and the amounts that are stored for a gross amount. -/
structure Accounts (fees : Fees) (gross transaction : String) (data : Confirmation)
    (receipt : PaymentReceipt) : Prop where
  txHash : data.txHash = transaction
  feeAmount : data.feeAmount = toString fees.platformFee
  developerShare : data.developerShare = toString fees.developerShare
  receiptTxHash : receipt.responsePayload.txHash = transaction
  grossAmount : receipt.responsePayload.grossAmount = gross
  receiptFeeAmount : receipt.responsePayload.feeAmount = toString fees.platformFee
  receiptDeveloperShare : receipt.responsePayload.developerShare = toString fees.developerShare
  netAmount : receipt.responsePayload.netAmount = toString fees.netAmount
  confirmedAt : receipt.responsePayload.confirmedAt = isoText data.confirmedAt

/-- A settlement confirms the row it has created, after the transfer of what was verified. -/
structure Settled (imports : Imports) (opts : SettleOpts) (id : String) (data : Confirmation)
    (receipt : PaymentReceipt) : Prop where
  created : ⟨who, .createSettlement id opts.requestId opts.referralCode, .ok ()⟩ ∈ events
  transferred : ∃ verification request record network asset value recipient args,
    ⟨who, .findAcceptedVerification opts.verificationId opts.requestId,
      .ok (some (verification, request, record))⟩ ∈ events ∧
    imports.networkRegistry.getNetwork record.chainId = some network ∧
    network.findAsset request.asset = some asset ∧
    Service.grossAmount request.amount = .ok value ∧ PaidTo who events request recipient ∧
    submitArgs request verification network asset value recipient = .ok args ∧
    Transferred who events args data.txHash ∧
    Accounts (imports.computeFees value) (toString value) data.txHash data receipt
  clock : ⟨who, .now, .ok data.confirmedAt⟩ ∈ events
  requestId : receipt.requestId = opts.requestId

/-- An attempt confirms the row of its job, after the receipt of the transaction of its job. -/
structure Polled (computeFees : Int → Fees) (job : SettlementConfirmationJob) (id : String)
    (data : Confirmation) (receipt : PaymentReceipt) : Prop where
  settlementId : id = job.settlementId
  mined : ∃ rpcUrl ∈ job.rpcUrls, Mined who events rpcUrl job.txHash
  accounts : ∃ value, Service.grossAmount job.grossAmount = .ok value ∧
    Accounts (computeFees value) job.grossAmount job.txHash data receipt
  clock : ⟨who, .now, .ok data.confirmedAt⟩ ∈ events
  requestId : receipt.requestId = job.requestId

/-- What a call must have been told before it confirms a settlement. -/
def StatusWriter.Warrants : StatusWriter → Op → Prop
  | settle imports opts, .confirmSettlement id data receipt =>
      Settled who events imports opts id data receipt
  | attempt computeFees job, .confirmByWorker id data receipt =>
      Polled who events computeFees job id data receipt
  | _, .confirmSettlement _ _ _ => False
  | _, .confirmByWorker _ _ _ => False
  | _, _ => True

end Told

section Mono

variable {ι : Type} {who : ι} {events events' : List (Event interface Err ι)}

theorem Mined.mono {rpcUrl txHash : String} (h : Mined who events rpcUrl txHash)
    (hsubset : events ⊆ events') : Mined who events' rpcUrl txHash := by
  obtain ⟨receipt, hstatus, hmem⟩ := h
  exact ⟨receipt, hstatus, hsubset hmem⟩

theorem Transferred.mono {args : SubmitArgs} {txHash : String}
    (h : Transferred who events args txHash) (hsubset : events ⊆ events') :
    Transferred who events' args txHash := by
  obtain ⟨rpcUrl, hurl, hsent, hmined⟩ := h
  exact ⟨rpcUrl, hurl, hsubset hsent, hmined.mono hsubset⟩

theorem PaidTo.mono {request : PaymentRequest} {recipient : Option String}
    (h : PaidTo who events request recipient) (hsubset : events ⊆ events') :
    PaidTo who events' request recipient := by
  rcases h with hbuyer | ⟨seller, hread, hrecipient⟩
  · exact .inl hbuyer
  · exact .inr ⟨seller, hsubset hread, hrecipient⟩

variable {imports : Imports} {opts : SettleOpts} {computeFees : Int → Fees}
  {job : SettlementConfirmationJob} {id : String} {data : Confirmation} {receipt : PaymentReceipt}

theorem Settled.mono (h : Settled who events imports opts id data receipt)
    (hsubset : events ⊆ events') : Settled who events' imports opts id data receipt := by
  obtain ⟨verification, request, record, network, asset, value, recipient, args, hread, hnetwork,
    hasset, hvalue, hpaid, hargs, htransferred, haccounts⟩ := h.transferred
  exact ⟨hsubset h.created, ⟨verification, request, record, network, asset, value, recipient, args,
    hsubset hread, hnetwork, hasset, hvalue, hpaid.mono hsubset, hargs, htransferred.mono hsubset,
    haccounts⟩, hsubset h.clock, h.requestId⟩

theorem Polled.mono (h : Polled who events computeFees job id data receipt)
    (hsubset : events ⊆ events') : Polled who events' computeFees job id data receipt := by
  obtain ⟨rpcUrl, hurl, hmined⟩ := h.mined
  exact ⟨h.settlementId, ⟨rpcUrl, hurl, hmined.mono hsubset⟩, h.accounts, hsubset h.clock, h.requestId⟩

theorem StatusWriter.Warrants.mono {writer : StatusWriter} {op : Op}
    (h : writer.Warrants who events op) (hsubset : events ⊆ events') :
    writer.Warrants who events' op := by
  cases writer with
  | settle imports opts =>
      cases op with
      | confirmSettlement id data receipt => exact Settled.mono h hsubset
      | _ => exact h
  | attempt computeFees job =>
      cases op with
      | confirmByWorker id data receipt => exact Polled.mono h hsubset
      | _ => exact h
  | onFailed job => cases op <;> exact h

end Mono

/-! ### The calls keep to it -/

section Sat

variable {ι : Type} {who : ι} {writer : StatusWriter} {events : List (Event interface Err ι)}
  {imports : Imports} {opts : SettleOpts} {verification : PaymentVerification}
  {request : PaymentRequest} {record : Network} {settlementId : String}
  {computeFees : Int → Fees} {job : SettlementConfirmationJob}

abbrev confirmRules (who : ι) (writer : StatusWriter) :
    Protocol interface Err (List (Event interface Err ι)) :=
  warranted who fun events => writer.Warrants who events

/-- The operations that confirm nothing. -/
def Op.Free : Op → Prop
  | .confirmSettlement _ _ _ => False
  | .confirmByWorker _ _ _ => False
  | _ => True

theorem warrants_of_free {op : Op} (h : op.Free) : writer.Warrants who events op := by
  cases op with
  | confirmSettlement id data receipt => exact h.elim
  | confirmByWorker id data receipt => exact h.elim
  | _ => cases writer <;> trivial

theorem sat_free {α : Type} {program : ServiceProgram α} (h : program.Only Op.Free) :
    program.Sat (confirmRules who writer) events fun events' _ => events ⊆ events' :=
  h.warranted fun _ _ _ hop => warrants_of_free hop

/-- From here on the call confirms nothing. -/
theorem sat_over {α : Type} {program : ServiceProgram α} (h : program.Only Op.Free) :
    program.Sat (confirmRules who writer) events fun _ _ => True :=
  (sat_free h).mono fun _ _ _ => trivial

theorem told_of_comap {op : ChainOp} {answer : Except Err op.Ans}
    {events' : List (Event interface Err ι)}
    (h : ((confirmRules who writer).comap chainHom).trans events op answer events') :
    events' = ⟨who, .chain op, answer⟩ :: events := by
  obtain ⟨answer', hanswer, htold⟩ := h
  rw [← hanswer, htold]
  cases answer' <;> rfl

theorem told_submitThrough {args : SubmitArgs} {rpcUrl : String} (hurl : rpcUrl ∈ args.rpcUrls) :
    (submitThrough args rpcUrl).Sat ((confirmRules who writer).comap chainHom) events
      fun events' outcome => events ⊆ events' ∧
        ∀ result, outcome = .ok result → Transferred who events' args result.txHash := by
  have hsubset : ∀ event event' : Event interface Err ι, events ⊆ event :: event' :: events :=
    fun event event' => List.subset_cons_of_subset _ (List.subset_cons_self _ _)
  rw [submitThrough, writeContract, Program.sat_bind', sat_chainOp]
  refine ⟨warrants_of_free trivial, fun answer events' htrans => ?_⟩
  obtain rfl := told_of_comap htrans
  rcases answer with error | txHash
  · exact ⟨List.subset_cons_self _ _, fun _ h => by cases h⟩
  rw [Program.thenSat_ok, waitForTransactionReceipt, Program.sat_bind', sat_chainOp]
  refine ⟨warrants_of_free trivial, fun answer events' htrans => ?_⟩
  obtain rfl := told_of_comap htrans
  rcases answer with error | receipt
  · exact ⟨hsubset _ _, fun _ h => by cases h⟩
  rw [Program.thenSat_ok]
  cases hstatus : receipt.status with
  | reverted => exact ⟨hsubset _ _, fun _ h => by cases h⟩
  | success =>
      refine ⟨hsubset _ _, fun result hresult => ?_⟩
      cases hresult
      exact ⟨rpcUrl, hurl, List.mem_cons_of_mem _ List.mem_cons_self, receipt, hstatus,
        List.mem_cons_self⟩

theorem told_submitLoop {args : SubmitArgs} (rpcUrls : List String)
    (hurls : rpcUrls ⊆ args.rpcUrls) (lastError : Option Err)
    (events : List (Event interface Err ι)) :
    (submitLoop args rpcUrls lastError).Sat ((confirmRules who writer).comap chainHom) events
      fun events' outcome => events ⊆ events' ∧
        ∀ result, outcome = .ok result → Transferred who events' args result.txHash := by
  induction rpcUrls generalizing lastError events with
  | nil => exact ⟨List.Subset.refl _, fun _ h => by cases h⟩
  | cons rpcUrl rpcUrls ih =>
      rw [submitLoop, Program.sat_tryCatch]
      apply (told_submitThrough (hurls List.mem_cons_self)).mono
      rintro events' (error | result) ⟨hsubset, htransferred⟩
      · apply (ih (List.subset_of_cons_subset hurls) (some error) events').mono
        rintro events'' outcome ⟨hsubset', htransferred'⟩
        exact ⟨List.Subset.trans hsubset hsubset', htransferred'⟩
      · exact ⟨hsubset, htransferred⟩

theorem told_submit (args : SubmitArgs) :
    (submit args).Sat (confirmRules who writer) events fun events' outcome => events ⊆ events' ∧
      ∀ result, outcome = .ok result → Transferred who events' args result.txHash := by
  rw [submit, Program.sat_lift, submitOnChain, enterSubmitOnChain, Program.sat_bind', sat_chainOp]
  refine ⟨warrants_of_free trivial, fun answer events' htrans => ?_⟩
  obtain rfl := told_of_comap htrans
  rcases answer with error | entered
  · exact ⟨List.subset_cons_self _ _, fun _ h => by cases h⟩
  rw [Program.thenSat_ok, Program.sat_tryFinally]
  apply (told_submitLoop args.rpcUrls (List.Subset.refl _) none _).mono
  rintro events' outcome ⟨hsubset, htransferred⟩
  rw [leaveSubmitOnChain, sat_chainOp]
  refine ⟨warrants_of_free trivial, fun answer events'' htrans => ?_⟩
  obtain rfl := told_of_comap htrans
  have hevents : events ⊆ ⟨who, .chain .submitOnChainEnd, answer⟩ :: events' :=
    List.Subset.trans (List.Subset.trans (List.subset_cons_self _ _) hsubset) (List.subset_cons_self _ _)
  rcases answer with error | left
  · exact ⟨hevents, fun _ h => by cases h⟩
  · refine ⟨hevents, fun result hresult => ?_⟩
    exact (htransferred result hresult).mono (List.subset_cons_self _ _)

theorem told_payee {warrants : List (Event interface Err ι) → Op → Prop}
    (hseller : ∀ events id, warrants events (.findSeller id)) (request : PaymentRequest) :
    (payee request).Sat (warranted who warrants) events fun events' outcome =>
      events ⊆ events' ∧ ∀ recipient, outcome = .ok recipient → PaidTo who events' request recipient := by
  simp only [payee]
  split
  · rename_i hseller
    refine ⟨List.Subset.refl _, fun recipient hrecipient => ?_⟩
    cases hrecipient
    exact .inl ⟨hseller, rfl⟩
  · rw [findSeller, Program.sat_bind', sat_op]
    refine ⟨hseller _ _, ?_⟩
    rintro (error | seller) events' rfl
    · exact ⟨List.subset_cons_self _ _, fun _ h => by cases h⟩
    · refine ⟨List.subset_cons_self _ _, fun recipient hrecipient => ?_⟩
      cases hrecipient
      exact .inr ⟨seller, List.mem_cons_self, rfl⟩

theorem accounts_confirmation (onChainResult : OnChainResult) (fees : Fees) (value : Int)
    (network : NetworkConfig) (receiptId : String) (confirmedAt : Nat) :
    Accounts fees (toString value) onChainResult.txHash (confirmation onChainResult fees confirmedAt)
      (settlementReceipt opts request network value fees settlementId receiptId
        (confirmation onChainResult fees confirmedAt)) :=
  ⟨rfl, rfl, rfl, rfl, rfl, rfl, rfl, rfl, rfl⟩

theorem told_settleBody
    (hread : ⟨who, .findAcceptedVerification opts.verificationId opts.requestId,
      .ok (some (verification, request, record))⟩ ∈ events)
    (hcreated : ⟨who, .createSettlement settlementId opts.requestId opts.referralCode, .ok ()⟩
      ∈ events) :
    (settleBody imports opts verification request record settlementId).Sat
      (confirmRules who (.settle imports opts)) events fun _ _ => True := by
  unfold settleBody
  dsimp only
  split
  · trivial
  · rename_i network asset hfound
    obtain ⟨network', hnetwork, hrest⟩ := Option.bind_eq_some_iff.mp hfound
    obtain ⟨asset', hasset, hboth⟩ := Option.bind_eq_some_iff.mp hrest
    obtain ⟨rfl, rfl⟩ := Prod.mk.inj (Option.some.inj hboth)
    rw [Program.sat_bind', Program.sat_ofExcept]
    cases hvalue : grossAmount request.amount with
    | error error => trivial
    | ok value =>
        rw [Program.thenSat_ok, Program.sat_bind']
        apply (told_payee (fun _ _ => warrants_of_free trivial) request).mono
        rintro events₁ (error | recipient) ⟨hsubset₁, hpaid⟩
        · trivial
        rw [Program.thenSat_ok, Program.sat_bind', Program.sat_ofExcept]
        cases hargs : submitArgs request verification network' asset' value recipient with
        | error error => trivial
        | ok args =>
            rw [Program.thenSat_ok, Program.sat_bind']
            apply (told_submit args).mono
            rintro events₂ (error | onChainResult) ⟨hsubset₂, htransferred⟩
            · trivial
            rw [Program.thenSat_ok, settleSubmitted, dateNow, Program.sat_bind', sat_op]
            refine ⟨trivial, ?_⟩
            rintro (error | confirmedAt) events₃ rfl
            · trivial
            rw [Program.thenSat_ok, ulid, Program.sat_bind', sat_op]
            refine ⟨trivial, ?_⟩
            rintro (error | receiptId) events₄ rfl
            · trivial
            rw [Program.thenSat_ok]
            dsimp only
            rw [confirmSettlement, Program.sat_bind', sat_op]
            have htold : events₂ ⊆ ⟨who, .generateId, .ok receiptId⟩ :: ⟨who, .now, .ok confirmedAt⟩ :: events₂ :=
              List.subset_cons_of_subset _ (List.subset_cons_self _ _)
            have hsettled : Settled who _ imports opts settlementId
                (confirmation onChainResult (imports.computeFees value) confirmedAt)
                (settlementReceipt opts request network' value (imports.computeFees value)
                  settlementId receiptId
                  (confirmation onChainResult (imports.computeFees value) confirmedAt)) :=
              { created := htold (hsubset₂ (hsubset₁ hcreated))
                transferred := ⟨verification, request, record, network', asset', value, recipient, args,
                  htold (hsubset₂ (hsubset₁ hread)), hnetwork, hasset, hvalue,
                  (hpaid recipient rfl).mono (List.Subset.trans hsubset₂ htold), hargs,
                  (htransferred onChainResult rfl).mono htold, accounts_confirmation _ _ _ _ _ _⟩
                clock := List.mem_cons_of_mem _ List.mem_cons_self
                requestId := rfl }
            refine ⟨hsettled, ?_⟩
            rintro (error | confirmed) events₅ rfl
            · trivial
            · exact sat_over ((only_redisDel trivial).bind fun _ => trivial)

theorem told_settleHolding
    (hread : ⟨who, .findAcceptedVerification opts.verificationId opts.requestId,
      .ok (some (verification, request, record))⟩ ∈ events) :
    (settleHolding imports opts verification request record).Sat
      (confirmRules who (.settle imports opts)) events fun _ _ => True := by
  rw [settleHolding, ulid, Program.sat_bind', sat_op]
  refine ⟨trivial, ?_⟩
  rintro (error | settlementId) events₁ rfl
  · trivial
  rw [Program.thenSat_ok, createSettlement, Program.sat_bind', sat_op]
  refine ⟨trivial, ?_⟩
  rintro (error | created) events₂ rfl
  · trivial
  rw [Program.thenSat_ok, Program.sat_tryCatch]
  apply (told_settleBody (List.mem_cons_of_mem _ (List.mem_cons_of_mem _ hread))
    List.mem_cons_self).mono
  rintro events₃ (error | response) -
  · exact sat_over (only_settleFailure trivial trivial trivial error)
  · trivial

theorem told_runSettle (imports : Imports) (opts : SettleOpts) :
    (runSettle imports opts).Sat (confirmRules who (.settle imports opts)) events
      fun _ _ => True := by
  rw [runSettle, findAcceptedVerification, Program.sat_bind', sat_op]
  refine ⟨trivial, ?_⟩
  rintro (error | _ | ⟨verification, request, record⟩) events₁ rfl
  · trivial
  · exact sat_over (only_settleReject trivial _ _ _ _)
  change (settleAccepted imports opts verification request record).Sat _ _ _
  rw [settleAccepted, findSettlement, Program.sat_bind', sat_op]
  refine ⟨trivial, ?_⟩
  rintro (error | _ | ⟨existing, receipt⟩) events₂ rfl
  · trivial
  · rw [Program.thenSat_ok, Program.sat_bind', sat_redisSetNx]
    refine ⟨trivial, ?_⟩
    rintro (error | _ | _) events₃ rfl
    · trivial
    · exact sat_over (only_settleReject trivial _ _ _ _)
    · exact told_settleHolding (List.mem_cons_of_mem _ (List.mem_cons_of_mem _ List.mem_cons_self))
  · exact sat_over (only_settleExisting trivial _ _ _)

theorem told_pollReceipt {txHash : String} (rpcUrls : List String)
    (events : List (Event interface Err ι)) :
    (pollReceipt txHash rpcUrls).Sat (confirmRules who writer) events fun events' outcome =>
      ∀ receipt, outcome = .ok (some receipt) → receipt.status = .success →
        ∃ rpcUrl ∈ rpcUrls, Mined who events' rpcUrl txHash := by
  induction rpcUrls generalizing events with
  | nil =>
      rintro receipt hreceipt
      cases hreceipt
  | cons rpcUrl rpcUrls ih =>
      rw [pollReceipt, Program.sat_tryCatch, waitForReceipt, Program.sat_bind', Program.sat_lift,
        waitForTransactionReceipt, sat_chainOp]
      refine ⟨warrants_of_free trivial, fun answer events' htrans => ?_⟩
      obtain rfl := told_of_comap htrans
      rcases answer with error | receipt
      · apply (ih _).mono
        intro events'' outcome hmined receipt hreceipt hstatus
        obtain ⟨rpcUrl', hurl, htold⟩ := hmined receipt hreceipt hstatus
        exact ⟨rpcUrl', List.mem_cons_of_mem _ hurl, htold⟩
      · intro receipt' hreceipt hstatus
        cases hreceipt
        exact ⟨rpcUrl, List.mem_cons_self, receipt, hstatus, List.mem_cons_self⟩

theorem accounts_workerConfirmation (fees : Fees) (receiptId : String) (confirmedAt : Nat) :
    Accounts fees job.grossAmount job.txHash (ConfirmWorker.confirmation job fees confirmedAt)
      (ConfirmWorker.settlementReceipt job fees receiptId confirmedAt) :=
  ⟨rfl, rfl, rfl, rfl, rfl, rfl, rfl, rfl, rfl⟩

theorem told_persistReceipt {status : ReceiptStatus}
    (hmined : status = .success → ∃ rpcUrl ∈ job.rpcUrls, Mined who events rpcUrl job.txHash) :
    (persistReceipt computeFees job status).Sat (confirmRules who (.attempt computeFees job)) events
      fun _ _ => True := by
  cases status with
  | reverted => exact sat_over ((only_op trivial).bind fun _ => trivial)
  | success =>
      rw [persistReceipt, Program.sat_bind', Program.sat_ofExcept]
      cases hvalue : grossAmount job.grossAmount with
      | error error => trivial
      | ok value =>
          rw [Program.thenSat_ok]
          dsimp only
          rw [dateNow, Program.sat_bind', sat_op]
          refine ⟨trivial, ?_⟩
          rintro (error | confirmedAt) events₁ rfl
          · trivial
          rw [Program.thenSat_ok, ulid, Program.sat_bind', sat_op]
          refine ⟨trivial, ?_⟩
          rintro (error | receiptId) events₂ rfl
          · trivial
          rw [Program.thenSat_ok, confirmByWorker, Program.sat_bind', sat_op]
          have htold : events ⊆ ⟨who, .generateId, .ok receiptId⟩ :: ⟨who, .now, .ok confirmedAt⟩ :: events :=
            List.subset_cons_of_subset _ (List.subset_cons_self _ _)
          obtain ⟨rpcUrl, hurl, hmined⟩ := hmined rfl
          have hpolled : Polled who _ computeFees job job.settlementId
              (ConfirmWorker.confirmation job (computeFees value) confirmedAt)
              (ConfirmWorker.settlementReceipt job (computeFees value) receiptId confirmedAt) :=
            { settlementId := rfl
              mined := ⟨rpcUrl, hurl, hmined.mono htold⟩
              accounts := ⟨value, hvalue, accounts_workerConfirmation _ _ _⟩
              clock := List.mem_cons_of_mem _ List.mem_cons_self
              requestId := rfl }
          refine ⟨hpolled, ?_⟩
          rintro (error | confirmed) events₃ rfl
          · trivial
          · exact sat_over (only_redisDel trivial).ignoreErrors

theorem told_confirmOnChain :
    (confirmOnChain computeFees job).Sat (confirmRules who (.attempt computeFees job)) events
      fun _ _ => True := by
  rw [confirmOnChain, Program.sat_bind']
  apply (told_pollReceipt job.rpcUrls events).mono
  rintro events' (error | _ | receipt) hmined
  · trivial
  · trivial
  · exact told_persistReceipt (hmined receipt rfl)

theorem told_attempt (computeFees : Int → Fees) (job : SettlementConfirmationJob) :
    (ConfirmWorker.confirmSettlement computeFees job).Sat
      (confirmRules who (.attempt computeFees job)) events fun _ _ => True := by
  rw [ConfirmWorker.confirmSettlement, findSettlementStatus, Program.sat_bind', sat_op]
  refine ⟨trivial, ?_⟩
  rintro (error | _ | status) events' rfl
  · trivial
  · exact told_confirmOnChain
  · cases status with
    | pending => exact told_confirmOnChain
    | processing => exact told_confirmOnChain
    | confirmed => trivial
    | failed => trivial

theorem only_onFailed_free (job : Option Job) : (onFailed job).Only Op.Free := by
  unfold onFailed
  split
  · trivial
  · split
    · exact (only_op trivial).ignoreErrors
    · trivial

theorem StatusWriter.sat_confirmRules (writer : StatusWriter) :
    writer.program.Sat (confirmRules who writer) [] fun _ _ => True := by
  cases writer with
  | settle imports opts =>
      rw [program, Program.sat_bind']
      apply (told_runSettle imports opts).mono
      rintro events (error | response) - <;> trivial
  | attempt computeFees job =>
      rw [program, Program.sat_bind']
      apply (told_attempt computeFees job).mono
      rintro events (error | done) - <;> trivial
  | onFailed job => exact sat_over ((only_onFailed_free job).bind fun _ => trivial)

end Sat

/-! ### Where the rows and the receipts come from -/

/-- The row has the columns of the confirmation. -/
structure PaymentSettlement.Carries (row : PaymentSettlement) (data : Confirmation) : Prop where
  txHash : row.txHash = some data.txHash
  feeAmount : row.feeAmount = some data.feeAmount
  developerShare : row.developerShare = some data.developerShare
  confirmedAt : row.confirmedAt = some data.confirmedAt

/-- The receipt is the one that was stored, up to the network and the asset that the transaction reads. -/
def PaymentReceipt.Completes (receipt stored : PaymentReceipt) : Prop :=
  ∃ network asset, receipt =
    { stored with responsePayload := { stored.responsePayload with network := network, asset := asset } }

def Op.Confirms (op : Op) (id : String) (data : Confirmation) (receipt : PaymentReceipt) : Prop :=
  op = .confirmSettlement id data receipt ∨ op = .confirmByWorker id data receipt

section Origin

variable {ι : Type}

/-- A row is as it was at the origin, or no more than begun, or confirmed by an event of the history.
Only a failure has been written over it since. -/
inductive RowOrigin (origin : Db) (history : List (Event interface Err ι)) (row : PaymentSettlement) :
    Prop
  | before (old : PaymentSettlement) (hold : old ∈ origin.settlements) (hsame : row = old ∨ row = old.fail)
  | begun (htxHash : row.txHash = none) (hstatus : row.settlementStatus ≠ .confirmed)
  | confirmed (event : Event interface Err ι) (data : Confirmation) (receipt : PaymentReceipt)
      (hevent : event ∈ history) (hop : event.op.Confirms row.id data receipt) (hrow : row.Carries data)

/-- A receipt was there at the origin, or is stored by an event of the history. -/
def ReceiptOrigin (origin : Db) (history : List (Event interface Err ι)) (receipt : PaymentReceipt) :
    Prop :=
  receipt ∈ origin.receipts ∨ ∃ event ∈ history, ∃ id data stored,
    event.op.Confirms id data stored ∧ receipt.Completes stored

structure Originates (origin db : Db) (history : List (Event interface Err ι)) : Prop where
  rows : ∀ row ∈ db.settlements, RowOrigin origin history row
  receipts : ∀ receipt ∈ db.receipts, ReceiptOrigin origin history receipt

variable {origin db db' : Db} {history : List (Event interface Err ι)} {row : PaymentSettlement}
  {receipt : PaymentReceipt}

theorem RowOrigin.cons (h : RowOrigin origin history row) (event : Event interface Err ι) :
    RowOrigin origin (event :: history) row := by
  cases h with
  | before old hold hsame => exact .before old hold hsame
  | begun htxHash hstatus => exact .begun htxHash hstatus
  | confirmed earlier data receipt hevent hop hrow =>
      exact .confirmed earlier data receipt (List.mem_cons_of_mem _ hevent) hop hrow

theorem RowOrigin.fail (h : RowOrigin origin history row) : RowOrigin origin history row.fail := by
  cases h with
  | before old hold hsame =>
      refine .before old hold (.inr ?_)
      rcases hsame with rfl | rfl <;> rfl
  | begun htxHash hstatus => exact .begun htxHash fun heq => by cases heq
  | confirmed event data receipt hevent hop hrow =>
      exact .confirmed event data receipt hevent hop ⟨hrow.txHash, hrow.feeAmount, hrow.developerShare,
        hrow.confirmedAt⟩

theorem ReceiptOrigin.cons (h : ReceiptOrigin origin history receipt) (event : Event interface Err ι) :
    ReceiptOrigin origin (event :: history) receipt := by
  rcases h with hold | ⟨earlier, hevent, hstored⟩
  · exact .inl hold
  · exact .inr ⟨earlier, List.mem_cons_of_mem _ hevent, hstored⟩

theorem completes_fillReceipt (db : Db) (stored : PaymentReceipt) :
    (db.fillReceipt stored).Completes stored := ⟨_, _, rfl⟩

namespace Originates

theorem of_eq (h : Originates origin db history) (event : Event interface Err ι)
    (hrows : db'.settlements = db.settlements) (hreceipts : db'.receipts = db.receipts) :
    Originates origin db' (event :: history) where
  rows row hrow := (h.rows row (hrows ▸ hrow)).cons event
  receipts receipt hreceipt := (h.receipts receipt (hreceipts ▸ hreceipt)).cons event

/-- A confirmation is where the columns of its row come from. -/
theorem rows_confirm (h : Originates origin db history) {event : Event interface Err ι} {id : String}
    {data : Confirmation} {stored : PaymentReceipt} (hop : event.op.Confirms id data stored) :
    ∀ row ∈ (db.updateSettlement id (·.confirm data)).settlements,
      RowOrigin origin (event :: history) row := by
  intro row hrow
  rcases mem_update.mp hrow with ⟨hold, -⟩ | ⟨old, -, hid, rfl⟩
  · exact (h.rows row hold).cons event
  · subst hid
    exact .confirmed event data stored List.mem_cons_self hop ⟨rfl, rfl, rfl, rfl⟩

theorem receipts_append (h : Originates origin db history) {event : Event interface Err ι} {id : String}
    {data : Confirmation} {stored added : PaymentReceipt} (hop : event.op.Confirms id data stored)
    (hadded : added.Completes stored) :
    ∀ receipt ∈ db.receipts ++ [added], ReceiptOrigin origin (event :: history) receipt := by
  intro receipt hreceipt
  rcases List.mem_append.mp hreceipt with hold | hnew
  · exact (h.receipts receipt hold).cons event
  · rw [List.mem_singleton.mp hnew]
    exact .inr ⟨event, List.mem_cons_self, id, data, stored, hop, hadded⟩

theorem effect {world world' : World ι} (h : Originates origin world.db history) {op : Op}
    (heffect : Effect world op world') (who : ι) (answer : Except Err (interface.Ans op)) :
    Originates origin world'.db (⟨who, op, answer⟩ :: history) := by
  cases heffect with
  | none => exact h.of_eq _ rfl rfl
  | redis command store => exact h.of_eq _ rfl rfl
  | chain op chain => exact h.of_eq _ rfl rfl
  | upsertPaymentRequest row hcan =>
      apply h.of_eq
      · simp only [Db.upsertPaymentRequest]
        split <;> rfl
      · simp only [Db.upsertPaymentRequest]
        split <;> rfl
  | createVerification row hcan => exact h.of_eq _ rfl rfl
  | createSettlement id requestId referralCode hcan =>
      refine ⟨fun row hrow => ?_, fun receipt hreceipt => (h.receipts receipt hreceipt).cons _⟩
      rcases List.mem_append.mp hrow with hold | hnew
      · exact (h.rows row hold).cons _
      · rw [List.mem_singleton.mp hnew]
        exact .begun rfl fun heq => by cases heq
  | failSettlement id =>
      refine ⟨fun row hrow => ?_, fun receipt hreceipt => (h.receipts receipt hreceipt).cons _⟩
      rcases mem_update.mp hrow with ⟨hold, -⟩ | ⟨old, hold, -, rfl⟩
      · exact (h.rows row hold).cons _
      · exact (h.rows old hold).fail.cons _
  | confirmSettlement id data receipt hcan =>
      have hop : Op.Confirms (.confirmSettlement id data receipt) id data receipt := .inl rfl
      exact ⟨h.rows_confirm hop, h.receipts_append hop ⟨_, _, rfl⟩⟩
  | confirmByWorker id data receipt hcan =>
      have hop : Op.Confirms (.confirmByWorker id data receipt) id data receipt := .inr rfl
      have hrows : ∀ row ∈ (world.db.updateSettlement id (·.confirm data)).settlements,
          RowOrigin origin (⟨who, .confirmByWorker id data receipt, answer⟩ :: history) row :=
        h.rows_confirm hop
      simp only [Db.confirmByWorker]
      split
      · exact ⟨hrows, fun other hother => (h.receipts other hother).cons _⟩
      · exact ⟨hrows, h.receipts_append hop (completes_fillReceipt _ _)⟩

end Originates

/-- What has not changed since the start is there at the start. -/
theorem originates_self (origin : Db) (history : List (Event interface Err ι)) :
    Originates origin origin history :=
  ⟨fun row hrow => .before row hrow (.inl rfl), fun _ => .inl⟩

end Origin

/-! ### Runs -/

section Runs

variable {ι : Type} {faults : Faults}

/-- One call has stored both, the columns and the receipt, in one statement. Before it, that call was told
what it stored. -/
def ConfirmedBy (writer : ι → StatusWriter) (history : List (Event interface Err ι)) (id : String)
    (data : Confirmation) (receipt : PaymentReceipt) : Prop :=
  ∃ later event earlier, history = later ++ event :: earlier ∧ event.op.Confirms id data receipt ∧
    ((∃ imports opts, writer event.who = .settle imports opts ∧
        Settled event.who earlier imports opts id data receipt) ∨
      ∃ computeFees job, writer event.who = .attempt computeFees job ∧
        Polled event.who earlier computeFees job id data receipt)

/-- Who confirms was told so. -/
theorem confirmedBy_of_warrants {writer : ι → StatusWriter} {later earlier : List (Event interface Err ι)}
    {event : Event interface Err ι} {id : String} {data : Confirmation} {receipt : PaymentReceipt}
    (hop : event.op.Confirms id data receipt)
    (h : (writer event.who).Warrants event.who earlier event.op) :
    ConfirmedBy writer (later ++ event :: earlier) id data receipt := by
  refine ⟨later, event, earlier, rfl, hop, ?_⟩
  cases hwriter : writer event.who with
  | settle imports opts =>
      rw [hwriter] at h
      rcases hop with hop | hop <;> rw [hop] at h
      · exact .inl ⟨imports, opts, rfl, h⟩
      · exact h.elim
  | attempt computeFees job =>
      rw [hwriter] at h
      rcases hop with hop | hop <;> rw [hop] at h
      · exact h.elim
      · exact .inr ⟨computeFees, job, rfl, h⟩
  | onFailed job =>
      rw [hwriter] at h
      rcases hop with hop | hop <;> rw [hop] at h <;> exact h.elim

variable [DecidableEq ι] {writer : ι → StatusWriter}
  {start cfg : Config (machine ι faults) (Option SettleResponse)}

theorem originates_of_reachable (hreach : Config.Reachable Config.anyStep start cfg) :
    Originates start.world.db cfg.world.db cfg.history := by
  have hstep : ∀ cfg cfg' : Config (machine ι faults) (Option SettleResponse),
      Originates start.world.db cfg.world.db cfg.history → Config.Step Config.anyStep cfg cfg' →
        Originates start.world.db cfg'.world.db cfg'.history := by
    intro cfg cfg' h hstep
    cases hstep with
    | @call who op next outcome answer world hcall hexec hgood =>
        exact h.effect (exec_effect hexec) who answer
    | @env event world henv =>
        obtain ⟨clock, hdb⟩ := machine_env_db henv
        refine ⟨fun row hrow => h.rows row ?_, fun receipt hreceipt => h.receipts receipt ?_⟩
        · rw [← show world.db.settlements = cfg.world.db.settlements by rw [hdb]]
          exact hrow
        · rw [← show world.db.receipts = cfg.world.db.receipts by rw [hdb]]
          exact hreceipt
  exact hreach.invariant hstep (originates_self _ _)

theorem confirmedBy_of_event (hcalls : ∀ who, start.calls who = (writer who).program)
    (hhistory : start.history = []) (hreach : Config.Reachable Config.anyStep start cfg)
    {event : Event interface Err ι} (hevent : event ∈ cfg.history) {id : String} {data : Confirmation}
    {receipt : PaymentReceipt} (hop : event.op.Confirms id data receipt) :
    ConfirmedBy writer cfg.history id data receipt := by
  have hwarranted : Warranted (fun who events => (writer who).Warrants who events) cfg.history := by
    have hsat : ∀ who, (start.calls who).Sat
        (Interact.warranted who fun events => (writer who).Warrants who events) [] fun _ _ => True := by
      intro who
      rw [hcalls]
      exact (writer who).sat_confirmRules
    exact hreach.warranted hhistory hsat
  obtain ⟨later, earlier, hsplit, hwarrants⟩ := hwarranted.of_mem hevent
  rw [hsplit]
  exact confirmedBy_of_warrants hop (hwarrants.mono List.filter_sublist.subset)

/-- **No confirmation without a transaction.** In every run of settlements, attempts of the worker and
handlers of failed attempts, whatever fails, a row that is confirmed or names a transaction was so before,
or has the columns that one call stored in one statement, after it had been told of the success of that
transaction; and so for the receipts. Before that statement a settlement has itself broadcast the transfer
of what was verified, and an attempt was given the transaction by its job. The fees are those of the gross
amount, and the time is the one that the call has read. -/
theorem confirmations_traced (hcalls : ∀ who, start.calls who = (writer who).program)
    (hhistory : start.history = []) (hreach : Config.Reachable Config.anyStep start cfg) :
    (∀ row ∈ cfg.world.db.settlements, row.settlementStatus = .confirmed ∨ row.txHash ≠ none →
      (∃ old ∈ start.world.db.settlements, row = old ∨ row = old.fail) ∨
        ∃ data receipt, row.Carries data ∧ ConfirmedBy writer cfg.history row.id data receipt) ∧
    ∀ receipt ∈ cfg.world.db.receipts, receipt ∈ start.world.db.receipts ∨
      ∃ id data stored, receipt.Completes stored ∧ ConfirmedBy writer cfg.history id data stored := by
  have horiginates := originates_of_reachable hreach
  constructor
  · intro row hrow hpaid
    cases horiginates.rows row hrow with
    | before old hold hsame => exact .inl ⟨old, hold, hsame⟩
    | begun htxHash hstatus =>
        rcases hpaid with hconfirmed | hnamed
        · exact absurd hconfirmed hstatus
        · exact absurd htxHash hnamed
    | confirmed event data receipt hevent hop hcarries =>
        exact .inr ⟨data, receipt, hcarries, confirmedBy_of_event hcalls hhistory hreach hevent hop⟩
  · intro receipt hreceipt
    rcases horiginates.receipts receipt hreceipt with hold | ⟨event, hevent, id, data, stored, hop, hstored⟩
    · exact .inl hold
    · exact .inr ⟨id, data, stored, hstored, confirmedBy_of_event hcalls hhistory hreach hevent hop⟩

/-- The worker confirms a settlement that is still under way. -/
theorem confirmations_traced_aside : ∃ cfg : ThreeWriters, ∃ row ∈ cfg.world.db.settlements,
    row.id = "set-0" ∧ row.settlementStatus = .confirmed ∧ ∃ data receipt, row.Carries data ∧
      ConfirmedBy (sampleWriter (.attempt sampleImports.computeFees sampleJob)) cfg.history row.id
        data receipt := by
  obtain ⟨cfg, hreach, hconfirmed⟩ := Config.exists_reachable_of_run
    (show ((threeWriters (.attempt sampleImports.computeFees sampleJob)).run (confirmAside 0 1)).map
      (confirmedIn · "set-0") = some true by decide +kernel)
  obtain ⟨row, hrow, hid, hstatus⟩ := exists_of_confirmedIn hconfirmed
  rcases (confirmations_traced (fun _ => rfl) rfl hreach).1 row hrow (.inl hstatus) with
    ⟨old, hold, -⟩ | htraced
  · cases hold
  · exact ⟨cfg, row, hrow, hid, hstatus, htraced⟩

end Runs

end Service

end FacilitatorX402
