import FacilitatorX402.Proof.BookRefinement

/-!
# What a kept promise is backed by

A settlement keeps a promise only after an endpoint has taken its transaction, a transfer under the terms
of the promise, and has returned the receipt of that transaction as successful. The history of a run shows
both for every promise that has been kept in it. When an authorization becomes valid is not stored, and
every transfer says 0.
-/

namespace FacilitatorX402

open Interact PromiseBook

namespace Payment

/-- The transfer carries out these terms, on the contract of their asset, and is valid from the start. -/
structure Terms.PaidBy (terms : Terms) (registry : NetworkRegistry) (transfer : TransferCall) : Prop where
  «from» : transfer.from = terms.payer
  «to» : transfer.to = some terms.payee
  value : transfer.value = terms.amount
  validAfter : transfer.validAfter = 0
  validBefore : terms.expiresAt.floorSeconds = some transfer.validBefore
  nonce : transfer.nonce = terms.nonce
  signature : transfer.signature = splitSignature terms.signatureHash
  address : ∃ network asset, registry terms.network = some network ∧
    network.asset terms.asset = some asset ∧ transfer.address = asset.contractAddress

theorem paidBy_of_submitArgs {host : Host} {registry : NetworkRegistry} {config : FacilitatorConfig}
    {request : PaymentRequest} {verification : PaymentVerification} {args : SubmitArgs}
    (h : submitArgs (PaymentCall.deps host registry config) request verification = .ok args)
    (rpcUrl : String) : (termsOf request verification).PaidBy registry (args.transfer rpcUrl) := by
  unfold submitArgs at h
  split at h
  · cases h
  rename_i network hnetwork
  split at h
  · cases h
  rename_i asset hasset
  split at h
  · cases h
  rename_i validBefore hbefore
  obtain rfl := Except.ok.inj h
  exact ⟨rfl, rfl, rfl, rfl, hbefore, rfl, rfl, network, asset, hnetwork, hasset, rfl⟩

section History

variable {ι : Type}

/-- An endpoint has taken the transfer as this transaction. -/
def Broadcast (history : List (Event interface Err ι)) (who : ι) (transfer : TransferCall)
    (txHash : String) : Prop :=
  ⟨who, .chain (.writeContract transfer), .ok txHash⟩ ∈ history

/-- The endpoint has returned the receipt of the transaction, as successful. -/
def Mined (history : List (Event interface Err ι)) (who : ι) (transfer : TransferCall)
    (txHash : String) : Prop :=
  ∃ receipt : TxReceipt, receipt.status = .success ∧
    ⟨who, .chain (.waitForTransactionReceipt transfer.rpcUrl txHash), .ok receipt⟩ ∈ history

/-- A settlement of the payment has made the transfer of its terms. -/
def Backed (registry : NetworkRegistry) (call : ι → PaymentCall)
    (history : List (Event interface Err ι)) (id : String) (terms : Terms) (txHash : String) : Prop :=
  ∃ who config req transfer, call who = .settle config req ∧ req.paymentRequestId = id ∧
    terms.PaidBy registry transfer ∧ Broadcast history who transfer txHash ∧
    Mined history who transfer txHash

/-- What a call has sent and received is in the history. -/
def BookPhase.Evidence (registry : NetworkRegistry) (history : List (Event interface Err ι)) (who : ι) :
    BookPhase → Prop
  | owns request verification _ (some (transfer, txHash)) =>
      (termsOf request verification).PaidBy registry transfer ∧ Broadcast history who transfer txHash
  | paid request verification _ transfer txHash =>
      (termsOf request verification).PaidBy registry transfer ∧ Broadcast history who transfer txHash ∧
        Mined history who transfer txHash
  | _ => True

variable {host : Host} {registry : NetworkRegistry} {call : PaymentCall}
  {history : List (Event interface Err ι)} {who : ι} {transfer : TransferCall} {txHash : String}

theorem Mined.cons (h : Mined history who transfer txHash) (event : Event interface Err ι) :
    Mined (event :: history) who transfer txHash := by
  obtain ⟨receipt, hstatus, hmem⟩ := h
  exact ⟨receipt, hstatus, List.mem_cons_of_mem _ hmem⟩

theorem Backed.cons {calls : ι → PaymentCall} {id : String} {terms : Terms}
    (h : Backed registry calls history id terms txHash) (event : Event interface Err ι) :
    Backed registry calls (event :: history) id terms txHash := by
  obtain ⟨who, config, req, transfer, hcall, hid, hpaid, hbroadcast, hmined⟩ := h
  exact ⟨who, config, req, transfer, hcall, hid, hpaid, List.mem_cons_of_mem _ hbroadcast,
    hmined.cons event⟩

theorem BookPhase.Evidence.cons {phase : BookPhase} (h : phase.Evidence registry history who)
    (event : Event interface Err ι) : phase.Evidence registry (event :: history) who := by
  cases phase with
  | owns request verification settlementId sent =>
      rcases sent with _ | ⟨transfer, txHash⟩
      · trivial
      · exact ⟨h.1, List.mem_cons_of_mem _ h.2⟩
  | paid request verification settlementId transfer txHash =>
      exact ⟨h.1, List.mem_cons_of_mem _ h.2.1, h.2.2.cons event⟩
  | _ => trivial

/-- Whatever a call does, what its next phase says is in the history. -/
theorem BookPhase.Evidence.next {phase : BookPhase} (h : phase.Evidence registry history who) {op : Op}
    (hallowed : MayWrite host registry call phase op) (answer : Except Err (interface.Ans op)) :
    (phase.next op answer).Evidence registry (⟨who, op, answer⟩ :: history) who := by
  have hold := h.cons ⟨who, op, answer⟩
  cases hallowed with
  | still hop =>
      rw [next_of_still hop answer]
      exact hold
  | store hstored => cases answer <;> trivial
  | find => rcases answer with error | _ | ⟨request, _ | ⟨verification, verifications⟩⟩ <;> trivial
  | check => rcases answer with error | _ | ⟨existing, receipt⟩ <;> trivial
  | create => cases answer <;> trivial
  | @write config req request verification settlementId rpcUrl sent args hargs =>
      rcases answer with error | txHash
      · cases sent <;> exact hold
      · exact ⟨paidBy_of_submitArgs hargs rpcUrl, List.mem_cons_self⟩
  | wait =>
      rcases answer with error | receipt
      · exact hold
      · simp only [BookPhase.next]
        split
        · rename_i hstatus
          exact ⟨hold.1, hold.2, receipt, hstatus, List.mem_cons_self⟩
        · exact hold
  | confirm hdata =>
      rcases answer with error | confirmed
      · exact hold
      · trivial
  | fail howns =>
      cases howns with
      | @owns sent => cases sent <;> trivial
      | paid => trivial

end History

/-! ### Runs -/

section Runs

variable {ι : Type} {faults : Faults}

/-- The tables keep the book, the history has what the phases say, and what has been kept since the book
`origin` is backed. -/
structure EvidenceInv (host : Host) (registry : NetworkRegistry) (call : ι → PaymentCall)
    (origin : Book String Terms Payout) (cfg : Config (machine ι faults) PaymentReply)
    (phase : ι → BookPhase) : Prop where
  book : BookInv host call origin cfg phase
  evidence : ∀ who, (phase who).Evidence registry cfg.history who
  backed : ∀ id entry payout, cfg.world.db.book id = some entry → entry.kept = some payout →
    origin id = some entry ∨ Backed registry call cfg.history id entry.terms payout.txHash

variable [DecidableEq ι] {host : Host} {registry : NetworkRegistry} {call : ι → PaymentCall}
  {origin : Book String Terms Payout} {start mid cfg : Config (machine ι faults) PaymentReply}

theorem EvidenceInv.move {phase : ι → BookPhase} (h : EvidenceInv host registry call origin cfg phase)
    {who : ι} {op : Op} {next : Except Err (interface.Ans op) → PaymentProgram PaymentReply}
    {answer : Except Err (interface.Ans op)} {world : World ι}
    (hallowed : MayWrite host registry (call who) (phase who) op)
    (hmove : BookMove host call who cfg.world.db world.db (phase who) ((phase who).next op answer)) :
    EvidenceInv host registry call origin (cfg.perform who op next answer world)
      (Function.update phase who ((phase who).next op answer)) where
  book := h.book.move hmove
  evidence other := by
    by_cases heq : other = who
    · subst heq
      rw [Function.update_self]
      exact (h.evidence other).next hallowed answer
    · rw [Function.update_of_ne heq]
      exact (h.evidence other).cons _
  backed := by
    intro id entry payout hentry hkept
    rcases hmove.kept id entry payout hentry hkept with
      hbefore | ⟨request, verification, settlementId, transfer, hpaid, rfl, hterms⟩
    · rcases h.backed id entry payout hbefore hkept with horigin | hbacked
      · exact .inl horigin
      · exact .inr (hbacked.cons _)
    · have hevidence := h.evidence who
      have hholds := h.book.holds who
      rw [hpaid] at hevidence hholds
      obtain ⟨⟨-, config, req, hcall, hid⟩, -⟩ := hholds
      rw [hterms]
      exact .inr ⟨who, config, req, transfer, hcall, hid.symm, hevidence.1,
        List.mem_cons_of_mem _ hevidence.2.1, hevidence.2.2.cons _⟩

theorem preserved_evidence (hreported : faults.commitLost = false) :
    Config.Preserved (M := machine ι faults) (fun who => bookCalls host registry (call who))
      (fun who => Replies host (call who)) (EvidenceInv host registry call origin) Config.anyStep where
  call _ _ who _ _ _ _ _ hfollows _ hallowed hexec _ :=
    ⟨_, rfl, hfollows.inv.move hallowed
      (bookMove hreported hfollows.inv.book.sound (hfollows.inv.book.holds who) hallowed hexec)⟩
  env cfg phase event world hfollows henv := by
    have hdb := machine_env_db henv
    have hinv := hfollows.inv
    have hbook := hinv.book
    exact ⟨⟨hdb ▸ hbook.sound, hdb ▸ hbook.leads, hdb ▸ hbook.holds, hbook.apart⟩, hinv.evidence,
      hdb ▸ hinv.backed⟩

/-- **Nothing is settled that was not paid.** Whatever has been settled between two moments of a run of
verifications and settlements was settled by a call for that payment, which has broadcast a transfer of the
terms stored for it and has its successful receipt. Of a payment that the run has replied to be verified
these are the payer, the payee, the network, the asset, the amount, the deadline, the nonce and the signature
of its body. -/
theorem settlements_backed (hreported : faults.commitLost = false)
    (hstart : BookStart host registry call start) (hmid : Config.Reachable Config.anyStep start mid)
    (hreach : Config.Reachable Config.anyStep mid cfg) {id : String} {entry : PaymentEntry}
    {payout : Payout} (hentry : cfg.world.db.book id = some entry)
    (hkept : entry.kept = some payout) :
    (mid.world.db.book id = some entry ∨
      Backed registry call cfg.history id entry.terms payout.txHash) ∧
    ∀ who rawBody vreq result, call who = .verify rawBody → parseVerifyRequest rawBody = .ok vreq →
      (cfg.calls who).result? = some (.ok (.verified result)) → result.paymentRequestId = id →
        entry.terms = signedTerms vreq := by
  have hbegun : Config.Follows (fun who => bookCalls host registry (call who))
      (fun who => Replies host (call who)) (EvidenceInv host registry call start.world.db.book) start
      fun _ => .begun :=
    ⟨hstart.follows.sat, hstart.follows.inv, fun _ => trivial, fun _ _ _ hentry _ => .inl hentry⟩
  obtain ⟨phase, hfollows⟩ := hmid.follows (preserved_evidence hreported) hbegun
  have hrenewed : Config.Follows (fun who => bookCalls host registry (call who))
      (fun who => Replies host (call who)) (EvidenceInv host registry call mid.world.db.book) mid phase :=
    ⟨hfollows.sat, hfollows.inv.book.renew, hfollows.inv.evidence, fun _ _ _ hentry _ => .inl hentry⟩
  obtain ⟨phase', hfollows'⟩ := hreach.follows (preserved_evidence hreported) hrenewed
  refine ⟨hfollows'.inv.backed id entry payout hentry hkept, ?_⟩
  intro who rawBody vreq result hcall hparse hresult hid
  obtain ⟨entered, hentered, hterms⟩ :=
    hfollows'.inv.book.entered hcall hparse (hfollows'.of_result hresult)
  rw [hid, hentry] at hentered
  rw [Option.some.inj hentered, hterms]

end Runs

/-- The payment that is verified and then settled was paid under the terms of its body. -/
theorem settlements_backed_once :
    ∃ (cfg : TwoCalls) (entry : PaymentEntry), cfg.world.db.book "req-0" = some entry ∧
      Backed baseRegistry (paymentCall 0) cfg.history "req-0" entry.terms "0xtx" ∧
      entry.terms = signedTerms (firstPayment 0) := by
  obtain ⟨cfg, hreach, haccepts, -, hkeeps⟩ := exists_settledRun
  obtain ⟨accepted, haccepted, hid⟩ := accepted_of_acceptedId haccepts
  obtain ⟨payout, hbook, hhash⟩ := Option.map_eq_some_iff.mp hkeeps
  obtain ⟨entry, hentry, hkept⟩ := Option.bind_eq_some_iff.mp hbook
  obtain ⟨hpaid, hterms⟩ := settlements_backed rfl (bookStart_paymentStart 0) .refl hreach hentry hkept
  have hsigned := hterms 0 _ _ accepted rfl (parseVerifyRequest_toJson _) haccepted hid
  rcases hpaid with hbefore | hbacked
  · cases hbefore
  · rw [hhash] at hbacked
    exact ⟨cfg, entry, hentry, hbacked, hsigned⟩

end Payment

end FacilitatorX402
