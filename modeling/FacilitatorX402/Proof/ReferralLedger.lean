import FacilitatorX402.Proof.SettlementPermanence
import FacilitatorX402.Settlement.ReferralService
import Mathlib.Algebra.Order.BigOperators.Group.List
import Mathlib.Algebra.Ring.Int.Defs

/-!
# The referral ledger

A call of `settlePayment` confirms the row it has created, for the request it has found, with the fees
of that request. A confirmed row has a receipt of its own, and a request has one receipt, so no request
counts twice, whatever code it came with. The totals are then bounded by each other because the fees of
every row are.
-/

namespace FacilitatorX402

open Interact KeyedRows

/-! ### The bounds of the fee engine -/

theorem tdiv_share_bounds {amount bps : Int} (hamount : 0 ≤ amount) (hbps : 0 ≤ bps)
    (hmost : bps ≤ bpsDenominator) :
    0 ≤ (amount * bps).tdiv bpsDenominator ∧ (amount * bps).tdiv bpsDenominator ≤ amount := by
  have hproduct : 0 ≤ amount * bps := Int.mul_nonneg hamount hbps
  have hden : (0 : Int) < bpsDenominator := by decide
  rw [Int.tdiv_eq_ediv_of_nonneg hproduct]
  refine ⟨Int.ediv_nonneg hproduct hden.le, ?_⟩
  have hle : amount * bps ≤ amount * bpsDenominator := Int.mul_le_mul_of_nonneg_left hmost hamount
  calc amount * bps / bpsDenominator ≤ amount * bpsDenominator / bpsDenominator :=
        Int.ediv_le_ediv hden hle
    _ = amount := Int.mul_ediv_cancel _ hden.ne'

namespace Payment

/-- The rates of a deployment are parts of ten thousand. -/
structure FacilitatorConfig.RatesBounded (config : FacilitatorConfig) : Prop where
  platformFee : 0 ≤ config.platformFeeBps ∧ config.platformFeeBps ≤ bpsDenominator
  developerShare : 0 ≤ config.developerShareBps ∧ config.developerShareBps ≤ bpsDenominator

theorem settlementFees_bounds {deps : SettleDeps} (hrates : deps.config.RatesBounded)
    {paymentRequest : PaymentRequest} (hamount : 0 ≤ paymentRequest.amount)
    (referralCode : Option String) :
    let fees := settlementFees deps paymentRequest referralCode
    0 ≤ fees.developerShare ∧ fees.developerShare ≤ fees.platformFee ∧
      fees.platformFee ≤ paymentRequest.amount := by
  have hfee := tdiv_share_bounds hamount hrates.platformFee.1 hrates.platformFee.2
  have hshare := tdiv_share_bounds hfee.1 hrates.developerShare.1 hrates.developerShare.2
  simp only [settlementFees, createFeeEngine, FeeEngine.compute, FeeEngine.resolveFeeBps,
    Option.getD_none, List.find?_nil, lt_irrefl, false_and, if_false]
  split
  · exact ⟨le_rfl, hfee.1, hfee.2⟩
  · exact ⟨hshare.1, hshare.2, hfee.2⟩

/-! ### What a call does to the ledger -/

/-- How far a call has come: it has found its request, and it has created its row. -/
inductive LedgerPhase where
  | begun
  | found (request : PaymentRequest)
  | created (request : PaymentRequest) (settlementId : String)

namespace LedgerPhase

def next : LedgerPhase → (op : Op) → Except Err (interface.Ans op) → LedgerPhase
  | _, .findPaymentRequest _, .ok (some (request, _)) => found request
  | found request, .createSettlement row, .ok _ => created request row.id
  | phase, _, _ => phase

def request? : LedgerPhase → Option PaymentRequest
  | begun => none
  | found request => some request
  | created request _ => some request

/-- A call creates a pending row for its request and its code, and confirms that row with the fees of
the request it has found. -/
def Allowed (deps : SettleDeps) (req : SettleRequest) (phase : LedgerPhase) : Op → Prop
  | .createVerified _ _ => False
  | .findPaymentRequest id => id = req.paymentRequestId
  | .createSettlement row => row.requestId = req.paymentRequestId ∧
      row.referralCode = req.referralCode ∧ row.settlementStatus = .pending
  | .confirmSettlement id data receipt => ∃ request, phase = created request id ∧
      receipt.settlementId = id ∧ receipt.requestId = req.paymentRequestId ∧
      data.feeAmount = (settlementFees deps request req.referralCode).platformFee ∧
      data.developerShare = (settlementFees deps request req.referralCode).developerShare
  | _ => True

end LedgerPhase

def ledgerRules (deps : SettleDeps) (req : SettleRequest) : Protocol interface Err LedgerPhase where
  allowed := LedgerPhase.Allowed deps req
  trans phase op answer phase' := phase' = phase.next op answer

/-- The operations that the ledger does not see. -/
def Op.OffLedger : Op → Prop
  | .createVerified _ _ => False
  | .findPaymentRequest _ => False
  | .createSettlement _ => False
  | .confirmSettlement _ _ _ => False
  | _ => True

section Sat

variable {deps : SettleDeps} {req : SettleRequest} {phase : LedgerPhase} {request : PaymentRequest}
  {verification : PaymentVerification}

theorem sat_offLedger {α : Type} {program : PaymentProgram α} (h : program.Only Op.OffLedger) :
    program.Sat (ledgerRules deps req) phase fun phase' _ => phase' = phase := by
  apply h.sat
  · intro op hoff
    cases op <;> first | exact hoff.elim | trivial
  · rintro op answer phase' hoff rfl
    cases op <;> first | exact hoff.elim | (cases phase <;> rfl)

theorem only_redis_offLedger {α : Type} (program : RedisProgram α) :
    (redis program).Only Op.OffLedger := only_redis (fun _ => trivial) program

theorem only_submit_offLedger (args : SubmitArgs) : (submit args).Only Op.OffLedger := by
  apply (Program.only_lift chainHom (submitOnChain args)).mono
  rintro _ ⟨op, rfl⟩
  trivial

theorem ledger_settleBody (settlementId : String) :
    (settleBody deps req request verification settlementId).Sat (ledgerRules deps req)
      (.created request settlementId) fun phase _ => phase = .created request settlementId := by
  rw [settleBody, Program.sat_bind', Program.sat_ofExcept]
  cases submitArgs deps request verification with
  | error error => rfl
  | ok args =>
      rw [Program.thenSat_ok, Program.sat_bind']
      apply (sat_offLedger (only_submit_offLedger args)).mono
      rintro phase (error | onChainResult) rfl
      · rfl
      rw [Program.thenSat_ok, Program.sat_bind']
      apply (sat_offLedger (@only_op Op.OffLedger .generateId trivial)).mono
      rintro phase (error | receiptId) rfl
      · rfl
      rw [Program.thenSat_ok, Program.sat_bind']
      apply (sat_offLedger (@only_op Op.OffLedger .now trivial)).mono
      rintro phase (error | confirmedAt) rfl
      · rfl
      rw [Program.thenSat_ok]
      simp only [confirmSettlement, Program.sat_bind']
      refine ⟨⟨request, rfl, rfl, rfl, rfl, rfl⟩, ?_⟩
      rintro (error | confirmed) phase rfl <;> rfl

theorem ledger_settleLocked (settlementId : String) :
    (settleLocked deps req request verification settlementId).Sat (ledgerRules deps req)
      (.created request settlementId) fun _ _ => True := by
  have hrelease : (releaseLock req).Only Op.OffLedger := (only_redis_offLedger _).ignoreErrors
  rw [settleLocked, Program.sat_tryFinally, Program.sat_tryCatch]
  apply (ledger_settleBody settlementId).mono
  rintro phase (error | reply) rfl
  · apply (sat_offLedger (only_settleFailure (fun _ => trivial) trivial req)).mono
    rintro phase outcome rfl
    apply (sat_offLedger hrelease).mono
    rintro phase (error | released) - <;> trivial
  · apply (sat_offLedger hrelease).mono
    rintro phase (error | released) - <;> trivial

theorem ledger_settlePayment :
    (settlePayment deps req).Sat (ledgerRules deps req) .begun fun _ _ => True := by
  rw [settlePayment, findPaymentRequest, Program.sat_bind', sat_op]
  refine ⟨rfl, ?_⟩
  rintro (error | _ | ⟨request, _ | ⟨verification, verifications⟩⟩) phase rfl
  · trivial
  · trivial
  · trivial
  rw [Program.thenSat_ok]
  change (settleVerified _ req request verification).Sat _ (LedgerPhase.found request) _
  rw [settleVerified, Program.sat_bind']
  apply (sat_offLedger (@only_op Op.OffLedger (.findConfirmedSettlement _) trivial)).mono
  rintro phase (error | _ | ⟨existing, receipt⟩) rfl
  · trivial
  · rw [Program.thenSat_ok, Program.sat_bind']
    apply (sat_offLedger (only_redis_offLedger _)).mono
    rintro phase (error | locked) rfl
    · trivial
    rw [Program.thenSat_ok]
    split
    · rw [settleHolding, Program.sat_bind']
      apply (sat_offLedger (@only_op Op.OffLedger .generateId trivial)).mono
      rintro phase (error | settlementId) rfl
      · trivial
      rw [Program.thenSat_ok, createSettlement, Program.sat_bind', sat_op]
      refine ⟨⟨rfl, rfl, rfl⟩, ?_⟩
      rintro (error | created) phase rfl
      · trivial
      exact ledger_settleLocked settlementId
    · trivial
  · trivial

end Sat

/-! ### The tables -/

section Ledger

variable {ι : Type}

/-- The row a call has created. -/
def Db.OwnRow (db : Db) (settlementId : String) (req : SettleRequest) : Prop :=
  ∃ row ∈ db.settlements, row.id = settlementId ∧ row.requestId = req.paymentRequestId ∧
    row.referralCode = req.referralCode

/-- A confirmed row has a receipt of its own, and the fees of its request under its code. -/
structure Db.Booked (deps : ι → SettleDeps) (db : Db) (row : PaymentSettlement) : Prop where
  receipt : ∃ receipt ∈ db.receipts, receipt.settlementId = row.id ∧ receipt.requestId = row.requestId
  fees : ∃ who request, db.requests.find? (·.id = row.requestId) = some request ∧
    row.feeAmount = some (settlementFees (deps who) request row.referralCode).platformFee ∧
    row.developerShare = some (settlementFees (deps who) request row.referralCode).developerShare

structure LedgerInv (deps : ι → SettleDeps) (req : ι → SettleRequest) (requests : List PaymentRequest)
    (db : Db) (phase : ι → LedgerPhase) : Prop where
  ids : Unique (·.id) db.settlements
  receiptRequests : Unique (·.requestId) db.receipts
  requests : db.requests = requests
  found : ∀ who request, (phase who).request? = some request →
    db.requests.find? (·.id = (req who).paymentRequestId) = some request
  created : ∀ who request settlementId, phase who = .created request settlementId →
    db.OwnRow settlementId (req who)
  booked : ∀ row ∈ db.settlements, row.settlementStatus = .confirmed → db.Booked deps row

variable {deps : ι → SettleDeps} {req : ι → SettleRequest} {requests : List PaymentRequest} {db : Db}
  {phase : ι → LedgerPhase} {settlementId : String}

theorem Db.OwnRow.update {request : SettleRequest} (h : db.OwnRow settlementId request) {id : String}
    {f : PaymentSettlement → PaymentSettlement} (hid : ∀ row, (f row).id = row.id)
    (hrequest : ∀ row, (f row).requestId = row.requestId)
    (hcode : ∀ row, (f row).referralCode = row.referralCode) :
    (db.updateSettlement id f).OwnRow settlementId request := by
  obtain ⟨row, hrow, hown, howns, hcodes⟩ := h
  by_cases heq : row.id = id
  · exact ⟨f row, mem_update_of_eq hrow heq, (hid row).trans hown, (hrequest row).trans howns,
      (hcode row).trans hcodes⟩
  · exact ⟨row, mem_update_of_ne hrow heq, hown, howns, hcodes⟩

theorem LedgerInv.move [DecidableEq ι] (h : LedgerInv deps req requests db phase) {who : ι}
    {phase' : LedgerPhase}
    (hfound : ∀ request, phase'.request? = some request →
      db.requests.find? (·.id = (req who).paymentRequestId) = some request)
    (hcreated : ∀ request settlementId, phase' = .created request settlementId →
      db.OwnRow settlementId (req who)) :
    LedgerInv deps req requests db (Function.update phase who phase') := by
  refine { h with found := fun other request hother => ?_, created := fun other request id hother => ?_ }
  · by_cases heq : other = who
    · subst heq
      rw [Function.update_self] at hother
      exact hfound request hother
    · rw [Function.update_of_ne heq] at hother
      exact h.found other request hother
  · by_cases heq : other = who
    · subst heq
      rw [Function.update_self] at hother
      exact hcreated request id hother
    · rw [Function.update_of_ne heq] at hother
      exact h.created other request id hother

theorem LedgerInv.createSettlement (h : LedgerInv deps req requests db phase) {row : PaymentSettlement}
    (hfresh : ∀ other ∈ db.settlements, other.id ≠ row.id) (hstatus : row.settlementStatus = .pending) :
    LedgerInv deps req requests (db.createSettlement row) phase where
  ids := h.ids.append hfresh
  receiptRequests := h.receiptRequests
  requests := h.requests
  found := h.found
  created who request id hphase := by
    obtain ⟨other, hother, hrest⟩ := h.created who request id hphase
    exact ⟨other, List.mem_append_left _ hother, hrest⟩
  booked other hother hconfirmed := by
    rcases List.mem_append.mp hother with hold | hnew
    · exact ⟨(h.booked other hold hconfirmed).receipt, (h.booked other hold hconfirmed).fees⟩
    · rw [List.mem_singleton.mp hnew, hstatus] at hconfirmed
      cases hconfirmed

theorem LedgerInv.failSettlement (h : LedgerInv deps req requests db phase) (id : String) :
    LedgerInv deps req requests (db.updateSettlement id (·.fail)) phase where
  ids := h.ids.update fail_id _
  receiptRequests := h.receiptRequests
  requests := h.requests
  found := h.found
  created who request id hphase :=
    (h.created who request id hphase).update (fun _ => rfl) (fun _ => rfl) fun _ => rfl
  booked row hrow hconfirmed := by
    rcases mem_update.mp hrow with ⟨hold, -⟩ | ⟨old, -, -, rfl⟩
    · exact ⟨(h.booked row hold hconfirmed).receipt, (h.booked row hold hconfirmed).fees⟩
    · cases hconfirmed

/-- A call confirms the row it has created. -/
theorem LedgerInv.confirmSettlement (h : LedgerInv deps req requests db phase) {who : ι}
    {request : PaymentRequest} (hphase : phase who = .created request settlementId)
    {data : Confirmation} {receipt : PaymentReceipt}
    (hcan : db.canConfirm settlementId data receipt = true)
    (hsettlement : receipt.settlementId = settlementId)
    (hrequest : receipt.requestId = (req who).paymentRequestId)
    (hfee : data.feeAmount
      = (settlementFees (deps who) request (req who).referralCode).platformFee)
    (hshare : data.developerShare
      = (settlementFees (deps who) request (req who).referralCode).developerShare) :
    LedgerInv deps req requests (db.confirmSettlement settlementId data receipt) phase where
  ids := h.ids.update (confirm_id data) _
  receiptRequests := by
    refine h.receiptRequests.append fun other hother => ?_
    simp only [Db.canConfirm, Bool.and_eq_true, List.all_eq_true, decide_eq_true_eq] at hcan
    exact (hcan.2 other hother).2
  requests := h.requests
  found := h.found
  created other request id hother :=
    (h.created other request id hother).update (fun _ => rfl) (fun _ => rfl) fun _ => rfl
  booked row hrow hconfirmed := by
    rcases mem_update.mp hrow with ⟨hold, -⟩ | ⟨old, hold, hid, rfl⟩
    · obtain ⟨other, hother, hrest⟩ := (h.booked row hold hconfirmed).receipt
      exact ⟨⟨other, List.mem_append_left _ hother, hrest⟩, (h.booked row hold hconfirmed).fees⟩
    · obtain ⟨own, hown, hownId, hownRequest, hownCode⟩ := h.created who request settlementId hphase
      obtain rfl : old = own := h.ids.eq hold hown (hid.trans hownId.symm)
      refine ⟨⟨receipt, List.mem_append_right _ (List.mem_singleton_self _),
        hsettlement.trans hid.symm, hrequest.trans hownRequest.symm⟩, who, request, ?_, ?_, ?_⟩
      · change db.requests.find? (·.id = old.requestId) = some request
        rw [hownRequest]
        exact h.found who request (by rw [hphase]; rfl)
      · change some data.feeAmount = some (settlementFees (deps who) request old.referralCode).platformFee
        rw [hfee, hownCode]
      · change some data.developerShare
          = some (settlementFees (deps who) request old.referralCode).developerShare
        rw [hshare, hownCode]

theorem LedgerInv.step [DecidableEq ι] {faults : Faults} {world world' : World ι} {who : ι} {op : Op}
    {outcome : Outcome} {answer : Except Err (interface.Ans op)}
    (h : LedgerInv deps req requests world.db phase)
    (hallowed : LedgerPhase.Allowed (deps who) (req who) (phase who) op)
    (hexec : (machine ι faults).exec who world op outcome = some (answer, world')) :
    LedgerInv deps req requests world'.db
      (Function.update phase who ((phase who).next op answer)) := by
  -- an operation that leaves the phase of its call as it is
  have hstays : (phase who).next op answer = phase who → LedgerInv deps req requests world'.db phase →
      LedgerInv deps req requests world'.db
        (Function.update phase who ((phase who).next op answer)) := by
    intro hnext hinv
    rw [hnext, Function.update_eq_self]
    exact hinv
  cases op with
  | createVerified request verification => exact hallowed.elim
  | redis command =>
      refine hstays (by cases phase who <;> rfl) ?_
      rw [(exec_redis hexec).2]
      exact h
  | chain op =>
      refine hstays (by cases phase who <;> rfl) ?_
      rw [(exec_chain hexec).2.1]
      exact h
  | now =>
      refine hstays (by cases phase who <;> rfl) ?_
      rw [(exec_now hexec).1]
      exact h
  | generateId =>
      refine hstays (by cases phase who <;> rfl) ?_
      rw [(exec_generateId hexec).1]
      exact h
  | findConfirmedSettlement requestId =>
      refine hstays (by cases phase who <;> rfl) ?_
      rw [(exec_findConfirmedSettlement hexec).1]
      exact h
  | findPaymentRequest id =>
      obtain ⟨rfl, hanswer⟩ := exec_findPaymentRequest hexec
      obtain rfl : id = (req who).paymentRequestId := hallowed
      rcases hanswer with rfl | ⟨error, rfl⟩
      · cases hfind : world'.db.requestWithVerifications (req who).paymentRequestId with
        | none => exact hfind ▸ hstays (by rw [hfind]; cases phase who <;> rfl) h
        | some found =>
            obtain ⟨request, verifications⟩ := found
            obtain ⟨request', hrequest, heq⟩ := Option.map_eq_some_iff.mp hfind
            obtain ⟨rfl, -⟩ := Prod.mk.inj heq
            have hnext : (phase who).next (.findPaymentRequest (req who).paymentRequestId)
                (.ok (some (request', verifications))) = .found request' := by
              cases phase who <;> rfl
            rw [hnext]
            refine h.move (fun request hfound => ?_) fun _ _ hcreated => by cases hcreated
            obtain rfl := Option.some.inj hfound
            exact hrequest
      · exact hstays (by cases phase who <;> rfl) h
  | createSettlement row =>
      obtain ⟨hrequest, hcode, hpending⟩ := hallowed
      rcases exec_createSettlement hexec with ⟨hfresh, rfl⟩ | ⟨⟨error, rfl⟩, rfl⟩
      · have hinv := h.createSettlement hfresh hpending
        refine hinv.move (fun request hfound => ?_) fun request id hcreated => ?_
        · refine hinv.found who request ?_
          cases hphase : phase who <;> cases answer <;> rw [hphase] at hfound <;> exact hfound
        · cases hphase : phase who with
          | found request' =>
              cases answer with
              | error error =>
                  rw [hphase] at hcreated
                  cases hcreated
              | ok created =>
                  rw [hphase] at hcreated
                  cases hcreated
                  exact ⟨row, List.mem_append_right _ (List.mem_singleton_self _), rfl, hrequest, hcode⟩
          | begun =>
              rw [hphase] at hcreated
              cases hcreated
          | created request' id' =>
              rw [hphase] at hcreated
              cases hcreated
              exact hinv.created who _ _ hphase
      · exact hstays (by cases phase who <;> rfl) h
  | failSettlement id =>
      refine hstays (by cases phase who <;> rfl) ?_
      rcases exec_failSettlement hexec with rfl | ⟨-, rfl⟩
      · exact h.failSettlement id
      · exact h
  | confirmSettlement id data receipt =>
      refine hstays (by cases phase who <;> rfl) ?_
      obtain ⟨request, hphase, hsettlement, hrequest, hfee, hshare⟩ := hallowed
      rcases statement_cases (statement_of_transaction hexec) with ⟨hcan, rfl, -⟩ | ⟨-, rfl⟩
      · exact h.confirmSettlement hphase hcan hsettlement hrequest hfee hshare
      · exact h

end Ledger

/-! ### Every run -/

section Runs

variable {ι : Type} [DecidableEq ι] {faults : Faults} {deps : ι → SettleDeps} {req : ι → SettleRequest}
  {start cfg : Config (machine ι faults) SettleReply}

theorem preserved_ledger (requests : List PaymentRequest) :
    Config.Preserved (M := machine ι faults) (fun who => ledgerRules (deps who) (req who))
      (fun _ _ (_ : Except Err SettleReply) => True)
      (fun cfg phase => LedgerInv deps req requests cfg.world.db phase) Config.anyStep where
  call cfg phase who op next outcome answer world hfollows _ hallowed hexec _ :=
    ⟨_, rfl, hfollows.inv.step hallowed hexec⟩
  env cfg phase event world hfollows henv := by
    rw [machine_env_db henv]
    exact hfollows.inv

theorem ledger_follows (hstart : SettleStart deps req start)
    (hreach : Config.Reachable Config.anyStep start cfg) :
    ∃ phase, LedgerInv deps req start.world.db.requests cfg.world.db phase := by
  have hbegun : Config.Follows (M := machine ι faults) (fun who => ledgerRules (deps who) (req who))
      (fun _ _ (_ : Except Err SettleReply) => True)
      (fun cfg phase => LedgerInv deps req start.world.db.requests cfg.world.db phase) start
      fun _ => .begun :=
    { sat := fun who => by
        rw [hstart.calls]
        exact ledger_settlePayment
      inv :=
        { ids := by rw [hstart.settlements]; exact List.nodup_nil
          receiptRequests := by rw [hstart.receipts]; exact List.nodup_nil
          requests := rfl
          found := by rintro _ _ ⟨⟩
          created := by rintro _ _ _ ⟨⟩
          booked := by simp [hstart.settlements] } }
  obtain ⟨phase, hfollows⟩ := hreach.follows (preserved_ledger _) hbegun
  exact ⟨phase, hfollows.inv⟩

/-! ### The totals -/

theorem foldl_add {α : Type} (column : α → Int) (rows : List α) (acc : Int) :
    rows.foldl (fun acc row => acc + column row) acc = acc + (rows.map column).sum := by
  induction rows generalizing acc with
  | nil => simp
  | cons row rows ih => rw [List.foldl_cons, ih, List.map_cons, List.sum_cons, add_assoc]

/-- A total does not depend on the order of the rows. -/
theorem total_eq {α : Type} (column : α → Int) (rows : List α) (before : α → α → Bool) :
    (rows.mergeSort before).foldl (fun acc row => acc + column row) 0 = (rows.map column).sum := by
  rw [foldl_add, zero_add]
  exact ((List.mergeSort_perm rows before).map column).sum_eq

omit [DecidableEq ι] in
theorem Db.Booked.bounds {db : Db} {row : PaymentSettlement} (h : db.Booked deps row)
    (hrates : ∀ who, (deps who).config.RatesBounded)
    (hamounts : ∀ request ∈ db.requests, 0 ≤ request.amount) :
    ∃ request ∈ db.requests, request.id = row.requestId ∧ db.grossOf row = request.amount ∧
      ∃ fee share, row.feeAmount = some fee ∧ row.developerShare = some share ∧ 0 ≤ share ∧
        share ≤ fee ∧ fee ≤ request.amount := by
  obtain ⟨who, request, hfind, hfee, hshare⟩ := h.fees
  have hmem := List.mem_of_find?_eq_some hfind
  have hbounds := settlementFees_bounds (hrates who) (hamounts request hmem) row.referralCode
  have hid : request.id = row.requestId := by simpa using List.find?_some hfind
  refine ⟨request, hmem, hid, ?_, _, _, hfee, hshare, hbounds⟩
  rw [Db.grossOf, hfind]
  rfl

omit [DecidableEq ι] in
theorem LedgerInv.requests_nodup {requests : List PaymentRequest} {db : Db} {phase : ι → LedgerPhase}
    (h : LedgerInv deps req requests db phase) :
    ((db.settlements.filter (·.settlementStatus = .confirmed)).map (·.requestId)).Nodup := by
  refine List.Nodup.map_on (fun row hrow other hother heq => ?_) (h.ids.of_map.filter _)
  obtain ⟨hrow, hstatus⟩ := List.mem_filter.mp hrow
  obtain ⟨hother, hstatus'⟩ := List.mem_filter.mp hother
  obtain ⟨receipt, hreceipt, hid, hown⟩ := (h.booked row hrow (of_decide_eq_true hstatus)).receipt
  obtain ⟨receipt', hreceipt', hid', hown'⟩ :=
    (h.booked other hother (of_decide_eq_true hstatus')).receipt
  obtain rfl : receipt = receipt' :=
    h.receiptRequests.eq hreceipt hreceipt' (hown.trans (heq.trans hown'.symm))
  exact h.ids.eq hrow hother (hid.symm.trans hid')

/-- **The referral ledger.** In every run the totals of a code are the sums over the confirmed
settlements that carry it, with the amounts of their requests; no request has two confirmed settlements,
of whatever codes; and the totals are parts of one another. -/
theorem referral_ledger (hstart : SettleStart deps req start)
    (hrates : ∀ who, (deps who).config.RatesBounded)
    (hamounts : ∀ request ∈ start.world.db.requests, 0 ≤ request.amount)
    (hreach : Config.Reachable Config.anyStep start cfg) :
    (∀ (createdAt : PaymentSettlement → Nat) (referralCode : String),
      let rows := cfg.world.db.referred referralCode
      let stats := getReferralStats createdAt cfg.world.db referralCode
      stats.totalGrossVolume = (rows.map cfg.world.db.grossOf).sum ∧
        stats.totalPlatformFee = (rows.map fun row => row.feeAmount.getD 0).sum ∧
        stats.totalDeveloperShare = (rows.map fun row => row.developerShare.getD 0).sum ∧
        stats.totalDeveloperShare ≤ stats.totalPlatformFee ∧
        stats.totalPlatformFee ≤ stats.totalGrossVolume) ∧
    ((cfg.world.db.settlements.filter (·.settlementStatus = .confirmed)).map (·.requestId)).Nodup ∧
    ∀ row ∈ cfg.world.db.settlements, row.settlementStatus = .confirmed →
      ∃ request ∈ cfg.world.db.requests, request.id = row.requestId ∧
        cfg.world.db.grossOf row = request.amount ∧
        ∃ fee share, row.feeAmount = some fee ∧ row.developerShare = some share ∧ 0 ≤ share ∧
          share ≤ fee ∧ fee ≤ request.amount := by
  obtain ⟨phase, hinv⟩ := ledger_follows hstart hreach
  have hbounds : ∀ row ∈ cfg.world.db.settlements, row.settlementStatus = .confirmed → _ :=
    fun row hrow hstatus => (hinv.booked row hrow hstatus).bounds hrates (hinv.requests ▸ hamounts)
  refine ⟨fun createdAt referralCode => ?_, hinv.requests_nodup, hbounds⟩
  have hreferred : ∀ row ∈ cfg.world.db.referred referralCode,
      row.developerShare.getD 0 ≤ row.feeAmount.getD 0 ∧
        row.feeAmount.getD 0 ≤ cfg.world.db.grossOf row := by
    intro row hrow
    obtain ⟨hmem, hboth⟩ := List.mem_filter.mp hrow
    obtain ⟨request, -, -, hgross, fee, share, hfee, hshare, -, hle, hle'⟩ :=
      hbounds row hmem (of_decide_eq_true hboth).2
    rw [hfee, hshare, hgross]
    exact ⟨hle, hle'⟩
  simp only [getReferralStats, total_eq, true_and]
  refine ⟨?_, ?_⟩
  · exact List.sum_le_sum fun row hrow => (hreferred row hrow).1
  · exact List.sum_le_sum fun row hrow => (hreferred row hrow).2

end Runs

/-- A partner's code comes with the payment. -/
def partnerRequest : SettleRequest where
  paymentRequestId := "req-0"
  referralCode := some "PARTNER"

def partnerStart : Config (machine Unit ⟨false, false⟩) SettleReply where
  world := verifiedWorld Unit
  calls _ := settlePayment sampleDeps partnerRequest
  history := []

theorem referral_ledger_partner : ∃ cfg, Config.Reachable Config.anyStep partnerStart cfg ∧
    (cfg.world.db.referred "PARTNER").length = 1 ∧
    (getReferralStats (fun _ => 0) cfg.world.db "PARTNER").totalDeveloperShare
      ≤ (getReferralStats (fun _ => 0) cfg.world.db "PARTNER").totalPlatformFee := by
  obtain ⟨cfg, hreach, hone⟩ := Config.exists_reachable_of_run
    (show (partnerStart.run (settleMoves () "set-0" "0x01" "rec-0")).map (fun cfg =>
      decide ((cfg.world.db.referred "PARTNER").length = 1)) = some true by decide +kernel)
  have hledger := @referral_ledger Unit _ _ (fun _ => sampleDeps) (fun _ => partnerRequest) partnerStart
    cfg ⟨fun _ => rfl, rfl, rfl, rfl⟩ (fun _ => ⟨by decide, by decide⟩) (by decide) hreach
  exact ⟨cfg, hreach, of_decide_eq_true hone, (hledger.1 (fun _ => 0) "PARTNER").2.2.2.1⟩

end Payment

end FacilitatorX402
