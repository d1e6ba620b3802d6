import FacilitatorX402.Proof.SettlementRows
import FacilitatorX402.Proof.SettlePhases

/-!
# A settlement is permanent

Nothing here depends on the lock. A row belongs to the one call that created it until that call
decides it, and a request cannot get a second receipt; so the tables stay coherent whatever the locks
do, and what one call has settled every later call reports again.
-/

namespace FacilitatorX402

open Interact KeyedRows

namespace Payment

/-- The request is there, and has an accepted verification. -/
def Db.Verified (db : Db) (requestId : String) : Prop :=
  ∃ paymentRequest verification verifications,
    db.requestWithVerifications requestId = some (paymentRequest, verification :: verifications)

/-- The tables hold the settlement this result describes. -/
def Db.SettledAs (db : Db) (requestId : String) (result : SettleResult) : Prop :=
  ∃ row ∈ db.settlements, row.id = result.settlementId ∧ row.requestId = requestId ∧
    row.settlementStatus = .confirmed ∧ row.txHash = some result.txHash ∧
    ∃ receipt, db.receiptOf row.id = some receipt ∧ receipt.id = result.receiptId

section Tables

variable {db db' : Db} {requestId : String}

theorem Db.Verified.advances (h : db.Verified requestId) (hadvances : db.Advances db') :
    db'.Verified requestId := by
  rw [Db.Verified, Db.requestWithVerifications, hadvances.requests, hadvances.verifications]
  exact h

theorem Db.receiptOf_advances (hadvances : db.Advances db') {settlementId : String}
    {receipt : PaymentReceipt} (h : db.receiptOf settlementId = some receipt) :
    db'.receiptOf settlementId = some receipt := by
  obtain ⟨added, hadded⟩ := hadvances.receipts
  rw [Db.receiptOf] at h
  rw [Db.receiptOf, ← hadded, List.find?_append, h, Option.some_or]

theorem Db.SettledAs.advances {result : SettleResult} (h : db.SettledAs requestId result)
    (hadvances : db.Advances db') : db'.SettledAs requestId result := by
  obtain ⟨row, hrow, hid, hrequest, hstatus, htxHash, receipt, hreceipt, hreceiptId⟩ := h
  obtain ⟨row', hrow', -, hdecided⟩ := hadvances.settlements row hrow
  obtain rfl := hdecided.eq_of_confirmed hstatus
  exact ⟨row', hrow', hid, hrequest, hstatus, htxHash, receipt,
    Db.receiptOf_advances hadvances hreceipt, hreceiptId⟩

/-- What the idempotence check reads is settled as it reports. -/
theorem Db.Coherent.settledAs_idempotentResult (h : db.Coherent) {row : PaymentSettlement}
    (hrow : row ∈ db.confirmedFor requestId) :
    db.SettledAs requestId (idempotentResult requestId row (db.receiptOf row.id)) := by
  obtain ⟨hmem, hmine⟩ := List.mem_filter.mp hrow
  obtain ⟨hrequest, hstatus⟩ := of_decide_eq_true hmine
  obtain ⟨receipt, hreceipts, hagrees⟩ := h.confirmedRows row hmem hstatus
  have hreceipt := Db.receiptOf_eq_some hreceipts
  refine ⟨row, hmem, rfl, hrequest, hstatus, ?_, receipt, hreceipt, ?_⟩
  · rw [idempotentResult, hagrees.2.1]
    rfl
  · rw [idempotentResult, hreceipt]
    rfl

theorem Db.SettledAs.unique (h : db.Coherent) {result result' : SettleResult}
    (hresult : db.SettledAs requestId result) (hresult' : db.SettledAs requestId result') :
    result.settlementId = result'.settlementId ∧ result.txHash = result'.txHash ∧
      result.receiptId = result'.receiptId := by
  obtain ⟨row, hrow, hid, hrequest, hstatus, htxHash, receipt, hreceipt, hreceiptId⟩ := hresult
  obtain ⟨row', hrow', hid', hrequest', hstatus', htxHash', receipt', hreceipt', hreceiptId'⟩ :=
    hresult'
  obtain rfl := h.confirmed_unique hrow hrow' hstatus hstatus' (hrequest.trans hrequest'.symm)
  rw [hreceipt] at hreceipt'
  rw [htxHash] at htxHash'
  obtain rfl := Option.some.inj hreceipt'
  exact ⟨hid.symm.trans hid', Option.some.inj htxHash', hreceiptId.symm.trans hreceiptId'⟩

/-- The row and the receipt a confirmation leaves. -/
theorem Db.settledAs_confirmSettlement (h : db.Coherent) {settlementId : String}
    (hpending : db.PendingRow settlementId requestId) (data : Confirmation)
    (receipt : PaymentReceipt) (hsettlement : receipt.settlementId = settlementId) :
    (db.confirmSettlement settlementId data receipt).SettledAs requestId
      (confirmedResult requestId settlementId data.txHash receipt.id) := by
  have hnil : db.receiptsOf settlementId = [] := by
    refine h.receiptsOf_eq_nil fun row hrow hid => ?_
    rw [(h.pending_of_id hpending hrow hid).2]
    exact fun hcontra => by cases hcontra
  obtain ⟨row, hrow, hid, hrequest, -⟩ := hpending
  refine ⟨row.confirm data, mem_update_of_eq hrow hid, hid, hrequest, rfl, rfl, receipt, ?_, rfl⟩
  have hfind : db.receipts.find? (·.settlementId = settlementId) = none := by
    rw [← List.head?_filter]
    exact congrArg List.head? hnil
  change (db.receipts ++ [receipt]).find? (·.settlementId = row.id) = some receipt
  rw [hid, List.find?_append, hfind, Option.none_or, List.find?_singleton,
    if_pos (decide_eq_true hsettlement)]

end Tables

/-! ### The invariant -/

namespace Phase

/-- The call has found its request verified. -/
def LookedUp : Phase → Prop
  | lookup => False
  | ended none => False
  | _ => True

/-- The result a call has returned, or is about to return. -/
def result? : Phase → Option SettleResult
  | closing result => result
  | ended result => result
  | _ => none

/-- The pending row a call is working on. -/
def row? : Phase → Option String
  | body settlementId => some settlementId
  | submitted settlementId => some settlementId
  | _ => none

end Phase

section Runs

variable {ι : Type} [DecidableEq ι] {faults : Faults}

/-- Calls of `settlePayment` on these requests that have not begun, before anything was settled. -/
structure SettleStart (deps : ι → SettleDeps) (req : ι → SettleRequest)
    (cfg : Config (machine ι faults) SettleReply) : Prop where
  calls : ∀ who, cfg.calls who = settlePayment (deps who) (req who)
  history : cfg.history = []
  settlements : cfg.world.db.settlements = []
  receipts : cfg.world.db.receipts = []

/-- Every pending row a call is working on is its own, the tables are coherent and have advanced
from an earlier state, and what a call has settled is in them. -/
structure RowsInv (req : ι → SettleRequest) (before : Db)
    (cfg : Config (machine ι faults) SettleReply) (phase : ι → Phase) : Prop where
  coherent : cfg.world.db.Coherent
  advances : before.Advances cfg.world.db
  pending : ∀ who settlementId, (phase who).row? = some settlementId →
    cfg.world.db.PendingRow settlementId (req who).paymentRequestId
  apart : ∀ who other settlementId, (phase who).row? = some settlementId →
    (phase other).row? = some settlementId → who = other
  verified : ∀ who, (phase who).LookedUp → cfg.world.db.Verified (req who).paymentRequestId
  settled : ∀ who result, (phase who).result? = some result →
    cfg.world.db.SettledAs (req who).paymentRequestId result
  waiting : ∀ who, cfg.NotStarted who → phase who = .lookup

abbrev SettleFollows (req : ι → SettleRequest)
    (Inv : Config (machine ι faults) SettleReply → (ι → Phase) → Prop)
    (cfg : Config (machine ι faults) SettleReply) (phase : ι → Phase) : Prop :=
  Config.Follows (fun who => settleRules (req who)) (fun _ => settlePost) Inv cfg phase

section Step

variable {req : ι → SettleRequest} {before : Db} {cfg : Config (machine ι faults) SettleReply}
  {phase : ι → Phase} {who : ι} {op : Op}
  {next : Except Err (interface.Ans op) → PaymentProgram SettleReply}
  {answer : Except Err (interface.Ans op)} {world : World ι} {phase' : Phase}

/-- The invariant after a step, from what the step does to the tables and to its own call. -/
theorem RowsInv.perform (h : RowsInv req before cfg phase) (hcoherent : world.db.Coherent)
    (hadvances : cfg.world.db.Advances world.db)
    (hothers : ∀ other settlementId, other ≠ who → (phase other).row? = some settlementId →
      world.db.PendingRow settlementId (req other).paymentRequestId)
    (hpending : ∀ settlementId, phase'.row? = some settlementId →
      world.db.PendingRow settlementId (req who).paymentRequestId ∧
        ∀ other, other ≠ who → (phase other).row? ≠ some settlementId)
    (hverified : phase'.LookedUp → world.db.Verified (req who).paymentRequestId)
    (hsettled : ∀ result, phase'.result? = some result →
      world.db.SettledAs (req who).paymentRequestId result) :
    RowsInv req before (cfg.perform who op next answer world)
      (Function.update phase who phase') where
  coherent := hcoherent
  advances := h.advances.trans hadvances
  pending := by
    intro other settlementId hbody
    by_cases heq : other = who
    · subst heq
      rw [Function.update_self] at hbody
      exact (hpending settlementId hbody).1
    · rw [Function.update_of_ne heq] at hbody
      exact hothers other settlementId heq hbody
  apart := by
    intro one other settlementId hone hother
    by_cases heq : one = who
    · subst heq
      rw [Function.update_self] at hone
      by_contra hne
      rw [Function.update_of_ne (Ne.symm hne)] at hother
      exact (hpending settlementId hone).2 other (Ne.symm hne) hother
    · rw [Function.update_of_ne heq] at hone
      by_cases heq' : other = who
      · subst heq'
        rw [Function.update_self] at hother
        exact absurd hone ((hpending settlementId hother).2 one heq)
      · rw [Function.update_of_ne heq'] at hother
        exact h.apart one other settlementId hone hother
  verified := by
    intro other hlooked
    by_cases heq : other = who
    · subst heq
      rw [Function.update_self] at hlooked
      exact hverified hlooked
    · rw [Function.update_of_ne heq] at hlooked
      exact (h.verified other hlooked).advances hadvances
  settled := by
    intro other result hresult
    by_cases heq : other = who
    · subst heq
      rw [Function.update_self] at hresult
      exact hsettled result hresult
    · rw [Function.update_of_ne heq] at hresult
      exact (h.settled other result hresult).advances hadvances
  waiting := by
    intro other hnot
    have hne : other ≠ who := fun heq => hnot _ List.mem_cons_self heq.symm
    rw [Function.update_of_ne hne]
    exact h.waiting other fun event hevent => hnot event (List.mem_cons_of_mem _ hevent)

theorem RowsInv.perform_quiet (h : RowsInv req before cfg phase) (hdb : world.db = cfg.world.db)
    (hbody : ∀ settlementId, phase'.row? = some settlementId → (phase who).row? = some settlementId)
    (hverified : phase'.LookedUp → cfg.world.db.Verified (req who).paymentRequestId)
    (hsettled : ∀ result, phase'.result? = some result →
      cfg.world.db.SettledAs (req who).paymentRequestId result) :
    RowsInv req before (cfg.perform who op next answer world)
      (Function.update phase who phase') := by
  rw [← hdb] at hverified hsettled
  refine h.perform (hdb ▸ h.coherent) (hdb ▸ .refl _) (fun other settlementId _ hother => ?_)
    (fun settlementId hphase => ⟨?_, fun other hne hother => ?_⟩) hverified hsettled
  · rw [hdb]
    exact h.pending other settlementId hother
  · rw [hdb]
    exact h.pending who settlementId (hbody settlementId hphase)
  · exact hne (h.apart other who settlementId hother (hbody settlementId hphase))

/-- One step of any call keeps the invariant, whatever the lock did. -/
theorem RowsInv.step (hreported : faults.commitLost = false) (h : RowsInv req before cfg phase)
    (hawaits : Phase.Awaits (req who) (phase who) op) {outcome : Outcome}
    (hexec : (machine ι faults).exec who cfg.world op outcome = some (answer, world)) :
    RowsInv req before (cfg.perform who op next answer world)
      (Function.update phase who ((phase who).next (req who) op answer)) := by
  have hverified := h.verified who
  have hsettled := h.settled who
  have hmine := h.pending who
  have hapart := h.apart who
  generalize hphase : phase who = current at hawaits hverified hsettled hmine hapart
  -- a decision on one's own row leaves the rows of the other calls alone
  have hothers : ∀ {settlementId : String} {f : PaymentSettlement → PaymentSettlement},
      current.row? = some settlementId → ∀ other otherId, other ≠ who →
      (phase other).row? = some otherId → ∀ row ∈ cfg.world.db.settlements, row.id = otherId →
      row ∈ update (·.id) settlementId f cfg.world.db.settlements := by
    intro settlementId f hrow other otherId hne hother row hmem hid
    refine mem_update_of_ne hmem fun heq => hne ?_
    rw [← hid.symm.trans heq] at hrow
    exact (hapart other otherId hrow hother).symm
  cases hawaits with
  | lookup =>
      obtain ⟨rfl, hanswer⟩ := exec_findPaymentRequest hexec
      rcases hanswer with hfound | ⟨error, rfl⟩
      · subst hfound
        rcases hrow : cfg.world.db.requestWithVerifications (req who).paymentRequestId with
          _ | ⟨paymentRequest, _ | ⟨verification, verifications⟩⟩
        · exact h.perform_quiet rfl (by rintro _ ⟨⟩) False.elim (by rintro _ ⟨⟩)
        · exact h.perform_quiet rfl (by rintro _ ⟨⟩) False.elim (by rintro _ ⟨⟩)
        · exact h.perform_quiet rfl (by rintro _ ⟨⟩)
            (fun _ => ⟨paymentRequest, verification, verifications, hrow⟩) (by rintro _ ⟨⟩)
      · exact h.perform_quiet rfl (by rintro _ ⟨⟩) False.elim (by rintro _ ⟨⟩)
  | check =>
      obtain ⟨rfl, hanswer⟩ := exec_findConfirmedSettlement hexec
      rcases hanswer with ⟨rfl, -⟩ | ⟨row, hrow, rfl⟩ | ⟨error, rfl⟩
      · exact h.perform_quiet rfl (by rintro _ ⟨⟩) (fun _ => hverified trivial) (by rintro _ ⟨⟩)
      · refine h.perform_quiet rfl (by rintro _ ⟨⟩) (fun _ => hverified trivial) ?_
        rintro result ⟨⟩
        exact h.coherent.settledAs_idempotentResult hrow
      · exact h.perform_quiet rfl (by rintro _ ⟨⟩) False.elim (by rintro _ ⟨⟩)
  | lock =>
      have hdb := (exec_redis hexec).2
      rcases answer with error | _ | _
      · exact h.perform_quiet hdb (by rintro _ ⟨⟩) False.elim (by rintro _ ⟨⟩)
      · exact h.perform_quiet hdb (by rintro _ ⟨⟩) False.elim (by rintro _ ⟨⟩)
      · exact h.perform_quiet hdb (by rintro _ ⟨⟩) (fun _ => hverified trivial) (by rintro _ ⟨⟩)
  | name =>
      obtain ⟨rfl, id, rfl⟩ := exec_generateId hexec
      exact h.perform_quiet rfl (by rintro _ ⟨⟩) (fun _ => hverified trivial) (by rintro _ ⟨⟩)
  | create settlementId =>
      rcases exec_createSettlement hexec with ⟨hfresh, rfl⟩ | ⟨⟨error, rfl⟩, rfl⟩
      · -- a row that was created without the call learning of it stays pending for ever
        refine h.perform (h.coherent.createSettlement hfresh rfl) (.createSettlement _ _)
          (fun other otherId _ hother => ?_) ?_
          (fun _ => (hverified trivial).advances (.createSettlement _ _)) ?_
        · exact (h.pending other otherId hother).of_mem fun row hrow _ => List.mem_append_left _ hrow
        · intro otherId hbody
          cases answer with
          | error error => cases hbody
          | ok created =>
              cases hbody
              refine ⟨⟨_, List.mem_append_right _ (List.mem_singleton_self _), rfl, rfl, rfl⟩, ?_⟩
              intro other hne hother
              obtain ⟨row, hrow, hid, -⟩ := h.pending other settlementId hother
              exact hfresh row hrow hid
        · cases answer <;> rintro result ⟨⟩
      · exact h.perform_quiet rfl (by rintro _ ⟨⟩) (fun _ => hverified trivial) (by rintro _ ⟨⟩)
  | submit settlementId args =>
      exact h.perform_quiet (exec_chain hexec).2.1 (fun _ hrow => hphase ▸ hrow)
        (fun _ => hverified trivial) (by rintro _ ⟨⟩)
  | write settlementId transfer =>
      exact h.perform_quiet (exec_chain hexec).2.1 (fun _ hrow => hphase ▸ hrow)
        (fun _ => hverified trivial) (by rintro _ ⟨⟩)
  | wait settlementId rpcUrl txHash =>
      exact h.perform_quiet (exec_chain hexec).2.1 (fun _ hrow => hphase ▸ hrow)
        (fun _ => hverified trivial) (by rintro _ ⟨⟩)
  | leave settlementId =>
      exact h.perform_quiet (exec_chain hexec).2.1 (fun _ hrow => hphase ▸ hrow)
        (fun _ => hverified trivial) (by rintro _ ⟨⟩)
  | receiptId settlementId =>
      obtain ⟨rfl, id, rfl⟩ := exec_generateId hexec
      exact h.perform_quiet rfl (fun _ hrow => hphase ▸ hrow) (fun _ => hverified trivial)
        (by rintro _ ⟨⟩)
  | now settlementId =>
      obtain ⟨rfl, ms, rfl⟩ := exec_now hexec
      exact h.perform_quiet rfl (fun _ hrow => hphase ▸ hrow) (fun _ => hverified trivial)
        (by rintro _ ⟨⟩)
  | confirm settlementId data paymentRequest receiptId =>
      have hrow := hmine settlementId rfl
      rcases exec_confirmSettlement hreported hexec with ⟨hcan, rfl, rfl⟩ | ⟨⟨error, rfl⟩, rfl⟩
      · refine h.perform (h.coherent.confirmSettlement hrow hcan rfl rfl rfl rfl rfl)
          (.confirmSettlement h.coherent hrow _ _) (fun other otherId hne hother => ?_)
          (by rintro _ ⟨⟩)
          (fun _ => (hverified trivial).advances (.confirmSettlement h.coherent hrow _ _)) ?_
        · exact (h.pending other otherId hother).of_mem (hothers rfl other otherId hne hother)
        · rintro result ⟨⟩
          exact Db.settledAs_confirmSettlement h.coherent hrow data _ rfl
      · exact h.perform_quiet rfl (fun _ hrow => hphase ▸ hrow) (fun _ => hverified trivial)
          (by rintro _ ⟨⟩)
  | failUnsubmitted settlementId =>
      have hrow := hmine settlementId rfl
      rcases exec_failSettlement hexec with rfl | ⟨⟨error, rfl⟩, rfl⟩
      · refine h.perform (h.coherent.failSettlement hrow) (.failSettlement h.coherent hrow)
          (fun other otherId hne hother => ?_) (by cases answer <;> rintro _ ⟨⟩)
          (fun _ => (hverified trivial).advances (.failSettlement h.coherent hrow))
          (by cases answer <;> rintro _ ⟨⟩)
        exact (h.pending other otherId hother).of_mem (hothers rfl other otherId hne hother)
      · exact h.perform_quiet rfl (by rintro _ ⟨⟩) (fun _ => hverified trivial) (by rintro _ ⟨⟩)
  | fail settlementId =>
      have hrow := hmine settlementId rfl
      rcases exec_failSettlement hexec with rfl | ⟨⟨error, rfl⟩, rfl⟩
      · refine h.perform (h.coherent.failSettlement hrow) (.failSettlement h.coherent hrow)
          (fun other otherId hne hother => ?_) (by cases answer <;> rintro _ ⟨⟩)
          (fun _ => (hverified trivial).advances (.failSettlement h.coherent hrow))
          (by cases answer <;> rintro _ ⟨⟩)
        exact (h.pending other otherId hother).of_mem (hothers rfl other otherId hne hother)
      · exact h.perform_quiet rfl (by rintro _ ⟨⟩) (fun _ => hverified trivial) (by rintro _ ⟨⟩)
  | failed =>
      exact h.perform_quiet (exec_redis hexec).2 (by cases answer <;> rintro _ ⟨⟩)
        (fun _ => hverified trivial) (by cases answer <;> rintro _ ⟨⟩)
  | releasing =>
      exact h.perform_quiet (exec_redis hexec).2 (by cases answer <;> rintro _ ⟨⟩)
        (fun _ => hverified trivial) (by cases answer <;> rintro _ ⟨⟩)
  | closing result =>
      exact h.perform_quiet (exec_redis hexec).2 (by cases answer <;> rintro _ ⟨⟩)
        (fun _ => hverified trivial) fun other hother => hsettled other hother

end Step

/-! ### Every run -/

variable {deps : ι → SettleDeps} {req : ι → SettleRequest}
  {start cfg later : Config (machine ι faults) SettleReply}

theorem preserved_rows (hreported : faults.commitLost = false) (before : Db) :
    Config.Preserved (M := machine ι faults) (fun who => settleRules (req who))
      (fun _ => settlePost) (RowsInv req before) Config.anyStep where
  call cfg phase who op next outcome answer world hfollows _ hallowed hexec _ :=
    ⟨_, rfl, hfollows.inv.step hreported hallowed hexec⟩
  env cfg phase event world hfollows henv := by
    have hdb := machine_env_db henv
    have hinv := hfollows.inv
    exact ⟨hdb ▸ hinv.coherent, hdb ▸ hinv.advances, hdb ▸ hinv.pending, hinv.apart,
      hdb ▸ hinv.verified, hdb ▸ hinv.settled, hinv.waiting⟩

omit [DecidableEq ι] in
theorem SettleStart.follows (hstart : SettleStart deps req start) :
    SettleFollows req (RowsInv req start.world.db) start fun _ => .lookup where
  sat who := by
    rw [hstart.calls]
    exact sat_settlePayment (deps who) (req who)
  inv :=
    { coherent :=
        { ids := by rw [hstart.settlements]; exact List.nodup_nil
          statuses := by simp [hstart.settlements]
          receiptRequests := by rw [hstart.receipts]; exact List.nodup_nil
          receiptRows := by simp [hstart.receipts]
          confirmedRows := by simp [hstart.settlements] }
      advances := .refl _
      pending := by rintro _ _ ⟨⟩
      apart := by rintro _ _ _ ⟨⟩
      verified := fun _ => False.elim
      settled := by rintro _ _ ⟨⟩
      waiting := fun _ _ => rfl }

/-- The invariant, counted from any earlier state of the run. -/
theorem rows_follow (hreported : faults.commitLost = false) (hstart : SettleStart deps req start)
    (hreach : Config.Reachable Config.anyStep start cfg) :
    ∃ phase, SettleFollows req (RowsInv req cfg.world.db) cfg phase := by
  obtain ⟨phase, hfollows⟩ := hreach.follows (preserved_rows hreported _) hstart.follows
  exact ⟨phase, hfollows.sat, { hfollows.inv with advances := .refl _ }⟩

theorem pending_of_new (hreported : faults.commitLost = false)
    (hstart : SettleStart deps req start) (hreach : Config.Reachable Config.anyStep start cfg)
    (hstep : Config.Step Config.anyStep cfg later) {row : PaymentSettlement}
    (hrow : row ∈ later.world.db.settlements)
    (hnew : ∀ old ∈ cfg.world.db.settlements, old.id ≠ row.id) :
    row.settlementStatus = .pending := by
  obtain ⟨phase, hfollows⟩ := rows_follow hreported hstart hreach
  cases hstep with
  | @env event world henv =>
      rw [machine_env_db henv] at hrow
      exact absurd rfl (hnew row hrow)
  | @call who op next outcome answer world hcall hexec _ =>
      rw [Config.perform_world] at hrow
      rcases exec_settlements_cases hexec with heq | ⟨created, rfl, -, hdb⟩ | ⟨id, -, hdb⟩ |
        ⟨id, data, receipt, -, hdb⟩
      · rw [heq] at hrow
        exact absurd rfl (hnew row hrow)
      · rw [hdb] at hrow
        rcases List.mem_append.mp hrow with hrow | hrow
        · exact absurd rfl (hnew row hrow)
        · have hawaits : Phase.Awaits (req who) (phase who) _ := hfollows.allowed hcall
          rw [List.mem_singleton.mp hrow]
          generalize phase who = current at hawaits
          cases hawaits with
          | create settlementId => rfl
      · rw [hdb] at hrow
        rcases mem_update.mp hrow with ⟨hrow, -⟩ | ⟨old, hold, -, rfl⟩
        · exact absurd rfl (hnew row hrow)
        · exact absurd rfl (hnew old hold)
      · rw [hdb] at hrow
        rcases mem_update.mp hrow with ⟨hrow, -⟩ | ⟨old, hold, -, rfl⟩
        · exact absurd rfl (hnew row hrow)
        · exact absurd rfl (hnew old hold)

/-- **The life of a settlement.** In every reachable state, whatever the locks did: a row is created
pending and decided at most once, a request has at most one confirmed row, and a row is confirmed
exactly when one receipt refers to it, which agrees with it. A transaction that is rejected must have
committed nothing: if the answer of a COMMIT were lost, the catch branch would fail the confirmed row. -/
theorem settlement_life (hreported : faults.commitLost = false)
    (hstart : SettleStart deps req start) (hreach : Config.Reachable Config.anyStep start cfg) :
    Unique (·.id) cfg.world.db.settlements ∧
    (∀ next, Config.Step Config.anyStep cfg next → ∀ row ∈ next.world.db.settlements,
      (∀ old ∈ cfg.world.db.settlements, old.id ≠ row.id) → row.settlementStatus = .pending) ∧
    (∀ later, Config.Reachable Config.anyStep cfg later →
      Evolves (·.id) Decided cfg.world.db.settlements later.world.db.settlements) ∧
    (∀ row ∈ cfg.world.db.settlements, ∀ row' ∈ cfg.world.db.settlements,
      row.settlementStatus = .confirmed → row'.settlementStatus = .confirmed →
      row.requestId = row'.requestId → row = row') ∧
    ∀ row ∈ cfg.world.db.settlements, row.settlementStatus = .confirmed ↔
      ∃ receipt, cfg.world.db.receiptsOf row.id = [receipt] ∧ Agrees row receipt := by
  obtain ⟨phase, hfollows⟩ := rows_follow hreported hstart hreach
  have hcoherent := hfollows.inv.coherent
  refine ⟨hcoherent.ids, fun next hstep row hrow hnew => ?_, fun later hlater => ?_,
    fun row hrow row' hrow' hstatus hstatus' hrequest => ?_, fun row hrow => ?_⟩
  · exact pending_of_new hreported hstart hreach hstep hrow hnew
  · obtain ⟨phase', hfollows'⟩ := hlater.follows (preserved_rows hreported _) hfollows
    exact hfollows'.inv.advances.settlements
  · exact hcoherent.confirmed_unique hrow hrow' hstatus hstatus' hrequest
  · exact hcoherent.confirmed_iff hrow

omit [DecidableEq ι] in
theorem settleStart_start (faults : Faults) :
    SettleStart (fun _ => sampleDeps) (fun _ => sampleRequest) (settleStart ι faults) where
  calls _ := rfl
  history := rfl
  settlements := rfl
  receipts := rfl

theorem settlement_life_confirmed :
    ∃ cfg : Config (machine (Fin 2) ⟨true, false⟩) SettleReply,
      ∃ row ∈ cfg.world.db.settlements, row.settlementStatus = .confirmed ∧
        ∃ receipt, cfg.world.db.receiptsOf row.id = [receipt] ∧ Agrees row receipt := by
  obtain ⟨cfg, hreach, hconfirmed⟩ := Config.exists_reachable_of_run
    (show ((settleStart (Fin 2) ⟨true, false⟩).run (settleMoves 0 "set-0" "0x01" "rec-0")).map
      (fun cfg => cfg.world.db.settlements.any (·.settlementStatus = .confirmed)) = some true by
        decide +kernel)
  obtain ⟨row, hrow, hstatus⟩ := List.any_eq_true.mp hconfirmed
  have hlife := settlement_life rfl (settleStart_start _) hreach
  exact ⟨cfg, row, hrow, of_decide_eq_true hstatus,
    (hlife.2.2.2.2 row hrow).mp (of_decide_eq_true hstatus)⟩

/-! ### Latecomers -/

/-- Only the two reads. -/
def OnlyReads (requestId : String) (events : List (Event interface Err ι)) : Prop :=
  ∀ event ∈ events, event.op = .findPaymentRequest requestId ∨
    event.op = .findConfirmedSettlement requestId

def ReadFailed (events : List (Event interface Err ι)) : Prop :=
  ∃ event ∈ events, ∃ error, event.answer = .error error

/-- Two results name the same settlement. -/
def SettleResult.Same (result result' : SettleResult) : Prop :=
  result'.settlementId = result.settlementId ∧ result'.txHash = result.txHash ∧
    result'.receiptId = result.receiptId

/-- How far a call can have come that started when its request was settled: it reads twice and
reports the settlement, or ends in the error of a read. -/
def Latecomer (result : SettleResult) (events : List (Event interface Err ι)) : Phase → Prop
  | .lookup => events.length = 0
  | .check => events.length = 1
  | .ended (some result') => result.Same result'
  | .ended none => ReadFailed events
  | _ => False

/-- The request is settled, and a call that starts now is a latecomer. -/
structure LateInv (req : ι → SettleRequest) (before : Db) (result : SettleResult) (late : ι)
    (cfg : Config (machine ι faults) SettleReply) (phase : ι → Phase) : Prop where
  rows : RowsInv req before cfg phase
  verified : cfg.world.db.Verified (req late).paymentRequestId
  settled : cfg.world.db.SettledAs (req late).paymentRequestId result
  reads : OnlyReads (req late).paymentRequestId (cfg.eventsOf late)
  late : Latecomer result (cfg.eventsOf late) (phase late)

/-- A step of a latecomer is one of its reads, and the second one finds the settlement. -/
theorem LateInv.step {before : Db} {result : SettleResult} {phase : ι → Phase} {late : ι} {op : Op}
    {next : Except Err (interface.Ans op) → PaymentProgram SettleReply}
    {answer : Except Err (interface.Ans op)} {world : World ι}
    (h : LateInv req before result late cfg phase)
    (hawaits : Phase.Awaits (req late) (phase late) op) {outcome : Outcome}
    (hexec : (machine ι faults).exec late cfg.world op outcome = some (answer, world)) :
    OnlyReads (req late).paymentRequestId
        ((cfg.perform late op next answer world).eventsOf late) ∧
      Latecomer result ((cfg.perform late op next answer world).eventsOf late)
        ((phase late).next (req late) op answer) := by
  rw [Config.eventsOf_perform_self]
  have hlate := h.late
  generalize phase late = current at hawaits hlate
  cases hawaits with
  | lookup =>
      refine ⟨List.forall_mem_cons.mpr ⟨.inl rfl, h.reads⟩, ?_⟩
      obtain ⟨-, hanswer⟩ := exec_findPaymentRequest hexec
      rcases hanswer with rfl | ⟨error, rfl⟩
      · obtain ⟨paymentRequest, verification, verifications, hfound⟩ := h.verified
        rw [hfound]
        exact congrArg (· + 1) hlate
      · exact ⟨_, List.mem_cons_self, error, rfl⟩
  | check =>
      refine ⟨List.forall_mem_cons.mpr ⟨.inr rfl, h.reads⟩, ?_⟩
      obtain ⟨-, hanswer⟩ := exec_findConfirmedSettlement hexec
      rcases hanswer with ⟨rfl, hnone⟩ | ⟨row, hrow, rfl⟩ | ⟨error, rfl⟩
      · obtain ⟨row, hrow, -, hrequest, hstatus, -⟩ := h.settled
        have hmem : row ∈ cfg.world.db.confirmedFor (req late).paymentRequestId :=
          List.mem_filter.mpr ⟨hrow, decide_eq_true ⟨hrequest, hstatus⟩⟩
        rw [hnone] at hmem
        cases hmem
      · have hsame := h.rows.coherent.settledAs_idempotentResult hrow
        exact hsame.unique h.rows.coherent h.settled
      · exact ⟨_, List.mem_cons_self, error, rfl⟩
  | _ => exact hlate.elim

theorem preserved_late (hreported : faults.commitLost = false) (before : Db)
    (result : SettleResult) (late : ι) :
    Config.Preserved (M := machine ι faults) (fun who => settleRules (req who))
      (fun _ => settlePost) (LateInv req before result late) Config.anyStep where
  call cfg phase who op next outcome answer world hfollows _ hallowed hexec _ := by
    have hrows : RowsInv req cfg.world.db cfg phase :=
      { hfollows.inv.rows with advances := .refl _ }
    have hstepped : RowsInv req cfg.world.db (cfg.perform who op next answer world) _ :=
      hrows.step hreported hallowed hexec
    have hadvances := hstepped.advances
    have hinv := hfollows.inv
    have hlate : OnlyReads (req late).paymentRequestId
          ((cfg.perform who op next answer world).eventsOf late) ∧
        Latecomer result ((cfg.perform who op next answer world).eventsOf late)
          (Function.update phase who ((phase who).next (req who) op answer) late) := by
      by_cases heq : late = who
      · subst heq
        rw [Function.update_self]
        exact hinv.step hallowed hexec
      · rw [Function.update_of_ne heq, Config.eventsOf_perform_of_ne _ heq]
        exact ⟨hinv.reads, hinv.late⟩
    exact ⟨_, rfl, hinv.rows.step hreported hallowed hexec, hinv.verified.advances hadvances,
      hinv.settled.advances hadvances, hlate.1, hlate.2⟩
  env cfg phase event world hfollows henv := by
    have hrows := (preserved_rows hreported before).env cfg phase event world
      ⟨hfollows.sat, hfollows.inv.rows⟩ henv
    have hdb := machine_env_db henv
    refine ⟨hrows, ?_, ?_, hfollows.inv.reads, hfollows.inv.late⟩
    · exact hdb ▸ hfollows.inv.verified
    · exact hdb ▸ hfollows.inv.settled

/-- **Settled for ever.** Once a call has returned `settled: true`, a call for the same request that
starts afterwards only reads, is over after two operations, and returns the same settlement unless
one of its own reads failed; whatever the calls before it still do. A transaction that is rejected must
have committed nothing, or the catch branch of a call would fail the row that its lost COMMIT has
confirmed. -/
theorem settled_forever (hreported : faults.commitLost = false)
    (hstart : SettleStart deps req start) (hreach : Config.Reachable Config.anyStep start cfg)
    {winner late : ι} {result : SettleResult}
    (hresult : (cfg.calls winner).result? = some (.ok (.settled result)))
    (hnew : cfg.NotStarted late)
    (hsame : (req late).paymentRequestId = (req winner).paymentRequestId)
    (hlater : Config.Reachable Config.anyStep cfg later) :
    OnlyReads (req late).paymentRequestId (later.eventsOf late) ∧
    ((later.calls late).result? = none → (later.eventsOf late).length < 2) ∧
    ∀ outcome, (later.calls late).result? = some outcome →
      (∃ result', outcome = .ok (.settled result') ∧ result.Same result') ∨
        ReadFailed (later.eventsOf late) := by
  obtain ⟨phase, hfollows⟩ := rows_follow hreported hstart hreach
  have hwinner : phase winner = .ended (some result) := by
    rcases hfollows.of_result hresult with hended | ⟨-, hnone⟩
    · exact hended
    · cases hnone
  have hlate : LateInv req cfg.world.db result late cfg phase :=
    { rows := hfollows.inv
      verified := by
        rw [hsame]
        exact hfollows.inv.verified winner (by rw [hwinner]; trivial)
      settled := by
        rw [hsame]
        exact hfollows.inv.settled winner result (by rw [hwinner]; rfl)
      reads := by
        rw [Config.eventsOf_of_notStarted hnew]
        exact List.forall_mem_nil _
      late := by
        rw [Config.eventsOf_of_notStarted hnew, hfollows.inv.waiting late hnew]
        rfl }
  obtain ⟨phase', hfollows'⟩ :=
    hlater.follows (preserved_late hreported _ result late) ⟨hfollows.sat, hlate⟩
  have hpost := hfollows'.inv.late
  refine ⟨hfollows'.inv.reads, fun hrunning => ?_, fun outcome houtcome => ?_⟩
  · obtain ⟨op, next, hcall⟩ := Program.result?_eq_none_iff.mp hrunning
    have hawaits : Phase.Awaits (req late) (phase' late) op := hfollows'.allowed hcall
    generalize phase' late = current at hawaits hpost
    cases hawaits with
    | lookup => exact hpost.trans_lt (by decide)
    | check => exact hpost.trans_lt (by decide)
    | _ => exact hpost.elim
  · rcases hfollows'.of_result houtcome with hended | ⟨habandoned, -⟩
    · rw [hended] at hpost
      cases hresult' : settledResult outcome with
      | none =>
          rw [hresult'] at hpost
          exact .inr hpost
      | some result' =>
          rw [hresult'] at hpost
          refine .inl ⟨result', ?_, hpost⟩
          rcases outcome with error | (result'' | pending)
          · cases hresult'
          · exact congrArg (fun result => Except.ok (SettleReply.settled result))
              (Option.some.inj hresult')
          · cases hresult'
    · rw [habandoned] at hpost
      exact hpost.elim

end Runs

theorem settled_forever_latecomer :
    ∃ later : Config (machine (Fin 2) ⟨true, false⟩) SettleReply,
      OnlyReads "req-0" (later.eventsOf 1) ∧
      ∃ result, (later.calls 1).result? = some (.ok (.settled result)) ∧
        result.settlementId = "set-0" ∧ result.txHash = "0x01" ∧ result.receiptId = "rec-0" := by
  obtain ⟨cfg, later, hreach, hsettled, hlater, hreplied⟩ := Config.exists_reachable_of_runs
    (show ((settleStart (Fin 2) ⟨true, false⟩).run (settleMoves 0 "set-0" "0x01" "rec-0")).map
      (fun cfg => cfg.history.all (·.who ≠ 1) && decide ((cfg.calls 0).result? =
        some (.ok (.settled (confirmedResult "req-0" "set-0" "0x01" "rec-0"))))) = some true by
          decide +kernel)
    (show ((settleStart (Fin 2) ⟨true, false⟩).run
      (settleMoves 0 "set-0" "0x01" "rec-0" ++ lookups 1)).map
        (fun later => (later.calls 1).result?.any Except.isOk &&
          (later.eventsOf 1).all (·.answer.isOk)) = some true by decide +kernel)
  rw [Bool.and_eq_true, List.all_eq_true, decide_eq_true_eq] at hsettled
  rw [Bool.and_eq_true, Option.any_eq_true, List.all_eq_true] at hreplied
  obtain ⟨⟨outcome, houtcome, -⟩, hreads⟩ := hreplied
  have hnew : cfg.NotStarted 1 := fun event hevent => of_decide_eq_true (hsettled.1 event hevent)
  obtain ⟨hreads', -, hreturned⟩ :=
    settled_forever rfl (settleStart_start _) hreach hsettled.2 hnew rfl hlater
  refine ⟨later, hreads', ?_⟩
  rcases hreturned outcome houtcome with ⟨result, rfl, hsame⟩ | ⟨event, hevent, error, herror⟩
  · exact ⟨result, houtcome, hsame⟩
  · have hok := hreads event hevent
    rw [herror] at hok
    cases hok

end Payment

end FacilitatorX402
