import FacilitatorX402.Proof.WorkerRedelivery

/-!
# The replies of repeated settlements

Calls of `runSettle` with the same arguments, one after the other. The first reply that is confirmed
is built from local variables, every later one from the columns of the row. They agree in all fields
but one: the first takes `settledAt` from the clock of the service, and a later one from the column
that the database filled when the row was created.
-/

namespace FacilitatorX402

open Interact KeyStore KeyedRows

namespace Service

/-- What step 2 replies for a confirmed row. -/
def replayedResult (requestId : String) (existing : PaymentSettlement)
    (receipt : Option PaymentReceipt) : SettleConfirmed where
  requestId := requestId
  settlementId := existing.id
  txHash := existing.txHash
  feeAmount := existing.feeAmount
  developerShare := existing.developerShare
  receiptId := receipt.map (·.id)
  confirmedAt := existing.confirmedAt.map fun ms => isoText ms
  settledAt := isoText existing.createdAt

theorem settleExisting_confirmed {requestId : String} {existing : PaymentSettlement}
    (receipt : Option PaymentReceipt) (h : existing.settlementStatus = .confirmed) :
    settleExisting requestId existing receipt
      = .ret (.confirmed (replayedResult requestId existing receipt)) := by
  rw [settleExisting, h]
  rfl

/-- Every other row is answered with a failure. -/
theorem settleExisting_undecided {requestId : String} {existing : PaymentSettlement}
    (receipt : Option PaymentReceipt) (h : existing.settlementStatus ≠ .confirmed) :
    ∃ code message httpStatus, settleExisting requestId existing receipt
      = settleReject requestId code message httpStatus := by
  unfold settleExisting
  cases hstatus : existing.settlementStatus with
  | confirmed => exact absurd hstatus h
  | failed => exact ⟨_, _, _, rfl⟩
  | pending => exact ⟨_, _, _, rfl⟩
  | processing => exact ⟨_, _, _, rfl⟩

/-! ### What a call keeps -/

/-- A call stores no request and no verification, and its request has one settlement at most. -/
structure Db.Kept (requestId : String) (db db' : Db) : Prop where
  networks : db'.networks = db.networks
  requests : db'.requests = db.requests
  verifications : db'.verifications = db.verifications
  one : (db'.settlementsOf requestId).length ≤ 1

section Kept

variable {requestId : String} {db db' : Db}

theorem Db.settlementsOf_updateSettlement {f : PaymentSettlement → PaymentSettlement}
    (hf : ∀ row, (f row).requestId = row.requestId) (id : String) :
    (db.updateSettlement id f).settlementsOf requestId
      = update (·.id) id f (db.settlementsOf requestId) := by
  rw [Db.settlementsOf, Db.updateSettlement, Db.settlementsOf, update, update, List.filter_map]
  congr 1
  refine List.filter_congr fun row _ => ?_
  by_cases hid : row.id = id
  · rw [Function.comp_apply, if_pos hid, hf]
  · rw [Function.comp_apply, if_neg hid]

theorem Db.settlementsOf_createSettlement (id : String) (referralCode : Option String) :
    (db.createSettlement id requestId referralCode).settlementsOf requestId
      = db.settlementsOf requestId ++ [db.newSettlement id requestId referralCode] := by
  rw [Db.settlementsOf, Db.createSettlement, Db.settlementsOf, List.filter_append]
  exact congrArg _ (List.filter_cons_of_pos (decide_eq_true rfl))

theorem Db.Kept.of_eq (h : db' = db) (hone : (db.settlementsOf requestId).length ≤ 1) :
    db.Kept requestId db' := by
  subst h
  exact ⟨rfl, rfl, rfl, hone⟩

theorem Db.Kept.update (h : db.Kept requestId db') {f : PaymentSettlement → PaymentSettlement}
    (hf : ∀ row, (f row).requestId = row.requestId) (id : String) :
    db.Kept requestId (db'.updateSettlement id f) := by
  refine ⟨h.networks, h.requests, h.verifications, ?_⟩
  rw [Db.settlementsOf_updateSettlement hf, KeyedRows.update, List.length_map]
  exact h.one

theorem Db.Kept.confirm (h : db.Kept requestId db') (id : String) (data : Confirmation)
    (receipt : PaymentReceipt) : db.Kept requestId (db'.confirmSettlement id data receipt) := by
  have hkept := h.update (f := fun row => row.confirm data) (fun _ => rfl) id
  exact ⟨hkept.networks, hkept.requests, hkept.verifications, hkept.one⟩

theorem Db.Kept.create (h : db.settlementsOf requestId = []) (id : String)
    (referralCode : Option String) : db.Kept requestId (db.createSettlement id requestId referralCode) := by
  refine ⟨rfl, rfl, rfl, ?_⟩
  rw [Db.settlementsOf_createSettlement, h]
  exact Nat.le_refl 1

theorem Db.Kept.acceptedVerifications_eq (h : db.Kept requestId db') (id requestId' : String) :
    db'.acceptedVerifications id requestId' = db.acceptedVerifications id requestId' := by
  rw [Db.acceptedVerifications, Db.acceptedVerifications, h.networks, h.requests, h.verifications]

end Kept

/-! ### One call -/

section Call

variable {ι : Type} {faults : Faults} {who : ι} {imports : Imports} {opts : SettleOpts} {db : Db}
  {phase : World ι × Prop}

/-- A reading of the clock prints like the clock of the database. -/
def sameClock : Fair (machine ι faults) := fun world op outcome =>
  op = .now → ∀ ms, outcome = .time ms → isoText ms = isoText world.db.clock

/-- A call alone, and whether its readings of the clock have printed like the clock of the database. -/
abbrev clocked (faults : Faults) (who : ι) : Protocol interface Err (World ι × Prop) :=
  tracked (M := machine ι faults) anyAnswer sameClock who

/-- The request has one settlement, which is confirmed, and the result is what later calls reply
exactly if the account says so. -/
def Replies (opts : SettleOpts) (phase : World ι × Prop) (first : SettleConfirmed) : Prop :=
  ∃ row, phase.1.db.settlementsOf opts.requestId = [row] ∧ row.settlementStatus = .confirmed ∧
    (first = replayedResult opts.requestId row (phase.1.db.receiptOf opts.requestId) ↔ phase.2)

def SettlesOnce (opts : SettleOpts) (db : Db) (phase : World ι × Prop)
    (outcome : Except Err SettleResponse) : Prop :=
  db.Kept opts.requestId phase.1.db ∧
    ∀ first, outcome = .ok (.confirmed first) → Replies opts phase first

theorem SettlesOnce.of_error (h : db.Kept opts.requestId phase.1.db) (error : Err) :
    SettlesOnce opts db phase (.error error) :=
  ⟨h, fun _ heq => by cases heq⟩

/-- Outside the clock the account does not change. -/
theorem sameClock_iff {op : Op} (hop : op ≠ .now) (account : Prop) (world : World ι)
    (outcome : Outcome) :
    (account ∧ @sameClock ι faults world op outcome) ↔ account :=
  and_iff_left fun hnow => absurd hnow hop

/-- The operations that neither change the database nor read the clock. -/
def Op.Unclocked (op : Op) : Prop := op.Reads ∧ op ≠ .now

theorem sat_unclocked {α : Type} {program : ServiceProgram α} (h : program.Only Op.Unclocked) :
    program.Sat (clocked faults who) phase fun phase' _ =>
      phase'.1.db = phase.1.db ∧ (phase'.2 ↔ phase.2) := by
  apply Program.Only.keeps (R := fun phase' : World ι × Prop =>
    phase'.1.db = phase.1.db ∧ (phase'.2 ↔ phase.2)) h
  · exact fun _ _ _ _ => trivial
  · rintro middle op answer phase' ⟨hreads, hnow⟩ ⟨hdb, haccount⟩ ⟨outcome, -, hexec, heq⟩
    refine ⟨(hreads.db_eq (exec_effect hexec)).trans hdb, ?_⟩
    rw [heq, sameClock_iff hnow]
    exact haccount
  · exact ⟨rfl, Iff.rfl⟩

theorem sat_clocked_op (op : Op) (post : World ι × Prop → Except Err op.Ans → Prop)
    (h : ∀ answer world' outcome, (machine ι faults).exec who phase.1 op outcome
      = some (answer, world') → post (world', phase.2 ∧ sameClock phase.1 op outcome) answer) :
    op.call.Sat (clocked faults who) phase post := by
  rw [sat_op]
  refine ⟨trivial, ?_⟩
  rintro answer ⟨world', account⟩ ⟨outcome, -, hexec, rfl⟩
  exact h answer world' outcome hexec

theorem sat_settleReject (requestId code message : String) (httpStatus : Nat) :
    (settleReject requestId code message httpStatus).Sat (clocked faults who) phase
      fun phase' outcome => phase'.1.db = phase.1.db ∧ ∀ first, outcome ≠ .ok (.confirmed first) := by
  rw [settleReject, dateNow, Program.sat_bind']
  apply sat_clocked_op
  have hreads : Op.Reads .now := trivial
  rintro (error | ms) world' outcome hexec
  · exact ⟨hreads.db_eq (exec_effect hexec), fun first heq => by cases heq⟩
  · exact ⟨hreads.db_eq (exec_effect hexec), fun first heq => by cases heq⟩

theorem sat_settleReject_once (h : db.Kept opts.requestId phase.1.db)
    (code message : String) (httpStatus : Nat) :
    (settleReject opts.requestId code message httpStatus).Sat (clocked faults who) phase
      (SettlesOnce opts db) := by
  apply (sat_settleReject _ _ _ _).mono
  rintro phase' outcome ⟨hdb, hfailed⟩
  exact ⟨hdb ▸ h, fun first heq => absurd heq (hfailed first)⟩

theorem sat_settleFailure_once (h : db.Kept opts.requestId phase.1.db) (settlementId : String)
    (error : Err) :
    (settleFailure opts settlementId error).Sat (clocked faults who) phase (SettlesOnce opts db) := by
  rw [settleFailure, Program.sat_bind', Program.sat_ignoreErrors, failSettlement]
  apply sat_clocked_op
  intro answer world' outcome hexec
  have hfailed : db.Kept opts.requestId world'.db := by
    rcases statement_cases hexec with ⟨-, rfl, -⟩ | ⟨-, rfl⟩
    · exact h.update (f := PaymentSettlement.fail) (fun _ => rfl) settlementId
    · exact h
  rw [Program.thenSat_ok, Program.sat_bind', Program.sat_ignoreErrors]
  apply (sat_unclocked (only_redisDel ⟨trivial, fun heq => by cases heq⟩)).mono
  rintro phase' _ ⟨hdb, -⟩
  exact sat_settleReject_once (hdb ▸ hfailed) _ _ _

/-- The row of the call is the one of the request, and carries the time of the database. -/
structure Opened (opts : SettleOpts) (db : Db) (settlementId : String) (phase : World ι × Prop) :
    Prop where
  kept : db.Kept opts.requestId phase.1.db
  row : ∃ row, phase.1.db.settlementsOf opts.requestId = [row] ∧ row.id = settlementId ∧
    row.createdAt = phase.1.db.clock
  account : phase.2

theorem Opened.create {settlementId : String}
    (hdb : phase.1.db = db.createSettlement settlementId opts.requestId opts.referralCode)
    (hnone : db.settlementsOf opts.requestId = []) (haccount : phase.2) :
    Opened opts db settlementId phase where
  kept := hdb ▸ Db.Kept.create hnone settlementId opts.referralCode
  row := by
    rw [hdb, Db.settlementsOf_createSettlement, hnone, List.nil_append]
    exact ⟨_, rfl, rfl, rfl⟩
  account := haccount

theorem Opened.of_unclocked {settlementId : String} (h : Opened opts db settlementId phase)
    {phase' : World ι × Prop} (hdb : phase'.1.db = phase.1.db) (haccount : phase'.2 ↔ phase.2) :
    Opened opts db settlementId phase' where
  kept := hdb ▸ h.kept
  row := hdb ▸ h.row
  account := haccount.mpr h.account

theorem receiptOf_confirmSettlement {id : String} {data : Confirmation} {receipt : PaymentReceipt}
    (hcan : db.canConfirm id data receipt = true) :
    (db.confirmSettlement id data receipt).receiptOf receipt.requestId = some receipt := by
  have hfresh := (Bool.and_eq_true_iff.mp hcan).2
  have hnone : db.receipts.find? (·.requestId = receipt.requestId) = none := by
    rw [List.find?_eq_none]
    intro other hother hsame
    exact (of_decide_eq_true (List.all_eq_true.mp hfresh other hother)).2 (of_decide_eq_true hsame)
  rw [Db.receiptOf, Db.confirmSettlement, List.find?_append, hnone, Option.none_or]
  exact List.find?_cons_of_pos (decide_eq_true rfl)

/-- The first reply and the later ones differ in `settledAt` at most. -/
theorem confirmedResult_eq {row : PaymentSettlement} {receipt : PaymentReceipt}
    (data : Confirmation) :
    confirmedResult opts row.id receipt.id data
      = .confirmed { replayedResult opts.requestId (row.confirm data) (some receipt) with
          settledAt := isoText data.confirmedAt } :=
  rfl

theorem settledAt_eq_iff (result : SettleConfirmed) (settledAt : String) :
    { result with settledAt := settledAt } = result ↔ settledAt = result.settledAt := by
  constructor
  · intro heq
    rw [← heq]
  · rintro rfl
    rfl

/-- A confirmation that has been committed. -/
theorem replies_confirmSettlement {row : PaymentSettlement} {data : Confirmation}
    {receipt : PaymentReceipt} (hrow : db.settlementsOf opts.requestId = [row])
    (hrequest : receipt.requestId = opts.requestId)
    (hcan : db.canConfirm row.id data receipt = true)
    (hdb : phase.1.db = db.confirmSettlement row.id data receipt)
    (haccount : phase.2 ↔ isoText data.confirmedAt = isoText row.createdAt)
    {first : SettleConfirmed}
    (hfirst : confirmedResult opts row.id receipt.id data = .confirmed first) :
    Replies opts phase first := by
  have hrows : phase.1.db.settlementsOf opts.requestId = [row.confirm data] := by
    have hupdate := @Db.settlementsOf_updateSettlement opts.requestId db
      (fun row => row.confirm data) (fun _ => rfl) row.id
    rw [hrow, update, List.map_singleton, if_pos rfl] at hupdate
    rw [hdb]
    exact hupdate
  have hreceipt : phase.1.db.receiptOf opts.requestId = some receipt := by
    rw [hdb, ← hrequest]
    exact receiptOf_confirmSettlement hcan
  refine ⟨row.confirm data, hrows, rfl, ?_⟩
  rw [hreceipt, haccount]
  rw [confirmedResult_eq] at hfirst
  obtain rfl := SettleResponse.confirmed.inj hfirst
  exact settledAt_eq_iff _ _

theorem exec_now {world world' : World ι} {outcome : Outcome} {ms : Nat}
    (h : (machine ι faults).exec who world .now outcome = some (.ok ms, world')) :
    outcome = .time ms ∧ world' = world := by
  cases outcome with
  | time ms' =>
      obtain ⟨hms, rfl⟩ := Prod.mk.inj (Option.some.inj h)
      exact ⟨congrArg Outcome.time (Except.ok.inj hms), rfl⟩
  | _ => cases h

/-- What a reading of the clock adds to the account. -/
theorem sameClock_now_iff {world : World ι} {account : Prop} (haccount : account) (ms : Nat) :
    (account ∧ @sameClock ι faults world .now (.time ms)) ↔
      isoText ms = isoText world.db.clock := by
  constructor
  · rintro ⟨-, hclock⟩
    exact hclock rfl ms rfl
  · refine fun hclock => ⟨haccount, fun _ ms' heq => ?_⟩
    obtain rfl := Outcome.time.inj heq
    exact hclock

/-- Steps 9 to 12: the transaction, the lock and the reply. -/
theorem sat_persist_once {row : PaymentSettlement} {data : Confirmation} {receipt : PaymentReceipt}
    (hkept : db.Kept opts.requestId phase.1.db)
    (hrow : phase.1.db.settlementsOf opts.requestId = [row])
    (hrequest : receipt.requestId = opts.requestId)
    (haccount : phase.2 ↔ isoText data.confirmedAt = isoText row.createdAt) :
    (do
      confirmSettlement row.id data receipt
      redisDel (lockKey opts.requestId)
      return confirmedResult opts row.id receipt.id data : ServiceProgram SettleResponse).Sat
      (clocked faults who) phase (SettlesOnce opts db) := by
  rw [Program.sat_bind', confirmSettlement]
  apply sat_clocked_op
  rintro answer world' outcome hexec
  have hcommit := statement_cases (statement_of_transaction hexec)
  rw [sameClock_iff (fun heq => by cases heq)]
  have hkept' : db.Kept opts.requestId world'.db := by
    rcases hcommit with ⟨-, rfl, -⟩ | ⟨-, rfl⟩
    · exact hkept.confirm _ _ _
    · exact hkept
  cases answer with
  | error error => exact .of_error hkept' error
  | ok confirmed =>
      obtain ⟨hcan, hworld, -⟩ := hcommit.resolve_right (fun hfailed => by
        obtain ⟨⟨error, heq⟩, -⟩ := hfailed
        cases heq)
      rw [Program.thenSat_ok, Program.sat_bind']
      apply (sat_unclocked (only_redisDel ⟨trivial, fun heq => by cases heq⟩)).mono
      rintro last (error | deleted) ⟨hlast, hsame⟩
      · exact .of_error (hlast ▸ hkept') error
      have hdb : last.1.db = phase.1.db.confirmSettlement row.id data receipt := by
        calc last.1.db = world'.db := hlast
          _ = _ := congrArg World.db hworld
      refine ⟨hlast ▸ hkept', fun first hfirst => ?_⟩
      exact replies_confirmSettlement hrow hrequest hcan hdb (hsame.trans haccount)
        (Except.ok.inj hfirst)

theorem sat_settleSubmitted_once {settlementId : String} (h : Opened opts db settlementId phase)
    (paymentRequest : PaymentRequest) (network : NetworkConfig) (value : Int)
    (onChainResult : OnChainResult) :
    (settleSubmitted imports opts paymentRequest network value settlementId onChainResult).Sat
      (clocked faults who) phase (SettlesOnce opts db) := by
  obtain ⟨row, hrow, rfl, hcreated⟩ := h.row
  rw [settleSubmitted, dateNow, Program.sat_bind']
  apply sat_clocked_op
  rintro (error | ms) world' outcome hexec
  · have hreads : Op.Reads .now := trivial
    refine .of_error ?_ error
    rw [hreads.db_eq (exec_effect hexec)]
    exact h.kept
  obtain ⟨rfl, rfl⟩ := exec_now hexec
  rw [Program.thenSat_ok, Program.sat_bind']
  apply (sat_unclocked (@only_op Op.Unclocked .generateId ⟨trivial, fun heq => by cases heq⟩)).mono
  rintro ⟨world', account⟩ (error | receiptId) ⟨hdb, hsame⟩
  · exact .of_error (hdb ▸ h.kept) error
  dsimp only at hdb hsame
  have haccount : account ↔ isoText ms = isoText row.createdAt := by
    calc account ↔ phase.2 ∧ sameClock phase.1 .now (.time ms) := hsame
      _ ↔ isoText ms = isoText phase.1.db.clock := sameClock_now_iff h.account ms
      _ ↔ isoText ms = isoText row.createdAt := by rw [hcreated]
  have hkept : db.Kept opts.requestId world'.db := hdb ▸ h.kept
  have hrow' : world'.db.settlementsOf opts.requestId = [row] := hdb ▸ hrow
  exact @sat_persist_once ι faults who opts db (world', account) row _ _ hkept hrow' rfl haccount

theorem sat_settleBody_once {settlementId : String} (h : Opened opts db settlementId phase)
    (verification : PaymentVerification) (paymentRequest : PaymentRequest)
    (networkRecord : Network) :
    (settleBody imports opts verification paymentRequest networkRecord settlementId).Sat
      (clocked faults who) phase (SettlesOnce opts db) := by
  have hseller : ∀ id, Op.Unclocked (.findSeller id) := fun id => ⟨trivial, fun heq => by cases heq⟩
  have hchain : ∀ op, Op.Unclocked (.chain op) := fun op => ⟨trivial, fun heq => by cases heq⟩
  unfold settleBody
  dsimp only
  split
  · exact .of_error h.kept _
  rename_i network asset _
  rw [Program.sat_bind', Program.sat_ofExcept]
  cases grossAmount paymentRequest.amount with
  | error error => exact .of_error h.kept error
  | ok value =>
      rw [Program.thenSat_ok, Program.sat_bind']
      apply (sat_unclocked (only_payee hseller paymentRequest)).mono
      rintro phase' (error | recipient) ⟨hdb, haccount⟩
      · exact .of_error (hdb ▸ h.kept) error
      have hopened := h.of_unclocked hdb haccount
      rw [Program.thenSat_ok, Program.sat_bind', Program.sat_ofExcept]
      cases submitArgs paymentRequest verification network asset value recipient with
      | error error => exact .of_error hopened.kept error
      | ok args =>
          have hsubmit : (submit args).Only Op.Unclocked := by
            apply (Program.only_lift chainHom _).mono
            rintro _ ⟨op, rfl⟩
            exact hchain op
          rw [Program.thenSat_ok, Program.sat_bind']
          apply (sat_unclocked hsubmit).mono
          rintro phase'' (error | onChainResult) ⟨hdb', haccount'⟩
          · exact .of_error (hdb' ▸ hopened.kept) error
          exact sat_settleSubmitted_once (hopened.of_unclocked hdb' haccount') paymentRequest network
            value onChainResult

/-- A call that has taken the lock creates the only settlement of its request. -/
theorem sat_settleHolding_once (hdb : phase.1.db = db) (haccount : phase.2)
    (hnone : db.settlementsOf opts.requestId = []) (verification : PaymentVerification)
    (paymentRequest : PaymentRequest) (networkRecord : Network) :
    (settleHolding imports opts verification paymentRequest networkRecord).Sat
      (clocked faults who) phase (SettlesOnce opts db) := by
  have hkept : db.Kept opts.requestId phase.1.db :=
    .of_eq hdb (by rw [hnone]; exact Nat.zero_le 1)
  rw [settleHolding, Program.sat_bind']
  apply (sat_unclocked (@only_op Op.Unclocked .generateId ⟨trivial, fun heq => by cases heq⟩)).mono
  rintro ⟨world', account⟩ (error | settlementId) ⟨hsame, haccount'⟩
  · exact .of_error (hsame ▸ hkept) error
  dsimp only at hsame haccount'
  have hdb' : world'.db = db := hsame.trans hdb
  subst hdb'
  rw [Program.thenSat_ok, Program.sat_bind', createSettlement]
  apply sat_clocked_op
  intro answer world'' outcome hexec
  have hcreate := statement_cases hexec
  rw [sameClock_iff (fun heq => by cases heq)]
  cases answer with
  | error error =>
      rcases hcreate with ⟨-, rfl, -⟩ | ⟨-, rfl⟩
      · exact .of_error (Db.Kept.create hnone settlementId opts.referralCode) error
      · exact .of_error (hsame ▸ hkept) error
  | ok created =>
      have hcreated : world''.db = _ := congrArg World.db (exec_createSettlement_ok hexec)
      have hopened : Opened opts world'.db settlementId (world'', account) :=
        .create hcreated hnone (haccount'.mpr haccount)
      rw [Program.thenSat_ok, Program.sat_tryCatch]
      apply (sat_settleBody_once hopened verification paymentRequest networkRecord).mono
      rintro phase' (error | response) hphase'
      · exact sat_settleFailure_once hphase'.1 settlementId error
      · exact hphase'

/-- Step 2 of a call, for the settlement it has found. -/
theorem sat_settleExisting_once (hdb : phase.1.db = db) (haccount : phase.2)
    {existing : PaymentSettlement} (hone : db.settlementsOf opts.requestId = [existing]) :
    (settleExisting opts.requestId existing (db.receiptOf opts.requestId)).Sat (clocked faults who)
      phase (SettlesOnce opts db) := by
  have hkept : db.Kept opts.requestId phase.1.db :=
    .of_eq hdb (by rw [hone]; exact Nat.le_refl 1)
  by_cases hstatus : existing.settlementStatus = .confirmed
  · rw [settleExisting_confirmed _ hstatus]
    refine ⟨hkept, fun first hfirst => ⟨existing, hdb ▸ hone, hstatus, ?_⟩⟩
    obtain rfl := SettleResponse.confirmed.inj (Except.ok.inj hfirst)
    rw [hdb]
    exact iff_of_true rfl haccount
  · obtain ⟨code, message, httpStatus, hreject⟩ :=
      @settleExisting_undecided opts.requestId existing (db.receiptOf opts.requestId) hstatus
    rw [hreject]
    exact sat_settleReject_once hkept code message httpStatus

theorem findSettlement_cases {world world' : World ι} {requestId : String} {outcome : Outcome}
    {answer : Except Err (Option (PaymentSettlement × Option PaymentReceipt))}
    (hone : (world.db.settlementsOf requestId).length ≤ 1)
    (h : (machine ι faults).exec who world (.findSettlement requestId) outcome
      = some (answer, world')) :
    world' = world ∧ (answer = .ok none ∧ world.db.settlementsOf requestId = [] ∨
      (∃ existing, world.db.settlementsOf requestId = [existing] ∧
        answer = .ok (some (existing, world.db.receiptOf requestId))) ∨
      ∃ error, answer = .error error) := by
  obtain ⟨hworld, ⟨hnone, hempty⟩ | ⟨found, hmem, hfound⟩ | herror⟩ := findFirst_cases h
  · exact ⟨hworld, .inl ⟨hnone, List.map_eq_nil_iff.mp hempty⟩⟩
  · obtain ⟨existing, hexisting, rfl⟩ := List.mem_map.mp hmem
    refine ⟨hworld, .inr (.inl ⟨existing, ?_, hfound⟩)⟩
    obtain ⟨only, honly⟩ := List.length_eq_one_iff.mp
      (Nat.le_antisymm hone (List.length_pos_of_mem hexisting))
    rw [honly] at hexisting
    rw [honly, List.mem_singleton.mp hexisting]
  · exact ⟨hworld, .inr (.inr herror)⟩

/-- Steps 2 to 12 of a call. -/
theorem sat_settleAccepted_once (hdb : phase.1.db = db) (haccount : phase.2)
    (hone : (db.settlementsOf opts.requestId).length ≤ 1) (verification : PaymentVerification)
    (paymentRequest : PaymentRequest) (networkRecord : Network) :
    (settleAccepted imports opts verification paymentRequest networkRecord).Sat (clocked faults who)
      phase (SettlesOnce opts db) := by
  rw [settleAccepted, findSettlement, Program.sat_bind']
  apply sat_clocked_op
  intro answer world' outcome hexec
  obtain ⟨rfl, hsettlement⟩ := findSettlement_cases (hdb ▸ hone) hexec
  rw [sameClock_iff (fun heq => by cases heq)]
  rw [hdb] at hsettlement
  rcases hsettlement with ⟨rfl, hnone⟩ | ⟨existing, hsingle, rfl⟩ | ⟨error, rfl⟩
  · rw [Program.thenSat_ok, Program.sat_bind', sat_redisSetNx]
    refine ⟨trivial, ?_⟩
    rintro answer ⟨world', account⟩ ⟨outcome, -, hexec, haccount'⟩
    have hdb' : world'.db = db := (exec_redis hexec).2.trans hdb
    have hkept' : db.Kept opts.requestId world'.db := .of_eq hdb' hone
    rcases answer with error | locked | locked
    · exact .of_error hkept' error
    · exact sat_settleReject_once hkept' _ _ _
    · refine sat_settleHolding_once hdb' ?_ hnone verification paymentRequest networkRecord
      exact haccount' ▸ ⟨haccount, fun heq => by cases heq⟩
  · exact sat_settleExisting_once hdb haccount hsingle
  · exact .of_error (.of_eq hdb hone) error

theorem sat_runSettle_once (hdb : phase.1.db = db) (haccount : phase.2)
    (hone : (db.settlementsOf opts.requestId).length ≤ 1) :
    (runSettle imports opts).Sat (clocked faults who) phase fun phase' outcome =>
      SettlesOnce opts db phase' outcome ∧ ∀ first, outcome = .ok (.confirmed first) →
        db.acceptedVerifications opts.verificationId opts.requestId ≠ [] := by
  have hkept : db.Kept opts.requestId phase.1.db := .of_eq hdb hone
  rw [runSettle, findAcceptedVerification, Program.sat_bind']
  apply sat_clocked_op
  intro answer world' outcome hexec
  obtain ⟨rfl, hfound⟩ := findFirst_cases hexec
  rw [sameClock_iff (fun heq => by cases heq)]
  rcases hfound with ⟨rfl, -⟩ | ⟨⟨verification, paymentRequest, networkRecord⟩, hmem, rfl⟩ |
    ⟨error, rfl⟩
  · rw [Program.thenSat_ok]
    apply (sat_settleReject _ _ _ _).mono
    rintro phase' outcome ⟨hsame, hfailed⟩
    exact ⟨⟨hsame ▸ hkept, fun first heq => absurd heq (hfailed first)⟩,
      fun first heq => absurd heq (hfailed first)⟩
  · have haccepted : db.acceptedVerifications opts.verificationId opts.requestId ≠ [] := by
      rw [← hdb]
      exact List.ne_nil_of_mem hmem
    rw [Program.thenSat_ok]
    apply (sat_settleAccepted_once hdb haccount hone verification paymentRequest networkRecord).mono
    exact fun phase' outcome hphase' => ⟨hphase', fun _ _ => haccepted⟩
  · exact ⟨.of_error hkept error, fun first heq => by cases heq⟩

end Call

/-! ### Later calls -/

section Later

variable {ι : Type} {faults : Faults} {imports : Imports} {opts : SettleOpts}

/-- No operation fails. -/
def answered : Fair (machine ι faults) := fun _ _ outcome =>
  ∀ error, outcome ≠ .fate (.failed error)

/-- The one settlement of the request is confirmed, and this is replied for it. -/
structure Standing (opts : SettleOpts) (reply : SettleConfirmed) (world : World ι) : Prop where
  row : ∃ row, world.db.settlementsOf opts.requestId = [row] ∧ row.settlementStatus = .confirmed ∧
    replayedResult opts.requestId row (world.db.receiptOf opts.requestId) = reply
  accepted : world.db.acceptedVerifications opts.verificationId opts.requestId ≠ []

variable {who : ι} {reply : SettleConfirmed} {world : World ι}

theorem findFirst_answered {W α : Type} {world after : W} {rows : List α} {outcome : Outcome}
    {answer : Except Err (Option α)} (hanswered : ∀ error, outcome ≠ .fate (.failed error))
    (hrows : rows ≠ []) (h : findFirst world rows outcome = some (answer, after)) :
    after = world ∧ ∃ row ∈ rows, answer = .ok (some row) := by
  obtain ⟨hworld, ⟨-, hnone⟩ | hfound | ⟨error, rfl⟩⟩ := findFirst_cases h
  · exact absurd hnone hrows
  · exact ⟨hworld, hfound⟩
  · refine absurd ?_ (hanswered error)
    simp only [findFirst] at h
    split at h
    · split at h
      · cases h
      · obtain ⟨row, -, heq⟩ := Option.map_eq_some_iff.mp h
        cases heq
    · cases h
      rfl
    · cases h

/-- A later call looks twice, and replies for the row. -/
theorem sat_runSettle_standing (h : Standing opts reply world) :
    (runSettle imports opts).Sat (solo (machine ι faults) answered who) world
      fun world' result => result = .ok (.confirmed reply) ∧ world' = world := by
  obtain ⟨row, hrow, hstatus, hreply⟩ := h.row
  rw [runSettle, findAcceptedVerification, Program.sat_bind', sat_op]
  refine ⟨trivial, ?_⟩
  rintro answer world' ⟨outcome, hanswered, hexec⟩
  obtain ⟨rfl, ⟨verification, paymentRequest, networkRecord⟩, -, rfl⟩ :=
    findFirst_answered hanswered h.accepted hexec
  rw [Program.thenSat_ok]
  change (settleAccepted imports opts verification paymentRequest networkRecord).Sat _ _ _
  rw [settleAccepted, findSettlement, Program.sat_bind', sat_op]
  refine ⟨trivial, ?_⟩
  rintro answer world'' ⟨outcome, hanswered', hexec'⟩
  obtain ⟨rfl, found, hfound, rfl⟩ := findFirst_answered hanswered' (by rw [hrow]; simp) hexec'
  rw [hrow, List.map_singleton, List.mem_singleton] at hfound
  subst hfound
  rw [Program.thenSat_ok]
  change (settleExisting opts.requestId row _).Sat _ _ _
  rw [settleExisting_confirmed _ hstatus, hreply]
  exact ⟨rfl, rfl⟩

/-- A later call can be made. -/
theorem exists_alone_standing (h : Standing opts reply world) : ∃ decisions,
    Alone (machine ι faults) answered who (runSettle imports opts) world decisions
      (.ok (.confirmed reply)) world := by
  obtain ⟨row, hrow, hstatus, hreply⟩ := h.row
  obtain ⟨found, rest, haccepted⟩ := List.exists_cons_of_ne_nil h.accepted
  obtain ⟨verification, paymentRequest, networkRecord⟩ := found
  have hverification : findFirst world (world.db.acceptedVerifications opts.verificationId
      opts.requestId) (.pick 0)
      = some (.ok (some (verification, paymentRequest, networkRecord)), world) := by
    rw [haccepted]
    rfl
  have hsettlement : findFirst world ((world.db.settlementsOf opts.requestId).map fun row =>
      (row, world.db.receiptOf opts.requestId)) (.pick 0)
      = some (.ok (some (row, world.db.receiptOf opts.requestId)), world) := by
    rw [hrow]
    rfl
  have hpick : ∀ op, @answered ι faults world op (.pick 0) := fun op error heq => by cases heq
  have hlast : Alone (machine ι faults) answered who
      (settleExisting opts.requestId row (world.db.receiptOf opts.requestId)) world []
      (.ok (.confirmed reply)) world := by
    rw [settleExisting_confirmed _ hstatus, hreply]
    exact .ret
  exact ⟨constantly [.pick 0, .pick 0],
    .perform (hpick _) hverification (.perform (hpick _) hsettlement hlast)⟩

/-- On their own the surroundings change nothing that is replied. -/
theorem Standing.env (h : Standing opts reply world) {after : World ι} {event : EnvEvent}
    (hevent : (machine ι faults).env world event = some after) : Standing opts reply after := by
  obtain ⟨clock, hdb⟩ := machine_env_db hevent
  obtain ⟨row, hrow, hstatus, hreply⟩ := h.row
  have hrow' : after.db.settlementsOf opts.requestId = [row] := by
    rw [hdb]
    exact hrow
  have hreply' : replayedResult opts.requestId row (after.db.receiptOf opts.requestId) = reply := by
    rw [hdb]
    exact hreply
  have haccepted : after.db.acceptedVerifications opts.verificationId opts.requestId ≠ [] := by
    rw [hdb]
    exact h.accepted
  exact ⟨⟨row, hrow', hstatus, hreply'⟩, haccepted⟩

/-- Every later call replies for the row. -/
theorem replies_of_repeated {results : List (Except Err SettleResponse)} {last : World ι}
    (hrun : Repeated (M := machine ι faults) answered (runSettle imports opts) world results last)
    (h : Standing opts reply world) : ∀ result ∈ results, result = .ok (.confirmed reply) := by
  have hcall : ∀ {who : ι} {world after : World ι} {decisions : Decisions (machine ι faults)}
      {result : Except Err SettleResponse}, Standing opts reply world →
      Alone (machine ι faults) answered who (runSettle imports opts) world decisions result after →
        result = .ok (.confirmed reply) ∧ Standing opts reply after := by
    intro who world after decisions result hworld hcall
    obtain ⟨hresult, rfl⟩ := hcall.of_sat (sat_runSettle_standing hworld)
    exact ⟨hresult, hworld⟩
  exact (hrun.keeps hcall (fun hworld hevent => hworld.env hevent) h).1

/-- Earlier calls leave one settlement of the request at most. -/
theorem one_of_repeated {results : List (Except Err SettleResponse)} {last : World ι}
    (hrun : Repeated (M := machine ι faults) anyAnswer (runSettle imports opts) world results last)
    (hone : (world.db.settlementsOf opts.requestId).length ≤ 1) :
    (last.db.settlementsOf opts.requestId).length ≤ 1 := by
  have hcall : ∀ {who : ι} {world after : World ι} {decisions : Decisions (machine ι faults)}
      {result : Except Err SettleResponse}, (world.db.settlementsOf opts.requestId).length ≤ 1 →
      Alone (machine ι faults) anyAnswer who (runSettle imports opts) world decisions result after →
        True ∧ (after.db.settlementsOf opts.requestId).length ≤ 1 := by
    intro who world after decisions result hworld hcall
    obtain ⟨account, ⟨⟨hkept, -⟩, -⟩, -⟩ := hcall.of_tracked
      (@sat_runSettle_once ι faults who imports opts world.db (world, True) rfl trivial hworld)
    exact ⟨trivial, hkept.one⟩
  have henv : ∀ {world after : World ι} {event : EnvEvent},
      (world.db.settlementsOf opts.requestId).length ≤ 1 →
      (machine ι faults).env world event = some after →
        (after.db.settlementsOf opts.requestId).length ≤ 1 := by
    intro world after event hworld hevent
    obtain ⟨clock, hdb⟩ := machine_env_db hevent
    rw [hdb]
    exact hworld
  exact (hrun.keeps hcall henv hone).2

/-- The readings of the clock that the surroundings decide on in a call print like the clock of the
database. -/
def ReadsDatabaseClock (imports : Imports) (opts : SettleOpts) (who : ι) (world : World ι)
    (decisions : Decisions (machine ι faults)) : Prop :=
  ∃ result after, Alone (machine ι faults) sameClock who (runSettle imports opts) world decisions
    result after

/-- Later calls, none of whose operations fail, return the confirmed reply of an earlier one exactly if
the clocks of that one agreed. A call that finds the row confirmed reads no clock. -/
theorem replies_idempotent_iff {start world after : World ι}
    {earlier : List (Except Err SettleResponse)} {decisions : Decisions (machine ι faults)}
    {first : SettleConfirmed} (hstart : (start.db.settlementsOf opts.requestId).length ≤ 1)
    (hearlier : Repeated (M := machine ι faults) anyAnswer (runSettle imports opts) start earlier world)
    (hfirst : Alone (machine ι faults) anyAnswer who (runSettle imports opts) world decisions
      (.ok (.confirmed first)) after) :
    (∀ later last, Repeated (M := machine ι faults) answered (runSettle imports opts) after later last →
      ∀ result ∈ later, result = .ok (.confirmed first)) ↔
    ReadsDatabaseClock imports opts who world decisions := by
  have hone := one_of_repeated hearlier hstart
  obtain ⟨account, ⟨⟨hkept, hreplies⟩, haccepted⟩, haccount⟩ :=
    hfirst.of_tracked
      (@sat_runSettle_once ι faults who imports opts world.db (world, True) rfl trivial hone)
  obtain ⟨row, hrow, hstatus, heq⟩ := hreplies first rfl
  have hstanding : Standing opts (replayedResult opts.requestId row
      (after.db.receiptOf opts.requestId)) after := by
    refine ⟨⟨row, hrow, hstatus, rfl⟩, ?_⟩
    rw [hkept.acceptedVerifications_eq]
    exact haccepted first rfl
  have hclock : account ↔ ReadsDatabaseClock imports opts who world decisions := by
    rw [haccount, true_and]
    constructor
    · exact fun hstrict => ⟨_, _, hstrict⟩
    · rintro ⟨result, last, hstrict⟩
      obtain ⟨rfl, rfl⟩ := hfirst.unique (hstrict.mono fun _ _ _ _ => trivial)
      exact hstrict
  rw [← hclock]
  refine Iff.trans ?_ heq
  constructor
  · intro hlater
    obtain ⟨decisions', hcall⟩ := @exists_alone_standing ι faults imports opts who _ _ hstanding
    have hsame := hlater _ _ (.call hcall .nil) _ List.mem_cons_self
    exact (SettleResponse.confirmed.inj (Except.ok.inj hsame)).symm
  · intro hsame later last hrun
    rw [hsame]
    exact replies_of_repeated hrun hstanding

end Later

/-! ### A settlement, and a call after it -/

def settleOnce : SettleOpts :=
  { requestId := "req-0", verificationId := "ver-0", referralCode := none }

/-- A settlement that is mined at once, and confirmed at this time. -/
def settleDecisions (ms : Nat) : Decisions (machine Unit ⟨false, false⟩) :=
  constantly [.pick 0, .pick 0, .fate .done, .text "set-0", .fate .done, .fate .done, .text "0x01",
    .mined ⟨.success, 100, 60000⟩, .fate .done, .time ms, .text "rec-0", .fate .done, .fate .done]

/-- A reply for it. -/
def sampleReply (confirmedAt settledAt : String) : SettleConfirmed where
  requestId := "req-0"
  settlementId := "set-0"
  txHash := some "0x01"
  feeAmount := some "5"
  developerShare := some "0"
  receiptId := some "rec-0"
  confirmedAt := some confirmedAt
  settledAt := settledAt

def sameClockTest (world : World Unit) : Op → Outcome → Bool
  | .now, .time ms => isoText ms = isoText world.db.clock
  | _, _ => true

theorem sameClock_of_test (world : World Unit) (op : Op) (outcome : Outcome)
    (h : sameClockTest world op outcome = true) :
    @sameClock Unit ⟨false, false⟩ world op outcome := by
  intro hop ms hreading
  subst hop hreading
  have hclock : decide (isoText ms = isoText world.db.clock) = true := h
  exact of_decide_eq_true hclock

theorem replies_idempotent_same_clock :
    ∃ after : World Unit, ∀ later last,
      Repeated (M := machine Unit ⟨false, false⟩) answered (runSettle sampleImports settleOnce) after
        later last →
      ∀ result ∈ later, result = .ok (.confirmed
        (sampleReply "2023-11-14T22:13:20.000Z" "2023-11-14T22:13:20.000Z")) := by
  obtain ⟨⟨result, after⟩, hrun, hresult⟩ := Option.map_eq_some_iff.mp
    (show (runAlone sameClockTest () (runSettle sampleImports settleOnce) (verifiedWorld Unit)
      (settleDecisions 1700000000000)).map Prod.fst = some (.ok (.confirmed
        (sampleReply "2023-11-14T22:13:20.000Z" "2023-11-14T22:13:20.000Z"))) by decide +kernel)
  obtain rfl := hresult
  have hclock := alone_of_runAlone sameClock_of_test hrun
  have hnone : ((verifiedWorld Unit).db.settlementsOf settleOnce.requestId).length ≤ 1 :=
    Nat.zero_le 1
  exact ⟨after, (replies_idempotent_iff hnone .nil
    (hclock.mono fun _ _ _ _ => trivial)).mpr ⟨_, _, hclock⟩⟩

/-- The service confirms five seconds after the database has created the row. -/
theorem replies_differ :
    ∃ after last : World Unit,
      Alone (machine Unit ⟨false, false⟩) anyAnswer () (runSettle sampleImports settleOnce)
        (verifiedWorld Unit) (settleDecisions 1700000005000) (.ok (.confirmed
          (sampleReply "2023-11-14T22:13:25.000Z" "2023-11-14T22:13:25.000Z"))) after ∧
      Alone (machine Unit ⟨false, false⟩) answered () (runSettle sampleImports settleOnce) after
        (constantly [.pick 0, .pick 0]) (.ok (.confirmed
          (sampleReply "2023-11-14T22:13:25.000Z" "2023-11-14T22:13:20.000Z"))) last ∧
      sampleReply "2023-11-14T22:13:25.000Z" "2023-11-14T22:13:20.000Z"
        ≠ sampleReply "2023-11-14T22:13:25.000Z" "2023-11-14T22:13:25.000Z" := by
  obtain ⟨⟨first, after⟩, hfirst, hlater⟩ := Option.bind_eq_some_iff.mp
    (show ((runAlone (fun _ _ _ => true) () (runSettle sampleImports settleOnce) (verifiedWorld Unit)
      (settleDecisions 1700000005000)).bind fun served =>
        (runAlone (M := machine Unit ⟨false, false⟩) (fun _ _ outcome => decide (outcome = .pick 0)) ()
          (runSettle sampleImports settleOnce) served.2 (constantly [.pick 0, .pick 0])).map fun again =>
            (served.1, again.1))
        = some (.ok (.confirmed
          (sampleReply "2023-11-14T22:13:25.000Z" "2023-11-14T22:13:25.000Z")), .ok (.confirmed
          (sampleReply "2023-11-14T22:13:25.000Z" "2023-11-14T22:13:20.000Z"))) by decide +kernel)
  obtain ⟨⟨second, last⟩, hsecond, heq⟩ := Option.map_eq_some_iff.mp hlater
  obtain ⟨rfl, rfl⟩ := Prod.mk.inj heq
  refine ⟨after, last, alone_of_runAlone (fun _ _ _ _ => trivial) hfirst,
    alone_of_runAlone ?_ hsecond, by decide⟩
  intro world op outcome hpick error hfailed
  rw [of_decide_eq_true hpick] at hfailed
  cases hfailed

end Service

end FacilitatorX402
