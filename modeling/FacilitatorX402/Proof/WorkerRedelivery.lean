import FacilitatorX402.Library.Redelivery
import FacilitatorX402.Proof.TerminalStatus

/-!
# Redelivered jobs

The queue may hand a job of the worker to any number of attempts, each of which may be cut anywhere
and meet other answers than the one before. An attempt looks at the row first, so the database moves
at most once: when an attempt marks the row as failed, or confirms it together with its receipt. What
later attempts do leaves no trace in it.
-/

namespace FacilitatorX402

open Interact KeyedRows

namespace Service

/-- The status `findUnique` reads. -/
def Db.statusOf (db : Db) (id : String) : Option SettlementStatus :=
  (db.settlements.find? (·.id = id)).map (·.settlementStatus)

def Db.Decided (db : Db) (id : String) : Prop :=
  db.statusOf id = some .confirmed ∨ db.statusOf id = some .failed

/-- What an attempt of a job can do to a database in which its row is not decided. -/
inductive Decides (job : SettlementConfirmationJob) (db : Db) : Db → Prop
  | fail (hopen : ¬db.Decided job.settlementId)
      (hexists : db.settlements.any (·.id = job.settlementId) = true) :
      Decides job db (db.updateSettlement job.settlementId (·.fail))
  | confirm (fees : Fees) (confirmedAt : Nat) (receiptId : String)
      (hopen : ¬db.Decided job.settlementId)
      (hcan : db.canConfirmByWorker job.settlementId
        (ConfirmWorker.confirmation job fees confirmedAt)
        (ConfirmWorker.settlementReceipt job fees receiptId confirmedAt) = true) :
      Decides job db (db.confirmByWorker job.settlementId
        (ConfirmWorker.confirmation job fees confirmedAt)
        (ConfirmWorker.settlementReceipt job fees receiptId confirmedAt))

section Decides

variable {db db' db'' : Db} {job : SettlementConfirmationJob} {id : String}

theorem Db.statusOf_update {f : PaymentSettlement → PaymentSettlement}
    (hf : ∀ row, (f row).id = row.id) {status : SettlementStatus}
    (hstatus : ∀ row, (f row).settlementStatus = status)
    (hexists : db.settlements.any (·.id = id) = true) :
    (db.updateSettlement id f).statusOf id = some status := by
  obtain ⟨row, hrow⟩ := Option.isSome_iff_exists.mp
    ((List.find?_isSome (p := fun row : PaymentSettlement => decide (row.id = id))).mpr
      (List.any_eq_true.mp hexists))
  rw [Db.statusOf, Db.updateSettlement, find?_update hf, hrow, Option.map_some, Option.map_some,
    hstatus]

@[simp]
theorem Db.confirmByWorker_settlements (data : Confirmation) (receipt : PaymentReceipt) :
    (db.confirmByWorker id data receipt).settlements
      = (db.updateSettlement id (·.confirm data)).settlements := by
  unfold Db.confirmByWorker
  dsimp only
  split <;> rfl

theorem Decides.not_decided (h : Decides job db db') : ¬db.Decided job.settlementId := by
  cases h with
  | fail hopen hexists => exact hopen
  | confirm fees confirmedAt receiptId hopen hcan => exact hopen

theorem Decides.decided (h : Decides job db db') : db'.Decided job.settlementId := by
  cases h with
  | fail hopen hexists =>
      exact .inr (Db.statusOf_update (f := PaymentSettlement.fail) (fun _ => rfl) (fun _ => rfl) hexists)
  | confirm fees confirmedAt receiptId hopen hcan =>
      left
      have hexists := (Bool.and_eq_true_iff.mp (Bool.and_eq_true_iff.mp hcan).1).1
      rw [Db.statusOf, Db.confirmByWorker_settlements]
      exact Db.statusOf_update (f := fun row => row.confirm
        (ConfirmWorker.confirmation job fees confirmedAt)) (fun _ => rfl) (fun _ => rfl) hexists

theorem Decides.final (h : Decides job db db') : ¬Decides job db' db'' :=
  fun h' => h'.not_decided h.decided

end Decides

/-! ### One attempt -/

section Attempt

variable {ι : Type} {faults : Faults} {who : ι}

/-- Any operation may be answered in any way its machine knows. -/
def anyAnswer : Fair (machine ι faults) := fun _ _ _ => True

/-- The database is as the attempt found it, or decided by the attempt. -/
def UpToDecision (job : SettlementConfirmationJob) (db : Db) (world : World ι) : Prop :=
  world.db = db ∨ Decides job db world.db

variable {job : SettlementConfirmationJob} {db : Db} {world : World ι}

/-- The operations that cannot change the database. -/
def Op.Reads : Op → Prop
  | .redis _ => True
  | .chain _ => True
  | .now => True
  | .generateId => True
  | .findSeller _ => True
  | _ => False

theorem Op.Reads.db_eq {op : Op} (hop : op.Reads) {world' : World ι} (h : Effect world op world') :
    world'.db = world.db := by
  cases h <;> first | rfl | exact hop.elim

theorem sat_reads {α : Type} {program : ServiceProgram α} (h : program.Only Op.Reads)
    (hworld : UpToDecision job db world) :
    program.Sat (soloWithin (M := machine ι faults) anyAnswer who (UpToDecision job db)) world
      fun world' _ => world'.db = world.db ∧ UpToDecision job db world' := by
  apply Program.Only.keeps (R := fun world' : World ι =>
    world'.db = world.db ∧ UpToDecision job db world') h
  · exact fun world' op hop hkept => hkept.2
  · rintro middle op answer world' hop ⟨hdb, hkept⟩ ⟨outcome, -, hexec⟩
    have hsame : world'.db = middle.db := hop.db_eq (exec_effect hexec)
    refine ⟨hsame.trans hdb, ?_⟩
    rw [UpToDecision, hsame]
    exact hkept
  · exact ⟨rfl, hworld⟩

theorem sat_failSettlement (hdb : world.db = db) (hopen : ¬db.Decided job.settlementId) :
    (failSettlement job.settlementId).Sat
      (soloWithin (M := machine ι faults) anyAnswer who (UpToDecision job db)) world
      fun world' _ => UpToDecision job db world' := by
  subst hdb
  rw [failSettlement, sat_op]
  refine ⟨.inl rfl, ?_⟩
  rintro answer world' ⟨outcome, -, hexec⟩
  rcases statement_cases hexec with ⟨hexists, rfl, -⟩ | ⟨-, rfl⟩
  · exact .inr (.fail hopen hexists)
  · exact .inl rfl

theorem sat_confirmByWorker (fees : Fees) (confirmedAt : Nat) (receiptId : String)
    (hdb : world.db = db) (hopen : ¬db.Decided job.settlementId) :
    (ConfirmWorker.confirmByWorker job.settlementId
      (ConfirmWorker.confirmation job fees confirmedAt)
      (ConfirmWorker.settlementReceipt job fees receiptId confirmedAt)).Sat
      (soloWithin (M := machine ι faults) anyAnswer who (UpToDecision job db)) world
      fun world' _ => UpToDecision job db world' := by
  subst hdb
  rw [ConfirmWorker.confirmByWorker, sat_op]
  refine ⟨.inl rfl, ?_⟩
  rintro answer world' ⟨outcome, -, hexec⟩
  rcases statement_cases (statement_of_transaction hexec) with ⟨hcan, rfl, -⟩ | ⟨-, rfl⟩
  · exact .inr (.confirm fees confirmedAt receiptId hopen hcan)
  · exact .inl rfl

theorem sat_persistReceipt (computeFees : Int → Fees) (status : ReceiptStatus) (hdb : world.db = db)
    (hopen : ¬db.Decided job.settlementId) :
    (ConfirmWorker.persistReceipt computeFees job status).Sat
      (soloWithin (M := machine ι faults) anyAnswer who (UpToDecision job db)) world
      fun world' _ => UpToDecision job db world' := by
  cases status with
  | reverted =>
      rw [ConfirmWorker.persistReceipt, Program.sat_bind']
      apply (sat_failSettlement hdb hopen).mono
      rintro world' (error | done) hworld' <;> exact hworld'
  | success =>
      rw [ConfirmWorker.persistReceipt, Program.sat_bind', Program.sat_ofExcept]
      cases grossAmount job.grossAmount with
      | error error => exact .inl hdb
      | ok value =>
          rw [Program.thenSat_ok, Program.sat_bind']
          apply (sat_reads (@only_op Op.Reads .now trivial) (.inl hdb)).mono
          rintro world' (error | confirmedAt) ⟨hsame, hworld'⟩
          · exact hworld'
          rw [Program.thenSat_ok, Program.sat_bind']
          apply (sat_reads (@only_op Op.Reads .generateId trivial) hworld').mono
          rintro world'' (error | receiptId) ⟨hsame', hworld''⟩
          · exact hworld''
          have hdb'' : world''.db = db := by
            calc world''.db = world'.db := hsame'
              _ = world.db := hsame
              _ = db := hdb
          rw [Program.thenSat_ok, Program.sat_bind']
          apply (sat_confirmByWorker (computeFees value) confirmedAt receiptId hdb'' hopen).mono
          rintro last (error | done) hlast
          · exact hlast
          exact (sat_reads (only_redisDel trivial).ignoreErrors hlast).mono fun _ _ h => h.2

theorem sat_confirmOnChain (computeFees : Int → Fees) (hdb : world.db = db)
    (hopen : ¬db.Decided job.settlementId) :
    (ConfirmWorker.confirmOnChain computeFees job).Sat
      (soloWithin (M := machine ι faults) anyAnswer who (UpToDecision job db)) world
      fun world' _ => UpToDecision job db world' := by
  rw [ConfirmWorker.confirmOnChain, Program.sat_bind']
  apply (sat_reads (only_pollReceipt (fun _ => trivial) job.txHash job.rpcUrls) (.inl hdb)).mono
  rintro world' (error | _ | receipt) ⟨hsame, hworld'⟩
  · exact hworld'
  · exact hworld'
  · exact sat_persistReceipt computeFees receipt.status (hsame.trans hdb) hopen

/-- Wherever an attempt is cut, it has left the database alone or decided the row. -/
theorem cut_confirmSettlement {computeFees : Int → Fees} {last : World ι}
    (h : Cut (M := machine ι faults) anyAnswer who (ConfirmWorker.confirmSettlement computeFees job)
      world last) : last.db = world.db ∨ Decides job world.db last.db := by
  suffices hsat : (ConfirmWorker.confirmSettlement computeFees job).Sat
      (soloWithin (M := machine ι faults) anyAnswer who (UpToDecision job world.db)) world
      fun world' _ => UpToDecision job world.db world' from h.of_sat hsat
  rw [ConfirmWorker.confirmSettlement, ConfirmWorker.findSettlementStatus, Program.sat_bind', sat_op]
  refine ⟨.inl rfl, ?_⟩
  rintro answer after ⟨outcome, -, hexec⟩
  obtain ⟨rfl, hread | ⟨error, rfl⟩⟩ := query_cases hexec
  · have hread : answer = .ok (after.db.statusOf job.settlementId) := hread
    rw [hread, Program.thenSat_ok]
    have hrest := fun hopen => @sat_confirmOnChain ι faults who job _ after computeFees rfl hopen
    cases hstatus : after.db.statusOf job.settlementId with
    | none => exact hrest (by simp [Db.Decided, hstatus])
    | some status =>
        cases status with
        | confirmed => exact .inl rfl
        | failed => exact .inl rfl
        | pending => exact hrest (by simp [Db.Decided, hstatus])
        | processing => exact hrest (by simp [Db.Decided, hstatus])
  · exact .inl rfl

end Attempt

/-! ### Any number of attempts -/

/-- The job of a row that is under way, whose request has no receipt. -/
structure Awaited (job : SettlementConfirmationJob) (row : PaymentSettlement) (db : Db) : Prop where
  keyed : Unique (·.id) db.settlements
  stored : row ∈ db.settlements
  settlementId : row.id = job.settlementId
  requestId : row.requestId = job.requestId
  status : row.settlementStatus = .pending ∨ row.settlementStatus = .processing
  receipt : db.receiptOf row.requestId = none

/-- The receipt says what the row says. -/
structure PaymentReceipt.Shows (receipt : PaymentReceipt) (row : PaymentSettlement) : Prop where
  txHash : row.txHash = some receipt.responsePayload.txHash
  feeAmount : row.feeAmount = some receipt.responsePayload.feeAmount
  developerShare : row.developerShare = some receipt.responsePayload.developerShare
  confirmedAt : row.confirmedAt.map (fun ms : Nat => isoText ms) =
    some receipt.responsePayload.confirmedAt

/-- The request has one receipt at most, and one that shows the row once the row is confirmed. -/
structure Booked (job : SettlementConfirmationJob) (db : Db) : Prop where
  atMostOne : (db.receipts.filter (·.requestId = job.requestId)).length ≤ 1
  confirmed : ∀ row ∈ db.settlements, row.id = job.settlementId →
    row.settlementStatus = .confirmed →
      ∃ receipt, db.receipts.filter (·.requestId = row.requestId) = [receipt] ∧ receipt.Shows row

section Series

variable {job : SettlementConfirmationJob} {row : PaymentSettlement} {db db' : Db}

theorem Awaited.not_decided (h : Awaited job row db) : ¬db.Decided job.settlementId := by
  have hfound : db.statusOf job.settlementId = some row.settlementStatus := by
    have hsome : (db.settlements.find? (·.id = job.settlementId)).isSome :=
      List.find?_isSome.mpr ⟨row, h.stored, decide_eq_true h.settlementId⟩
    obtain ⟨found, hfind⟩ := Option.isSome_iff_exists.mp hsome
    have hid : found.id = job.settlementId := of_decide_eq_true
      (List.find?_some (p := fun other : PaymentSettlement => decide (other.id = _)) hfind)
    obtain rfl := h.keyed.eq (List.mem_of_find?_eq_some hfind) h.stored
      (hid.trans h.settlementId.symm)
    rw [Db.statusOf, hfind, Option.map_some]
  rw [Db.Decided, hfound]
  rcases h.status with hpending | hprocessing
  · simp [hpending]
  · simp [hprocessing]

theorem Awaited.no_receipt (h : Awaited job row db) :
    db.receipts.filter (·.requestId = job.requestId) = [] := by
  rw [List.filter_eq_nil_iff]
  exact List.find?_eq_none.mp (h.requestId ▸ h.receipt)

theorem Awaited.booked (h : Awaited job row db) : Booked job db where
  atMostOne := by
    rw [h.no_receipt]
    exact Nat.zero_le 1
  confirmed := by
    intro other hother hid hconfirmed
    obtain rfl := h.keyed.eq hother h.stored (hid.trans h.settlementId.symm)
    rcases h.status with hpending | hprocessing
    · rw [hpending] at hconfirmed
      cases hconfirmed
    · rw [hprocessing] at hconfirmed
      cases hconfirmed

/-- The one row of the id, after an update. -/
theorem Awaited.updated (h : Awaited job row db) {f : PaymentSettlement → PaymentSettlement}
    {other : PaymentSettlement} (hother : other ∈ (db.updateSettlement job.settlementId f).settlements)
    (hid : other.id = job.settlementId) : other = f row := by
  rcases mem_update.mp hother with ⟨-, hne⟩ | ⟨old, hold, holdId, rfl⟩
  · exact absurd hid hne
  · rw [h.keyed.eq hold h.stored (holdId.trans h.settlementId.symm)]

/-- The worker adds the one receipt of the request. -/
theorem Awaited.filter_receipts (h : Awaited job row db) (data : Confirmation)
    {receipt : PaymentReceipt} (hreceipt : receipt.requestId = job.requestId) :
    (db.confirmByWorker job.settlementId data receipt).receipts.filter
      (·.requestId = job.requestId) = [db.fillReceipt receipt] := by
  have hnone : db.receiptOf receipt.requestId = none := by
    rw [hreceipt, ← h.requestId]
    exact h.receipt
  have hadded : (db.confirmByWorker job.settlementId data receipt).receipts
      = db.receipts ++ [db.fillReceipt receipt] := by
    unfold Db.confirmByWorker
    dsimp only
    rw [hnone, if_neg (by simp)]
  have hfilled : (db.fillReceipt receipt).requestId = job.requestId := hreceipt
  rw [hadded, List.filter_append, h.no_receipt, List.nil_append]
  exact List.filter_cons_of_pos (decide_eq_true hfilled)

/-- What the worker writes to the row and to the receipt is the same. -/
theorem shows_settlementReceipt (fees : Fees) (confirmedAt : Nat) (receiptId : String) :
    (db.fillReceipt (ConfirmWorker.settlementReceipt job fees receiptId confirmedAt)).Shows
      (row.confirm (ConfirmWorker.confirmation job fees confirmedAt)) := by
  constructor <;> simp only [Db.fillReceipt, ConfirmWorker.settlementReceipt,
    PaymentSettlement.confirm, ConfirmWorker.confirmation, Option.map_some]

theorem Awaited.booked_of_decides (h : Awaited job row db) (hdecides : Decides job db db') :
    Booked job db' := by
  cases hdecides with
  | fail hopen hexists =>
      refine ⟨h.booked.atMostOne, ?_⟩
      intro other hother hid hconfirmed
      rw [h.updated hother hid] at hconfirmed
      cases hconfirmed
  | confirm fees confirmedAt receiptId hopen hcan =>
      have hrequest : (ConfirmWorker.settlementReceipt job fees receiptId confirmedAt).requestId
          = job.requestId := rfl
      have hone := h.filter_receipts (ConfirmWorker.confirmation job fees confirmedAt) hrequest
      constructor
      · rw [hone]
        exact Nat.le_refl 1
      · intro other hother hid hconfirmed
        rw [Db.confirmByWorker_settlements] at hother
        obtain rfl := h.updated hother hid
        refine ⟨db.fillReceipt _, ?_, shows_settlementReceipt fees confirmedAt receiptId⟩
        rw [PaymentSettlement.confirm, h.requestId]
        exact hone

/-- However often a job is redelivered, the database is as the first attempt that decided the row left
it, and the receipt of the request shows the row. -/
theorem redelivery_idempotent {ι : Type} {faults : Faults} (computeFees : Int → Fees)
    {world : World ι} {worlds : List (World ι)} (h : Awaited job row world.db)
    (hrun : Retried (M := machine ι faults) anyAnswer
      (ConfirmWorker.confirmSettlement computeFees job) world worlds) :
    (¬world.db.Decided job.settlementId ∧
      ((∀ after ∈ worlds, after.db = world.db) ∨
        ∃ before first rest, worlds = before ++ first :: rest ∧
          (∀ after ∈ before, after.db = world.db) ∧ first.db.Decided job.settlementId ∧
          ∀ after ∈ rest, after.db = first.db)) ∧
    ∀ after ∈ worlds, Booked job after.db := by
  have hstep : ∀ {who : ι} {world after : World ι}, Cut (M := machine ι faults) anyAnswer who
      (ConfirmWorker.confirmSettlement computeFees job) world after →
        after.db = world.db ∨ Decides job world.db after.db := cut_confirmSettlement
  rcases hrun.moves_once hstep Decides.final with
    hkept | ⟨before, first, rest, rfl, hbefore, hdecides, hrest⟩
  · refine ⟨⟨h.not_decided, .inl hkept⟩, fun after hafter => ?_⟩
    rw [hkept after hafter]
    exact h.booked
  · refine ⟨⟨h.not_decided, .inr ⟨before, first, rest, rfl, hbefore, hdecides.decided, hrest⟩⟩, ?_⟩
    have hfirst : Booked job first.db := h.booked_of_decides hdecides
    intro after hafter
    rcases List.mem_append.mp hafter with hearly | hlate
    · rw [hbefore after hearly]
      exact h.booked
    · rcases List.mem_cons.mp hlate with rfl | hlate
      · exact hfirst
      · rw [hrest after hlate]
        exact hfirst

end Series

/-- The verified payment, and a settlement that is under way. -/
def processingWorld (ι : Type) : World ι :=
  { verifiedWorld ι with db := (verifiedWorld ι).db.createSettlement "set-0" "req-0" none }

theorem awaited_sampleJob (ι : Type) : Awaited sampleJob
    ((verifiedWorld ι).db.newSettlement "set-0" "req-0" none) (processingWorld ι).db where
  keyed := List.nodup_singleton _
  stored := List.mem_singleton_self _
  settlementId := rfl
  requestId := rfl
  status := .inr rfl
  receipt := rfl

/-- An endpoint that does not answer, a confirmation after which the attempt is cut, and a look. -/
theorem redelivery_idempotent_thrice :
    ∃ worlds : List (World Unit),
      worlds.map (fun after => after.db.statusOf "set-0")
        = [some .processing, some .confirmed, some .confirmed] ∧
      ∀ after ∈ worlds, Booked sampleJob after.db := by
  obtain ⟨worlds, hrun, hstatuses⟩ := Option.map_eq_some_iff.mp
    (show (retry (M := machine Unit ⟨false, true⟩)
      (ConfirmWorker.confirmSettlement sampleImports.computeFees sampleJob) (processingWorld Unit)
      [((), [.fate .done, .fate (.failed (.raised "timed out"))]),
        ((), [.fate .done, .mined ⟨.success, 100, 60000⟩, .time 1700000000000, .text "rec-1",
          .fate (.lost (.raised "connection lost"))]),
        ((), [.fate .done])]).map (fun worlds => worlds.map fun after => after.db.statusOf "set-0")
        = some [some .processing, some .confirmed, some .confirmed] by decide +kernel)
  have hretried : Retried anyAnswer _ _ worlds := retried_of_retry (fun _ _ _ => trivial) hrun
  exact ⟨worlds, hstatuses,
    (redelivery_idempotent sampleImports.computeFees (awaited_sampleJob Unit) hretried).2⟩

end Service

end FacilitatorX402
