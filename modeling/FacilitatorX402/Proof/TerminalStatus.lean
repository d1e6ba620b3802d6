import FacilitatorX402.Infrastructure.ConfirmSettlementWorker
import FacilitatorX402.Proof.ServiceStages

/-!
# Terminal statuses

Three kinds of calls write the status of a settlement: the settlement that created the row, an attempt
of the worker, and the handler of a failed attempt. None of them looks at the row in the statement that
writes it. What makes a status final is that nobody else has decided the row since the writer last saw
it; then a receipt names a settlement exactly if it is confirmed.
-/

namespace FacilitatorX402

open Interact KeyStore KeyedRows

namespace Service

/-- A call that may write the status of a settlement. -/
inductive StatusWriter where
  | settle (imports : Imports) (opts : SettleOpts)
  | attempt (computeFees : Int → Fees) (job : SettlementConfirmationJob)
  | onFailed (job : Option ConfirmWorker.Job)

def StatusWriter.program : StatusWriter → ServiceProgram (Option SettleResponse)
  | settle imports opts => do
      let response ← runSettle imports opts
      return some response
  | attempt computeFees job => do
      ConfirmWorker.confirmSettlement computeFees job
      return none
  | onFailed job => do
      ConfirmWorker.onFailed job
      return none

/-- The status a call last saw of each settlement. -/
abbrev Seen := String → Option SettlementStatus

/-- A row that the call has created is `processing`. -/
def Seen.look (seen : Seen) : (op : Op) → Except Err (interface.Ans op) → Seen
  | .createSettlement id _ _, .ok _ => Function.update seen id (some .processing)
  | .findSettlementStatus id, .ok (some status) => Function.update seen id (some status)
  | _, _ => seen

def Undecided (status : SettlementStatus) : Prop :=
  status ≠ .confirmed ∧ status ≠ .failed

/-- The call has not seen the settlement decided. -/
def Seen.Open (seen : Seen) (id : String) : Prop :=
  ∀ status, seen id = some status → Undecided status

/-- The operations that neither look at a status nor write one. -/
def Op.Aloof : Op → Prop
  | .createSettlement _ _ _ => False
  | .failSettlement _ => False
  | .confirmSettlement _ _ _ => False
  | .findSettlementStatus _ => False
  | .confirmByWorker _ _ _ => False
  | _ => True

/-- What a call that has seen one settlement does with it. -/
inductive Op.WritesOnly (id : String) : Op → Prop
  | aloof (op : Op) (h : op.Aloof) : WritesOnly id op
  | fail : WritesOnly id (.failSettlement id)
  | confirm (data : Confirmation) (receipt : PaymentReceipt)
      (h : receipt.responsePayload.settlementId = id) :
      WritesOnly id (.confirmSettlement id data receipt)
  | confirmByWorker (data : Confirmation) (receipt : PaymentReceipt)
      (h : receipt.responsePayload.settlementId = id) :
      WritesOnly id (.confirmByWorker id data receipt)

/-- A call creates a row, looks at one, or writes to one it has not seen decided. -/
inductive Seen.Allows (seen : Seen) : Op → Prop
  | create (id requestId : String) (referralCode : Option String) :
      Allows seen (.createSettlement id requestId referralCode)
  | look (id : String) : Allows seen (.findSettlementStatus id)
  | write (id : String) (op : Op) (hopen : seen.Open id) (h : op.WritesOnly id) : Allows seen op
  | aloof (op : Op) (h : op.Aloof) : Allows seen op

def statusRules : Protocol interface Err Seen where
  allowed := Seen.Allows
  trans seen op answer seen' := seen' = seen.look op answer

/-! ### The writers keep to it -/

section Sat

variable {seen : Seen} {id : String}

theorem Op.Aloof.look_eq {op : Op} (h : op.Aloof) (answer : Except Err (interface.Ans op)) :
    seen.look op answer = seen := by
  cases op <;> first | rfl | exact h.elim

theorem Op.WritesOnly.look_eq {op : Op} (h : op.WritesOnly id)
    (answer : Except Err (interface.Ans op)) : seen.look op answer = seen := by
  cases h with
  | aloof _ haloof => exact haloof.look_eq answer
  | _ => rfl

theorem sat_aloof {α : Type} {program : ServiceProgram α} (h : program.Only Op.Aloof) :
    program.Sat statusRules seen fun seen' _ => seen' = seen := by
  apply h.sat
  · exact fun op hop => .aloof op hop
  · rintro op answer seen' hop rfl
    exact hop.look_eq answer

theorem sat_writes {α : Type} {program : ServiceProgram α} (h : program.Only (Op.WritesOnly id))
    (hopen : seen.Open id) : program.Sat statusRules seen fun _ _ => True := by
  have hstays : program.Sat statusRules seen fun seen' _ => seen' = seen := by
    apply h.sat
    · exact fun op hop => .write id op hopen hop
    · rintro op answer seen' hop rfl
      exact hop.look_eq answer
  exact hstays.mono fun _ _ _ => trivial

/-- A look at an undecided row leaves it to be written. -/
theorem Seen.open_update {status : SettlementStatus} (h : Undecided status) :
    Seen.Open (Function.update seen id (some status)) id := by
  intro status' hseen
  rw [Function.update_self] at hseen
  obtain rfl := Option.some.inj hseen
  exact h

theorem only_settleBody (imports : Imports) (opts : SettleOpts) (verification : PaymentVerification)
    (paymentRequest : PaymentRequest) (networkRecord : Network) :
    (settleBody imports opts verification paymentRequest networkRecord id).Only
      (Op.WritesOnly id) := by
  have hchain : ∀ op, Op.WritesOnly id (.chain op) := fun op => .aloof _ trivial
  unfold settleBody
  dsimp only
  split
  · trivial
  · apply (Program.only_ofExcept _).bind
    intro value
    apply (only_payee (fun _ => .aloof _ trivial) paymentRequest).bind
    intro recipient
    apply (Program.only_ofExcept _).bind
    intro args
    have hsubmit : (submit args).Only (Op.WritesOnly id) := by
      apply (Program.only_lift chainHom _).mono
      rintro _ ⟨op, rfl⟩
      exact hchain op
    apply hsubmit.bind
    intro onChainResult
    exact only_settleSubmitted (.aloof _ trivial) (.aloof _ trivial) .confirm (.aloof _ trivial)
      paymentRequest _ value onChainResult

/-- From the creation of its row on, a settlement writes to that row only. -/
theorem sat_settleHolding_status (imports : Imports) (opts : SettleOpts)
    (verification : PaymentVerification) (paymentRequest : PaymentRequest)
    (networkRecord : Network) :
    (settleHolding imports opts verification paymentRequest networkRecord).Sat statusRules seen
      fun _ _ => True := by
  rw [settleHolding, ulid, Program.sat_bind', sat_op]
  refine ⟨.aloof _ trivial, ?_⟩
  rintro (error | settlementId) seen' rfl
  · trivial
  rw [Program.thenSat_ok, createSettlement, Program.sat_bind', sat_op]
  refine ⟨.create settlementId _ _, ?_⟩
  rintro (error | created) seen' rfl
  · trivial
  have hbody := @only_settleBody settlementId imports opts verification paymentRequest networkRecord
  have hrest : ((settleBody imports opts verification paymentRequest networkRecord
      settlementId).tryCatch (settleFailure opts settlementId)).Only (Op.WritesOnly settlementId) :=
    hbody.tryCatch fun error =>
      only_settleFailure (.aloof _ trivial) .fail (.aloof _ trivial) error
  exact sat_writes hrest (Seen.open_update ⟨(fun heq => by cases heq), fun heq => by cases heq⟩)

theorem sat_runSettle_status (imports : Imports) (opts : SettleOpts) :
    (runSettle imports opts).Sat statusRules seen fun _ _ => True := by
  have hreject : ∀ {seen : Seen} (requestId code message : String) (httpStatus : Nat),
      (settleReject requestId code message httpStatus).Sat statusRules seen fun _ _ => True := by
    intro seen requestId code message httpStatus
    exact (sat_aloof (only_settleReject trivial _ _ _ _)).mono fun _ _ _ => trivial
  rw [runSettle, findAcceptedVerification, Program.sat_bind', sat_op]
  refine ⟨.aloof _ trivial, ?_⟩
  rintro (error | _ | ⟨verification, paymentRequest, networkRecord⟩) seen' rfl
  · trivial
  · exact hreject _ _ _ _
  change (settleAccepted imports opts verification paymentRequest networkRecord).Sat _ _ _
  rw [settleAccepted, findSettlement, Program.sat_bind', sat_op]
  refine ⟨.aloof _ trivial, ?_⟩
  rintro (error | _ | ⟨existing, receipt⟩) seen' rfl
  · trivial
  · rw [Program.thenSat_ok, Program.sat_bind', sat_redisSetNx]
    refine ⟨.aloof _ trivial, ?_⟩
    rintro (error | _ | _) seen' rfl
    · trivial
    · exact hreject _ _ _ _
    · exact sat_settleHolding_status imports opts verification paymentRequest networkRecord
  · exact (sat_aloof (only_settleExisting trivial _ _ _)).mono fun _ _ _ => trivial

open ConfirmWorker

theorem only_pollReceipt {Q : Op → Prop} (hchain : ∀ op, Q (.chain op)) (txHash : String)
    (rpcUrls : List String) : (pollReceipt txHash rpcUrls).Only Q := by
  induction rpcUrls with
  | nil => trivial
  | cons rpcUrl rpcUrls ih =>
      have hwait : (waitForReceipt rpcUrl txHash).Only Q := by
        apply (Program.only_lift chainHom _).mono
        rintro _ ⟨op, rfl⟩
        exact hchain op
      have hfirst : ((waitForReceipt rpcUrl txHash).bind fun receipt =>
          (.ret (some receipt) : ServiceProgram (Option TxReceipt))).Only Q :=
        hwait.bind fun _ => trivial
      exact hfirst.tryCatch fun _ => ih

theorem only_confirmOnChain (computeFees : Int → Fees) (job : SettlementConfirmationJob) :
    (confirmOnChain computeFees job).Only (Op.WritesOnly job.settlementId) := by
  apply (only_pollReceipt (fun _ => .aloof _ trivial) job.txHash job.rpcUrls).bind
  rintro (_ | receipt)
  · trivial
  change (persistReceipt computeFees job receipt.status).Only _
  cases receipt.status with
  | reverted => exact (only_op .fail).bind fun _ => trivial
  | success =>
      apply (Program.only_ofExcept _).bind
      intro value
      apply (only_op (.aloof _ trivial)).bind
      intro confirmedAt
      apply (only_op (.aloof _ trivial)).bind
      intro receiptId
      apply (only_op (.confirmByWorker _ _ rfl)).bind
      intro confirmed
      exact (only_redisDel (.aloof _ trivial)).ignoreErrors

/-- An attempt goes on only for a row it has not seen decided. -/
theorem sat_confirmSettlement_status (computeFees : Int → Fees) (job : SettlementConfirmationJob)
    (hopen : seen.Open job.settlementId) :
    (ConfirmWorker.confirmSettlement computeFees job).Sat statusRules seen fun _ _ => True := by
  have hrest := only_confirmOnChain computeFees job
  rw [ConfirmWorker.confirmSettlement, findSettlementStatus, Program.sat_bind', sat_op]
  refine ⟨.look _, ?_⟩
  rintro (error | _ | status) seen' rfl
  · trivial
  · exact sat_writes hrest hopen
  · cases status with
    | pending => exact sat_writes hrest (Seen.open_update ⟨nofun, nofun⟩)
    | processing => exact sat_writes hrest (Seen.open_update ⟨nofun, nofun⟩)
    | confirmed => trivial
    | failed => trivial

theorem sat_onFailed_status (job : Option Job) (hopen : ∀ id, seen.Open id) :
    (onFailed job).Sat statusRules seen fun _ _ => True := by
  unfold onFailed
  split
  · trivial
  · rename_i job
    split
    · exact sat_writes (only_op .fail).ignoreErrors (hopen job.data.settlementId)
    · trivial

theorem StatusWriter.sat (writer : StatusWriter) :
    writer.program.Sat statusRules (fun _ => none) fun _ _ => True := by
  have hopen : ∀ id, Seen.Open (fun _ => none) id := by
    intro id status hseen
    cases hseen
  cases writer with
  | settle imports opts =>
      rw [program, Program.sat_bind']
      apply (sat_runSettle_status imports opts).mono
      rintro seen (error | response) - <;> trivial
  | attempt computeFees job =>
      rw [program, Program.sat_bind']
      apply (sat_confirmSettlement_status computeFees job (hopen _)).mono
      rintro seen (error | done) - <;> trivial
  | onFailed job =>
      rw [program, Program.sat_bind']
      apply (sat_onFailed_status job hopen).mono
      rintro seen (error | done) - <;> trivial

end Sat

/-! ### The rows and the receipts -/

/-- The rows are keyed, and receipts name exactly the confirmed ones. -/
structure Db.Ledger (db : Db) : Prop where
  ids : Unique (·.id) db.settlements
  named : ∀ receipt ∈ db.receipts, ∃ row ∈ db.settlements,
    row.id = receipt.responsePayload.settlementId ∧ row.settlementStatus = .confirmed
  receipted : ∀ row ∈ db.settlements, row.settlementStatus = .confirmed →
    ∃ receipt ∈ db.receipts, receipt.responsePayload.settlementId = row.id

namespace Db.Ledger

variable {db db' : Db} {id : String}

theorem iff (h : db.Ledger) {row : PaymentSettlement} (hrow : row ∈ db.settlements) :
    (∃ receipt ∈ db.receipts, receipt.responsePayload.settlementId = row.id) ↔
      row.settlementStatus = .confirmed := by
  constructor
  · rintro ⟨receipt, hreceipt, hnames⟩
    obtain ⟨row', hrow', hid, hstatus⟩ := h.named receipt hreceipt
    obtain rfl := h.ids.eq hrow hrow' (hnames.symm.trans hid.symm)
    exact hstatus
  · exact h.receipted row hrow

theorem of_eq (h : db.Ledger) (hrows : db'.settlements = db.settlements)
    (hreceipts : db'.receipts = db.receipts) : db'.Ledger := by
  constructor
  · exact hrows ▸ h.ids
  · rw [hrows, hreceipts]
    exact h.named
  · rw [hrows, hreceipts]
    exact h.receipted

theorem create (h : db.Ledger) {requestId : String} {referralCode : Option String}
    (hcan : db.canSettle id requestId = true) :
    (db.createSettlement id requestId referralCode).Ledger := by
  simp only [Db.canSettle, Bool.and_eq_true, List.all_eq_true, decide_eq_true_eq] at hcan
  constructor
  · exact h.ids.append fun other hother => (hcan.2 other hother).1
  · intro receipt hreceipt
    obtain ⟨row, hrow, hnamed⟩ := h.named receipt hreceipt
    exact ⟨row, List.mem_append_left _ hrow, hnamed⟩
  · intro row hrow hstatus
    rcases List.mem_append.mp hrow with hold | hnew
    · exact h.receipted row hold hstatus
    · rw [List.mem_singleton.mp hnew] at hstatus
      cases hstatus

theorem fail (h : db.Ledger) (hopen : ∀ row ∈ db.settlements, row.id = id →
    row.settlementStatus ≠ .confirmed) : (db.updateSettlement id (·.fail)).Ledger := by
  constructor
  · exact h.ids.update (f := PaymentSettlement.fail) (fun _ => rfl) id
  · intro receipt hreceipt
    obtain ⟨row, hrow, hid, hstatus⟩ := h.named receipt hreceipt
    exact ⟨row, mem_update_of_ne hrow fun heq => hopen row hrow heq hstatus, hid, hstatus⟩
  · intro row hrow hstatus
    rcases mem_update.mp hrow with ⟨hold, -⟩ | ⟨old, -, -, rfl⟩
    · exact h.receipted row hold hstatus
    · cases hstatus

/-- A row is confirmed, and all that is added are receipts that name it, if none did before. -/
theorem confirm (h : db.Ledger) {data : Confirmation} (hexists : ∃ row ∈ db.settlements, row.id = id)
    (hrows : db'.settlements = update (·.id) id (·.confirm data) db.settlements)
    (hkept : db.receipts ⊆ db'.receipts)
    (hadded : ∀ receipt ∈ db'.receipts, receipt ∈ db.receipts ∨
      receipt.responsePayload.settlementId = id)
    (hnamed : ∃ receipt ∈ db'.receipts, receipt.responsePayload.settlementId = id) :
    db'.Ledger := by
  constructor
  · rw [hrows]
    exact h.ids.update (f := fun row => row.confirm data) (fun _ => rfl) id
  · intro receipt hreceipt
    rw [hrows]
    by_cases hid : receipt.responsePayload.settlementId = id
    · obtain ⟨row, hrow, hrowId⟩ := hexists
      exact ⟨row.confirm data, mem_update_of_eq hrow hrowId, hrowId.trans hid.symm, rfl⟩
    · rcases hadded receipt hreceipt with hold | hnew
      · obtain ⟨row, hrow, hrowId, hstatus⟩ := h.named receipt hold
        exact ⟨row, mem_update_of_ne hrow fun heq => hid (hrowId.symm.trans heq), hrowId, hstatus⟩
      · exact absurd hnew hid
  · intro row hrow hstatus
    rw [hrows] at hrow
    rcases mem_update.mp hrow with ⟨hold, -⟩ | ⟨old, -, holdId, rfl⟩
    · obtain ⟨receipt, hreceipt, hnames⟩ := h.receipted row hold hstatus
      exact ⟨receipt, hkept hreceipt, hnames⟩
    · obtain ⟨receipt, hreceipt, hnames⟩ := hnamed
      exact ⟨receipt, hreceipt, hnames.trans holdId.symm⟩

end Db.Ledger

theorem evolves_fail {rows : List PaymentSettlement} {id : String}
    (h : ∀ row ∈ rows, row.id = id → row.settlementStatus ≠ .confirmed) :
    Evolves (·.id) Stays rows (update (·.id) id (·.fail) rows) := by
  apply Evolves.update (f := PaymentSettlement.fail) Stays.refl fun _ => rfl
  exact fun row hrow hid => stays_fail (h row hrow hid)

theorem evolves_confirm {rows : List PaymentSettlement} {id : String} (data : Confirmation)
    (h : ∀ row ∈ rows, row.id = id → row.settlementStatus ≠ .failed) :
    Evolves (·.id) Stays rows (update (·.id) id (·.confirm data) rows) := by
  apply Evolves.update (f := fun row => row.confirm data) Stays.refl fun _ => rfl
  exact fun row hrow hid => stays_confirm data (h row hrow hid)

/-! ### Runs -/

section Runs

variable {ι : Type} [DecidableEq ι] {faults : Faults}

/-- What a call has seen so far. -/
def seenBy (who : ι) : List (Event interface Err ι) → Seen
  | [] => fun _ => none
  | event :: history =>
      if event.who = who then (seenBy who history).look event.op event.answer
      else seenBy who history

/-- A row whose status is overwritten has it already, or still the one the writer saw; a writer that
has seen none finds the row undecided. -/
def UpToDate (seen : Option SettlementStatus) (status target : SettlementStatus) : Prop :=
  status = target ∨ seen = some status ∨ seen = none ∧ Undecided status

/-- Every row a statement overwrites is as its writer last saw it, and a confirmation by the worker
finds no receipt of the request that names another settlement. -/
structure Timely (cfg : Config (machine ι faults) (Option SettleResponse))
    (event : Event interface Err ι) : Prop where
  failing : ∀ id, event.op = .failSettlement id →
    ∀ row ∈ cfg.world.db.settlements, row.id = id →
      UpToDate (seenBy event.who cfg.history id) row.settlementStatus .failed
  confirming : ∀ id data receipt, event.op = .confirmSettlement id data receipt →
    cfg.world.db.canConfirm id data receipt = true →
    ∀ row ∈ cfg.world.db.settlements, row.id = id →
      UpToDate (seenBy event.who cfg.history id) row.settlementStatus .confirmed
  confirmingByWorker : ∀ id data receipt, event.op = .confirmByWorker id data receipt →
    cfg.world.db.canConfirmByWorker id data receipt = true →
    ∀ row ∈ cfg.world.db.settlements, row.id = id →
      UpToDate (seenBy event.who cfg.history id) row.settlementStatus .confirmed
  receipted : ∀ id data receipt, event.op = .confirmByWorker id data receipt →
    cfg.world.db.canConfirmByWorker id data receipt = true →
    ∀ other, cfg.world.db.receiptOf receipt.requestId = some other →
      other.responsePayload.settlementId = id

instance (status : SettlementStatus) : Decidable (Undecided status) :=
  inferInstanceAs (Decidable (_ ∧ _))

instance (seen : Option SettlementStatus) (status target : SettlementStatus) :
    Decidable (UpToDate seen status target) :=
  inferInstanceAs (Decidable (_ ∨ _ ∨ _ ∧ _))

/-- Who has not seen a row decided does not reverse it. -/
theorem UpToDate.ne {seen : Option SettlementStatus} {status target other : SettlementStatus}
    (h : UpToDate seen status target) (hopen : ∀ status, seen = some status → Undecided status)
    (hother : other = .confirmed ∨ other = .failed) (hne : other ≠ target) : status ≠ other := by
  rintro rfl
  have hdecided : ¬ Undecided status := by
    rintro ⟨hconfirmed, hfailed⟩
    rcases hother with hstatus | hstatus
    · exact hconfirmed hstatus
    · exact hfailed hstatus
  rcases h with hsame | hseen | ⟨-, hundecided⟩
  · exact hne hsame
  · exact hdecided (hopen status hseen)
  · exact hdecided hundecided

section Step

variable {cfg : Config (machine ι faults) (Option SettleResponse)} {who : ι} {op : Op}
  {answer : Except Err (interface.Ans op)} {world : World ι} {outcome : Outcome}

omit [DecidableEq ι] in
theorem Op.Aloof.exec_tables (h : op.Aloof)
    (hexec : (machine ι faults).exec who cfg.world op outcome = some (answer, world)) :
    world.db.settlements = cfg.world.db.settlements ∧ world.db.receipts = cfg.world.db.receipts := by
  cases exec_effect hexec with
  | upsertPaymentRequest row =>
      simp only [Db.upsertPaymentRequest]
      split <;> exact ⟨rfl, rfl⟩
  | createSettlement id requestId referralCode => exact h.elim
  | failSettlement id => exact h.elim
  | confirmSettlement id data receipt => exact h.elim
  | confirmByWorker id data receipt => exact h.elim
  | _ => exact ⟨rfl, rfl⟩

/-- What a step keeps: the ledger, and the status of every decided row. -/
def LedgerKept (rows : List PaymentSettlement) (db : Db) : Prop :=
  db.Ledger ∧ Evolves (·.id) Stays rows db.settlements

omit [DecidableEq ι] in
theorem ledgerKept_of_tables (h : cfg.world.db.Ledger)
    (htables : world.db.settlements = cfg.world.db.settlements ∧
      world.db.receipts = cfg.world.db.receipts) : LedgerKept cfg.world.db.settlements world.db := by
  refine ⟨h.of_eq htables.1 htables.2, ?_⟩
  rw [htables.1]
  exact .refl Stays.refl _

/-- A write to a row that its writer has not seen decided. -/
theorem Op.WritesOnly.sound (h : cfg.world.db.Ledger) {id : String} (hop : op.WritesOnly id)
    (hopen : (seenBy who cfg.history).Open id)
    (hexec : (machine ι faults).exec who cfg.world op outcome = some (answer, world))
    (hgood : Timely cfg ⟨who, op, answer⟩) : LedgerKept cfg.world.db.settlements world.db := by
  have hsame : LedgerKept cfg.world.db.settlements cfg.world.db :=
    ledgerKept_of_tables h ⟨rfl, rfl⟩
  cases hop with
  | aloof _ haloof => exact ledgerKept_of_tables h (haloof.exec_tables hexec)
  | fail =>
      have hstatus : ∀ row ∈ cfg.world.db.settlements, row.id = id →
          row.settlementStatus ≠ .confirmed := fun row hrow hid =>
        (hgood.failing id rfl row hrow hid).ne hopen (.inl rfl) nofun
      cases exec_effect hexec with
      | none => exact hsame
      | failSettlement _ =>
          exact ⟨h.fail hstatus, evolves_fail hstatus⟩
  | confirm data receipt hnames =>
      cases exec_effect hexec with
      | none => exact hsame
      | confirmSettlement _ _ _ hcan =>
          have hstatus : ∀ row ∈ cfg.world.db.settlements, row.id = id →
              row.settlementStatus ≠ .failed := fun row hrow hid =>
            (hgood.confirming id data receipt rfl hcan row hrow hid).ne hopen (.inr rfl) nofun
          simp only [Db.canConfirm, Bool.and_eq_true, List.any_eq_true, decide_eq_true_eq] at hcan
          refine ⟨h.confirm hcan.1.1.1 rfl ?_ ?_ ?_, evolves_confirm data hstatus⟩
          · exact List.subset_append_left _ _
          · intro other hother
            rcases List.mem_append.mp hother with hold | hnew
            · exact .inl hold
            · rw [List.mem_singleton.mp hnew]
              exact .inr hnames
          · exact ⟨receipt, List.mem_append_right _ (List.mem_singleton_self _), hnames⟩
  | confirmByWorker data receipt hnames =>
      cases exec_effect hexec with
      | none => exact hsame
      | confirmByWorker _ _ _ hcan =>
          have hstatus : ∀ row ∈ cfg.world.db.settlements, row.id = id →
              row.settlementStatus ≠ .failed := fun row hrow hid =>
            (hgood.confirmingByWorker id data receipt rfl hcan row hrow hid).ne hopen (.inr rfl) nofun
          have hreceipted := hgood.receipted id data receipt rfl hcan
          simp only [Db.canConfirmByWorker, Bool.and_eq_true, List.any_eq_true,
            decide_eq_true_eq] at hcan
          have hevolves : Evolves (·.id) Stays cfg.world.db.settlements
              (update (·.id) id (·.confirm data) cfg.world.db.settlements) :=
            evolves_confirm data hstatus
          simp only [Db.confirmByWorker]
          split
          · rename_i hpresent
            obtain ⟨other, hother⟩ := Option.isSome_iff_exists.mp hpresent
            refine ⟨h.confirm hcan.1.1 rfl ?_ ?_ ?_, hevolves⟩
            · exact List.Subset.refl _
            · exact fun _ => .inl
            · exact ⟨other, List.mem_of_find?_eq_some hother, hreceipted other hother⟩
          · refine ⟨h.confirm hcan.1.1 rfl ?_ ?_ ?_, hevolves⟩
            · exact List.subset_append_left _ _
            · intro other hother
              rcases List.mem_append.mp hother with hold | hnew
              · exact .inl hold
              · rw [List.mem_singleton.mp hnew]
                exact .inr hnames
            · exact ⟨cfg.world.db.fillReceipt receipt,
                List.mem_append_right _ (List.mem_singleton_self _), hnames⟩

theorem Seen.Allows.sound (h : cfg.world.db.Ledger) (hallowed : (seenBy who cfg.history).Allows op)
    (hexec : (machine ι faults).exec who cfg.world op outcome = some (answer, world))
    (hgood : Timely cfg ⟨who, op, answer⟩) : LedgerKept cfg.world.db.settlements world.db := by
  cases hallowed with
  | create id requestId referralCode =>
      cases exec_effect hexec with
      | none => exact ledgerKept_of_tables h ⟨rfl, rfl⟩
      | createSettlement _ _ _ hcan => exact ⟨h.create hcan, .append Stays.refl _ _⟩
  | look id =>
      cases exec_effect hexec
      exact ledgerKept_of_tables h ⟨rfl, rfl⟩
  | write id _ hopen hwrites => exact hwrites.sound h hopen hexec hgood
  | aloof _ haloof => exact ledgerKept_of_tables h (haloof.exec_tables hexec)

end Step

/-- Since the rows were `rows` no decided one has changed; every call is in the phase of what it has
seen. -/
structure StatusInv (rows : List PaymentSettlement)
    (cfg : Config (machine ι faults) (Option SettleResponse)) (seen : ι → Seen) : Prop where
  ledger : cfg.world.db.Ledger
  evolves : Evolves (·.id) Stays rows cfg.world.db.settlements
  watched : ∀ who, seen who = seenBy who cfg.history

theorem preserved_status (rows : List PaymentSettlement) :
    Config.Preserved (M := machine ι faults) (fun _ => statusRules) (fun _ _ _ => True)
      (StatusInv rows) Timely where
  call cfg seen who op next outcome answer world hfollows hcall hallowed hexec hgood := by
    have hinv := hfollows.inv
    rw [hinv.watched who] at hallowed
    obtain ⟨hledger, hevolves⟩ := hallowed.sound hinv.ledger hexec hgood
    refine ⟨_, rfl, hledger, hinv.evolves.trans (fun _ _ _ h h' => h.trans h') hevolves, ?_⟩
    intro other
    rw [Config.perform_history, seenBy]
    by_cases heq : other = who
    · subst heq
      rw [Function.update_self, if_pos rfl, hinv.watched]
    · rw [Function.update_of_ne heq, if_neg (Ne.symm heq), hinv.watched]
  env cfg seen event world hfollows henv := by
    obtain ⟨clock, hdb⟩ := machine_env_db henv
    have hinv := hfollows.inv
    refine ⟨hinv.ledger.of_eq ?_ ?_, ?_, hinv.watched⟩
    · rw [hdb]
    · rw [hdb]
    · change Evolves _ _ rows world.db.settlements
      rw [hdb]
      exact hinv.evolves

variable {writer : ι → StatusWriter}
  {start middle last : Config (machine ι faults) (Option SettleResponse)}

/-- **Terminal statuses are final.** As long as every writer finds the rows as it last saw them, a
decided row keeps its status, and a receipt names a settlement exactly if it is confirmed. -/
theorem statuses_final (hcalls : ∀ who, start.calls who = (writer who).program)
    (hhistory : start.history = []) (hledger : start.world.db.Ledger)
    (hmiddle : Config.Reachable Timely start middle)
    (hlast : Config.Reachable Timely middle last) :
    (∀ row ∈ middle.world.db.settlements, ∀ row' ∈ last.world.db.settlements, row'.id = row.id →
      (row.settlementStatus = .confirmed → row'.settlementStatus = .confirmed) ∧
        (row.settlementStatus = .failed → row'.settlementStatus = .failed)) ∧
    ∀ row ∈ last.world.db.settlements,
      (∃ receipt ∈ last.world.db.receipts, receipt.responsePayload.settlementId = row.id) ↔
        row.settlementStatus = .confirmed := by
  have hstart : Config.Follows (fun _ => statusRules) (fun _ _ _ => True)
      (StatusInv start.world.db.settlements) start fun _ _ => none := by
    refine ⟨fun who => ?_, hledger, .refl Stays.refl _, fun who => ?_⟩
    · rw [hcalls]
      exact (writer who).sat
    · rw [hhistory]
      rfl
  obtain ⟨seen, hbefore⟩ := hmiddle.follows (preserved_status _) hstart
  obtain ⟨seen', hfollows⟩ := hlast.follows (preserved_status middle.world.db.settlements)
    ⟨hbefore.sat, hbefore.inv.ledger, .refl Stays.refl _, hbefore.inv.watched⟩
  have hinv := hfollows.inv
  refine ⟨fun row hrow row' hrow' hid => ?_, fun row hrow => hinv.ledger.iff hrow⟩
  obtain ⟨row'', hrow'', hid', -, hstays⟩ := hinv.evolves row hrow
  obtain rfl := hinv.ledger.ids.eq hrow' hrow'' (hid.trans hid'.symm)
  exact ⟨hstays _ (.inl rfl), hstays _ (.inr rfl)⟩

end Runs

/-! ### A settlement and the job that follows it -/

section Schedules

abbrev ThreeWriters := Config (machine (Fin 3) ⟨false, false⟩) (Option SettleResponse)

def sampleJob : SettlementConfirmationJob where
  settlementId := "set-0"
  txHash := "0x01"
  requestId := "req-0"
  chainId := 8453
  rpcUrl := "https://mainnet.base.org"
  fallbackRpcUrl := none
  grossAmount := "1000"
  referralCode := none

/-- A settlement, the one attempt of its job, and another writer. -/
def sampleWriter (other : StatusWriter) (who : Fin 3) : StatusWriter :=
  if who.val = 0 then
    .settle sampleImports { requestId := "req-0", verificationId := "ver-0", referralCode := none }
  else if who.val = 1 then .attempt sampleImports.computeFees sampleJob
  else other

def threeWriters (other : StatusWriter) : ThreeWriters where
  world := verifiedWorld _
  calls who := (sampleWriter other who).program
  history := []

theorem ledger_verifiedWorld (ι : Type) : (verifiedWorld ι).db.Ledger where
  ids := List.nodup_nil
  named := by
    intro receipt hreceipt
    cases hreceipt
  receipted := by
    intro row hrow
    cases hrow

/-- Whether every writer is up to date at an event. -/
def timelyTest (cfg : ThreeWriters) : Event interface Err (Fin 3) → Bool
  | ⟨who, .failSettlement id, _⟩ =>
      cfg.world.db.settlements.all fun row =>
        row.id = id → UpToDate (seenBy who cfg.history id) row.settlementStatus .failed
  | ⟨who, .confirmSettlement id _ _, _⟩ =>
      cfg.world.db.settlements.all fun row =>
        row.id = id → UpToDate (seenBy who cfg.history id) row.settlementStatus .confirmed
  | ⟨who, .confirmByWorker id _ receipt, _⟩ =>
      (cfg.world.db.settlements.all fun row =>
        row.id = id → UpToDate (seenBy who cfg.history id) row.settlementStatus .confirmed) &&
      (cfg.world.db.receiptOf receipt.requestId).all fun other =>
        other.responsePayload.settlementId = id
  | _ => true

theorem timely_of_test {cfg : ThreeWriters} {event : Event interface Err (Fin 3)}
    (h : timelyTest cfg event = true) : Timely cfg event := by
  obtain ⟨who, op, answer⟩ := event
  constructor
  · rintro id rfl row hrow
    exact of_decide_eq_true (List.all_eq_true.mp h row hrow)
  · rintro id data receipt rfl - row hrow
    exact of_decide_eq_true (List.all_eq_true.mp h row hrow)
  · rintro id data receipt rfl - row hrow
    exact of_decide_eq_true (List.all_eq_true.mp (Bool.and_eq_true_iff.mp h).1 row hrow)
  · rintro id data receipt rfl - other hother
    have hnames := (Bool.and_eq_true_iff.mp h).2
    rw [hother] at hnames
    exact of_decide_eq_true hnames

/-- A settlement is under way, and an attempt of its job confirms it. -/
def confirmAside (settling job : Fin 3) : List (Move (machine (Fin 3) ⟨false, false⟩)) :=
  lookups settling ++ lockAndSubmit settling "set-0" ++ [.call settling (.text "0x01")] ++
    [.call job (.fate .done), .call job (.mined ⟨.success, 100, 60000⟩),
      .call job (.time 1700000000000), .call job (.text "rec-1"), .call job (.fate .done),
      .call job (.fate .done)]

def confirmedIn (cfg : ThreeWriters) (id : String) : Bool :=
  cfg.world.db.settlements.any fun row => row.id = id ∧ row.settlementStatus = .confirmed

theorem exists_of_confirmedIn {cfg : ThreeWriters} {id : String} (h : confirmedIn cfg id = true) :
    ∃ row ∈ cfg.world.db.settlements, row.id = id ∧ row.settlementStatus = .confirmed := by
  obtain ⟨row, hrow, hboth⟩ := List.any_eq_true.mp h
  exact ⟨row, hrow, of_decide_eq_true hboth⟩

theorem statuses_final_aside :
    ∃ middle last : ThreeWriters,
      (∃ row ∈ middle.world.db.settlements, row.id = "set-0" ∧ row.settlementStatus = .confirmed) ∧
      (last.calls 2).result? = some (.ok none) ∧
      ∀ row ∈ last.world.db.settlements, row.id = "set-0" → row.settlementStatus = .confirmed := by
  obtain ⟨middle, hrun, hrest⟩ := Option.bind_eq_some_iff.mp
    (show ((threeWriters (.attempt sampleImports.computeFees sampleJob)).runChecked timelyTest
      (confirmAside 0 1)).bind (fun middle => (middle.runChecked timelyTest [.call 2 (.fate .done)]).map
        fun last => confirmedIn middle "set-0" && decide ((last.calls 2).result? = some (.ok none)))
          = some true by decide +kernel)
  obtain ⟨last, hrun', hended⟩ := Option.map_eq_some_iff.mp hrest
  obtain ⟨hconfirmed, hdone⟩ := Bool.and_eq_true_iff.mp hended
  obtain ⟨row, hrow, hid, hstatus⟩ := exists_of_confirmedIn hconfirmed
  have hfinal := (statuses_final (fun _ => rfl) rfl (ledger_verifiedWorld (Fin 3))
    (Config.reachable_of_runChecked (fun _ _ => timely_of_test) hrun)
    (Config.reachable_of_runChecked (fun _ _ => timely_of_test) hrun')).1
  refine ⟨middle, last, ⟨row, hrow, hid, hstatus⟩, of_decide_eq_true hdone, ?_⟩
  exact fun row' hrow' hid' => (hfinal row hrow row' hrow' (hid'.trans hid.symm)).1 hstatus

/-- The only attempt looks at the row while the settlement is under way, which then confirms it. -/
def lookThenConfirm (settling job : Fin 3) : List (Move (machine (Fin 3) ⟨false, false⟩)) :=
  lookups settling ++ lockAndSubmit settling "set-0" ++ [.call job (.fate .done)] ++
    mineAndConfirm settling "0x01" "rec-0"

/-- The attempt then finds no endpoint that answers, and its handler writes. -/
def failLate (job handler : Fin 3) : List (Move (machine (Fin 3) ⟨false, false⟩)) :=
  [.call job (.fate (.failed (.raised "timed out"))), .call handler (.fate .done)]

theorem confirmed_then_failed :
    ∃ middle last : ThreeWriters,
      Config.Reachable Config.anyStep
        (threeWriters (.onFailed (some ⟨sampleJob, 1, some 1⟩))) middle ∧
      (∃ row ∈ middle.world.db.settlements, row.id = "set-0" ∧ row.settlementStatus = .confirmed) ∧
      Config.Reachable Config.anyStep middle last ∧
      ∃ row ∈ last.world.db.settlements, row.id = "set-0" ∧ row.settlementStatus = .failed ∧
        ∃ receipt ∈ last.world.db.receipts, receipt.responsePayload.settlementId = row.id := by
  obtain ⟨middle, last, hreach, hconfirmed, hreach', hfailed⟩ := Config.exists_reachable_of_runs
    (show ((threeWriters (.onFailed (some ⟨sampleJob, 1, some 1⟩))).run (lookThenConfirm 0 1)).map
      (confirmedIn · "set-0") = some true by decide +kernel)
    (show ((threeWriters (.onFailed (some ⟨sampleJob, 1, some 1⟩))).run
      (lookThenConfirm 0 1 ++ failLate 1 2)).map (fun cfg => cfg.world.db.settlements.any fun row =>
        decide (row.id = "set-0" ∧ row.settlementStatus = .failed ∧
          ∃ receipt ∈ cfg.world.db.receipts, receipt.responsePayload.settlementId = row.id))
        = some true by decide +kernel)
  obtain ⟨row, hrow, hboth⟩ := List.any_eq_true.mp hfailed
  exact ⟨middle, last, hreach, exists_of_confirmedIn hconfirmed, hreach', row, hrow,
    of_decide_eq_true hboth⟩

end Schedules

end Service

end FacilitatorX402
