import FacilitatorX402.Infrastructure.PaymentStore

/-!
# Settlement rows and their receipts

What the tables of the payment pipeline look like at every moment, and what each statement on them
preserves. A row is decided at most once; a confirmed row has exactly one receipt, which agrees with
it; and since a request has at most one receipt, it has at most one confirmed row.
-/

namespace FacilitatorX402

open KeyedRows

namespace Payment

/-- What time can do to a row: nothing, or decide it while it is pending. -/
def Decided (row row' : PaymentSettlement) : Prop :=
  row' = row ∨ row.settlementStatus = .pending ∧ row'.requestId = row.requestId ∧
    (row'.settlementStatus = .confirmed ∨ row'.settlementStatus = .failed)

theorem fail_id (row : PaymentSettlement) : row.fail.id = row.id := rfl

theorem confirm_id (data : Confirmation) (row : PaymentSettlement) :
    (row.confirm data).id = row.id := rfl

theorem Decided.refl (row : PaymentSettlement) : Decided row row := .inl rfl

theorem Decided.trans (a b c : PaymentSettlement) (hab : Decided a b) (hbc : Decided b c) :
    Decided a c := by
  rcases hbc with rfl | ⟨hpending, hrequest, hstatus⟩
  · exact hab
  · rcases hab with rfl | ⟨ha, harequest, hb⟩
    · exact .inr ⟨hpending, hrequest, hstatus⟩
    · rw [hpending] at hb
      rcases hb with hb | hb <;> cases hb

theorem Decided.eq_of_confirmed {row row' : PaymentSettlement} (h : Decided row row')
    (hconfirmed : row.settlementStatus = .confirmed) : row' = row := by
  rcases h with rfl | ⟨hpending, -, -⟩
  · rfl
  · rw [hconfirmed] at hpending
    cases hpending

/-- A receipt and a confirmed row carry the same request, transaction and amounts. -/
def Agrees (row : PaymentSettlement) (receipt : PaymentReceipt) : Prop :=
  receipt.requestId = row.requestId ∧
    row.txHash = some receipt.responsePayload.txHash ∧
    row.feeAmount.map toString = some receipt.responsePayload.feeAmount ∧
    row.developerShare.map toString = some receipt.responsePayload.developerShare

namespace Db

def receiptsOf (db : Db) (settlementId : String) : List PaymentReceipt :=
  db.receipts.filter (·.settlementId = settlementId)

/-- The row is there, for this request, and undecided. -/
def PendingRow (db : Db) (settlementId requestId : String) : Prop :=
  ∃ row ∈ db.settlements, row.id = settlementId ∧ row.requestId = requestId ∧
    row.settlementStatus = .pending

/-- The tables agree with each other. -/
structure Coherent (db : Db) : Prop where
  ids : Unique (·.id) db.settlements
  statuses : ∀ row ∈ db.settlements, row.settlementStatus = .pending ∨
    row.settlementStatus = .confirmed ∨ row.settlementStatus = .failed
  receiptRequests : Unique (·.requestId) db.receipts
  receiptRows : ∀ receipt ∈ db.receipts, ∃ row ∈ db.settlements,
    row.id = receipt.settlementId ∧ row.settlementStatus = .confirmed
  confirmedRows : ∀ row ∈ db.settlements, row.settlementStatus = .confirmed →
    ∃ receipt, db.receiptsOf row.id = [receipt] ∧ Agrees row receipt

/-- Nothing is lost, and every row has been decided at most once. -/
structure Advances (db db' : Db) : Prop where
  settlements : Evolves (·.id) Decided db.settlements db'.settlements
  receipts : db.receipts <+: db'.receipts
  requests : db'.requests = db.requests
  verifications : db'.verifications = db.verifications

theorem Advances.refl (db : Db) : db.Advances db where
  settlements := .refl Decided.refl _
  receipts := List.prefix_rfl
  requests := rfl
  verifications := rfl

theorem Advances.trans {db db' db'' : Db} (h : db.Advances db') (h' : db'.Advances db'') :
    db.Advances db'' where
  settlements := h.settlements.trans Decided.trans h'.settlements
  receipts := h.receipts.trans h'.receipts
  requests := h'.requests.trans h.requests
  verifications := h'.verifications.trans h.verifications

/-! ### Consequences -/

section Coherent

variable {db : Db}

theorem Coherent.confirmed_unique (h : db.Coherent) {row row' : PaymentSettlement}
    (hrow : row ∈ db.settlements) (hrow' : row' ∈ db.settlements)
    (hstatus : row.settlementStatus = .confirmed) (hstatus' : row'.settlementStatus = .confirmed)
    (hrequest : row.requestId = row'.requestId) : row = row' := by
  have hreceipt : ∀ row ∈ db.settlements, row.settlementStatus = .confirmed →
      ∃ receipt ∈ db.receipts, receipt.settlementId = row.id ∧ receipt.requestId = row.requestId := by
    intro row hrow hstatus
    obtain ⟨receipt, hreceipts, hagrees⟩ := h.confirmedRows row hrow hstatus
    have hmem : receipt ∈ db.receiptsOf row.id := by rw [hreceipts]; exact List.mem_singleton_self _
    obtain ⟨hreceipt, hsettlement⟩ := List.mem_filter.mp hmem
    exact ⟨receipt, hreceipt, of_decide_eq_true hsettlement, hagrees.1⟩
  obtain ⟨receipt, hmem, hsettlement, hown⟩ := hreceipt row hrow hstatus
  obtain ⟨receipt', hmem', hsettlement', hown'⟩ := hreceipt row' hrow' hstatus'
  obtain rfl : receipt = receipt' :=
    h.receiptRequests.eq hmem hmem' (hown.trans (hrequest.trans hown'.symm))
  exact h.ids.eq hrow hrow' (hsettlement.symm.trans hsettlement')

/-- A row that is not confirmed has no receipt. -/
theorem Coherent.receiptsOf_eq_nil (h : db.Coherent) {settlementId : String}
    (hnot : ∀ row ∈ db.settlements, row.id = settlementId → row.settlementStatus ≠ .confirmed) :
    db.receiptsOf settlementId = [] := by
  refine List.filter_eq_nil_iff.mpr fun receipt hreceipt hmine => ?_
  obtain ⟨row, hrow, hid, hstatus⟩ := h.receiptRows receipt hreceipt
  exact hnot row hrow (hid.trans (of_decide_eq_true hmine)) hstatus

/-- **A row is confirmed exactly when it has one receipt, which agrees with it.** -/
theorem Coherent.confirmed_iff (h : db.Coherent) {row : PaymentSettlement}
    (hrow : row ∈ db.settlements) : row.settlementStatus = .confirmed ↔
      ∃ receipt, db.receiptsOf row.id = [receipt] ∧ Agrees row receipt := by
  refine ⟨h.confirmedRows row hrow, ?_⟩
  rintro ⟨receipt, hreceipts, -⟩
  by_contra hstatus
  have hnil := h.receiptsOf_eq_nil fun row' hrow' hid => by
    rwa [h.ids.eq hrow' hrow hid]
  rw [hnil] at hreceipts
  cases hreceipts

theorem Coherent.pending_of_id (h : db.Coherent) {settlementId requestId : String}
    (hpending : db.PendingRow settlementId requestId) {row : PaymentSettlement}
    (hrow : row ∈ db.settlements) (hid : row.id = settlementId) :
    row.requestId = requestId ∧ row.settlementStatus = .pending := by
  obtain ⟨pending, hmem, hid', hrequest, hstatus⟩ := hpending
  obtain rfl := h.ids.eq hrow hmem (hid.trans hid'.symm)
  exact ⟨hrequest, hstatus⟩

theorem receiptOf_eq_some {settlementId : String} {receipt : PaymentReceipt}
    (h : db.receiptsOf settlementId = [receipt]) : db.receiptOf settlementId = some receipt := by
  rw [receiptOf, ← List.head?_filter]
  exact congrArg List.head? h

end Coherent

/-! ### The statements -/

section Statements

variable {db : Db} {settlementId requestId : String}

theorem Coherent.createSettlement (h : db.Coherent) {row : PaymentSettlement}
    (hfresh : ∀ other ∈ db.settlements, other.id ≠ row.id)
    (hstatus : row.settlementStatus = .pending) : (db.createSettlement row).Coherent where
  ids := h.ids.append hfresh
  statuses := by
    intro other hother
    rcases List.mem_append.mp hother with hother | hother
    · exact h.statuses other hother
    · rw [List.mem_singleton.mp hother]
      exact .inl hstatus
  receiptRequests := h.receiptRequests
  receiptRows := by
    intro receipt hreceipt
    obtain ⟨other, hother, hrest⟩ := h.receiptRows receipt hreceipt
    exact ⟨other, List.mem_append_left _ hother, hrest⟩
  confirmedRows := by
    intro other hother hconfirmed
    rcases List.mem_append.mp hother with hother | hother
    · exact h.confirmedRows other hother hconfirmed
    · rw [List.mem_singleton.mp hother, hstatus] at hconfirmed
      cases hconfirmed

theorem Advances.createSettlement (db : Db) (row : PaymentSettlement) :
    db.Advances (db.createSettlement row) where
  settlements := .append Decided.refl _ _
  receipts := List.prefix_rfl
  requests := rfl
  verifications := rfl

theorem Coherent.failSettlement (h : db.Coherent) (hpending : db.PendingRow settlementId requestId) :
    (db.updateSettlement settlementId (·.fail)).Coherent where
  ids := h.ids.update fail_id _
  statuses := by
    intro row hrow
    rcases mem_update.mp hrow with ⟨hrow, -⟩ | ⟨old, -, -, rfl⟩
    · exact h.statuses row hrow
    · exact .inr (.inr rfl)
  receiptRequests := h.receiptRequests
  receiptRows := by
    intro receipt hreceipt
    obtain ⟨row, hrow, hid, hstatus⟩ := h.receiptRows receipt hreceipt
    refine ⟨row, mem_update_of_ne hrow fun heq => ?_, hid, hstatus⟩
    rw [(h.pending_of_id hpending hrow heq).2] at hstatus
    cases hstatus
  confirmedRows := by
    intro row hrow hstatus
    rcases mem_update.mp hrow with ⟨hrow, -⟩ | ⟨old, -, -, rfl⟩
    · exact h.confirmedRows row hrow hstatus
    · cases hstatus

theorem Advances.failSettlement (h : db.Coherent) (hpending : db.PendingRow settlementId requestId) :
    db.Advances (db.updateSettlement settlementId (·.fail)) where
  settlements := by
    refine .update Decided.refl fail_id fun row hrow hid => .inr ⟨?_, rfl, .inr rfl⟩
    exact (h.pending_of_id hpending hrow hid).2
  receipts := List.prefix_rfl
  requests := rfl
  verifications := rfl

/-- A pending row is confirmed, with a receipt for its request that carries its columns. -/
theorem Coherent.confirmSettlement (h : db.Coherent)
    (hpending : db.PendingRow settlementId requestId) {data : Confirmation}
    {receipt : PaymentReceipt} (hcan : db.canConfirm settlementId data receipt = true)
    (hsettlement : receipt.settlementId = settlementId) (hrequest : receipt.requestId = requestId)
    (htxHash : receipt.responsePayload.txHash = data.txHash)
    (hfee : receipt.responsePayload.feeAmount = toString data.feeAmount)
    (hshare : receipt.responsePayload.developerShare = toString data.developerShare) :
    (db.confirmSettlement settlementId data receipt).Coherent where
  ids := h.ids.update (confirm_id data) _
  statuses := by
    intro row hrow
    rcases mem_update.mp hrow with ⟨hrow, -⟩ | ⟨old, -, -, rfl⟩
    · exact h.statuses row hrow
    · exact .inr (.inl rfl)
  receiptRequests := by
    refine h.receiptRequests.append fun other hother => ?_
    simp only [canConfirm, Bool.and_eq_true, List.all_eq_true, decide_eq_true_eq] at hcan
    exact (hcan.2 other hother).2
  receiptRows := by
    intro other hother
    rcases List.mem_append.mp hother with hother | hother
    · obtain ⟨row, hrow, hid, hstatus⟩ := h.receiptRows other hother
      refine ⟨row, mem_update_of_ne hrow fun heq => ?_, hid, hstatus⟩
      rw [(h.pending_of_id hpending hrow heq).2] at hstatus
      cases hstatus
    · rw [List.mem_singleton.mp hother]
      obtain ⟨row, hrow, hid, -, -⟩ := hpending
      exact ⟨row.confirm data, mem_update_of_eq hrow hid, hid.trans hsettlement.symm, rfl⟩
  confirmedRows := by
    intro row hrow hstatus
    have happend : ∀ id, (db.confirmSettlement settlementId data receipt).receiptsOf id
        = db.receiptsOf id ++ if receipt.settlementId = id then [receipt] else [] := by
      intro id
      simp [receiptsOf, Db.confirmSettlement, List.filter_append, List.filter_singleton]
    rw [happend]
    rcases mem_update.mp hrow with ⟨hrow, hne⟩ | ⟨old, hold, hid, rfl⟩
    · rw [if_neg fun heq => hne (heq.symm.trans hsettlement), List.append_nil]
      exact h.confirmedRows row hrow hstatus
    · have hold' := h.pending_of_id hpending hold hid
      have hnil : db.receiptsOf settlementId = [] := by
        refine h.receiptsOf_eq_nil fun row hrow hid => ?_
        rw [(h.pending_of_id hpending hrow hid).2]
        exact fun hcontra => by cases hcontra
      have hmine : (old.confirm data).id = settlementId := hid
      rw [hmine, hnil, if_pos hsettlement, List.nil_append]
      refine ⟨receipt, rfl, hrequest.trans hold'.1.symm, ?_, ?_, ?_⟩
      · rw [htxHash]
        rfl
      · rw [hfee]
        rfl
      · rw [hshare]
        rfl

theorem Advances.confirmSettlement (h : db.Coherent)
    (hpending : db.PendingRow settlementId requestId) (data : Confirmation)
    (receipt : PaymentReceipt) : db.Advances (db.confirmSettlement settlementId data receipt) where
  settlements := by
    refine .update Decided.refl (confirm_id data) fun row hrow hid => .inr ⟨?_, rfl, .inl rfl⟩
    exact (h.pending_of_id hpending hrow hid).2
  receipts := List.prefix_append _ _
  requests := rfl
  verifications := rfl

/-- The statements of other calls leave a pending row alone. -/
theorem PendingRow.of_mem {db' : Db} (h : db.PendingRow settlementId requestId)
    (hmem : ∀ row ∈ db.settlements, row.id = settlementId → row ∈ db'.settlements) :
    db'.PendingRow settlementId requestId := by
  obtain ⟨row, hrow, hid, hrest⟩ := h
  exact ⟨row, hmem row hrow hid, hid, hrest⟩

end Statements

/-- Every row with this id belongs to this request, and there is one. -/
def RowOf (db : Db) (settlementId requestId : String) : Prop :=
  (∃ row ∈ db.settlements, row.id = settlementId) ∧
    ∀ row ∈ db.settlements, row.id = settlementId → row.requestId = requestId

theorem confirmedFor_eq_nil_iff {db : Db} {requestId : String} :
    db.confirmedFor requestId = [] ↔ ∀ row ∈ db.settlements, row.requestId = requestId →
      row.settlementStatus ≠ .confirmed := by
  simp [confirmedFor, List.filter_eq_nil_iff]

theorem RowOf.createSettlement {db : Db} {row : PaymentSettlement}
    (hfresh : ∀ other ∈ db.settlements, other.id ≠ row.id) :
    (db.createSettlement row).RowOf row.id row.requestId := by
  refine ⟨⟨row, List.mem_append_right _ (List.mem_singleton_self _), rfl⟩, fun other hother hid => ?_⟩
  rcases List.mem_append.mp hother with hother | hother
  · exact absurd hid (hfresh other hother)
  · rw [List.mem_singleton.mp hother]

end Db

/-! ### The operations, whatever the surroundings do -/

section Exec

variable {ι : Type} {faults : Faults} {who : ι} {world world' : World ι} {outcome : Outcome}
  {op : Op} {answer : Except Err (interface.Ans op)} {settlementId requestId : String}

/-- What a statement can do to the settlements: nothing, add a row, or update the row of an id without
changing its id or its request. -/
theorem exec_settlements_cases
    (h : (machine ι faults).exec who world op outcome = some (answer, world')) :
    world'.db.settlements = world.db.settlements ∨
    (∃ row, op = .createSettlement row ∧ (∀ other ∈ world.db.settlements, other.id ≠ row.id) ∧
      world'.db = world.db.createSettlement row) ∨
    (∃ id, op = .failSettlement id ∧ world'.db = world.db.updateSettlement id (·.fail)) ∨
    ∃ id data receipt, op = .confirmSettlement id data receipt ∧
      world'.db = world.db.confirmSettlement id data receipt := by
  cases op with
  | redis command => exact .inl (by rw [(exec_redis h).2])
  | chain op => exact .inl (by rw [(exec_chain h).2.1])
  | now => exact .inl (by rw [(exec_now h).1])
  | generateId => exact .inl (by rw [(exec_generateId h).1])
  | findPaymentRequest id => exact .inl (by rw [(exec_findPaymentRequest h).1])
  | findConfirmedSettlement requestId => exact .inl (by rw [(exec_findConfirmedSettlement h).1])
  | createSettlement row =>
      rcases exec_createSettlement h with ⟨hfresh, rfl⟩ | ⟨-, rfl⟩
      · exact .inr (.inl ⟨row, rfl, hfresh, rfl⟩)
      · exact .inl rfl
  | failSettlement id =>
      rcases exec_failSettlement h with rfl | ⟨-, rfl⟩
      · exact .inr (.inr (.inl ⟨id, rfl, rfl⟩))
      · exact .inl rfl
  | confirmSettlement id data receipt =>
      rcases statement_cases (statement_of_transaction h) with ⟨-, rfl, -⟩ | ⟨-, rfl⟩
      · exact .inr (.inr (.inr ⟨id, data, receipt, rfl, rfl⟩))
      · exact .inl rfl
  | createVerified request verification =>
      rcases exec_createVerified h with ⟨-, rfl⟩ | ⟨-, rfl⟩ <;> exact .inl rfl

/-- A row keeps its request for ever. -/
theorem exec_rowOf (h : (machine ι faults).exec who world op outcome = some (answer, world'))
    (hrow : world.db.RowOf settlementId requestId) : world'.db.RowOf settlementId requestId := by
  have hupdate : ∀ (id : String) (f : PaymentSettlement → PaymentSettlement),
      (∀ row, (f row).id = row.id) → (∀ row, (f row).requestId = row.requestId) →
      (world.db.updateSettlement id f).RowOf settlementId requestId := by
    intro id f hid hrequest
    obtain ⟨⟨row, hmem, hmine⟩, hall⟩ := hrow
    constructor
    · by_cases heq : row.id = id
      · exact ⟨f row, mem_update_of_eq hmem heq, (hid row).trans hmine⟩
      · exact ⟨row, mem_update_of_ne hmem heq, hmine⟩
    · intro row' hrow' hid'
      rcases mem_update.mp hrow' with ⟨hrow', -⟩ | ⟨old, hold, -, rfl⟩
      · exact hall row' hrow' hid'
      · rw [hrequest]
        exact hall old hold ((hid old).symm.trans hid')
  rcases exec_settlements_cases h with heq | ⟨row, -, hfresh, hdb⟩ | ⟨id, -, hdb⟩ |
    ⟨id, data, receipt, -, hdb⟩
  · rw [Db.RowOf, heq]
    exact hrow
  · rw [hdb]
    obtain ⟨⟨old, hmem, hmine⟩, hall⟩ := hrow
    refine ⟨⟨old, List.mem_append_left _ hmem, hmine⟩, fun row' hrow' hid => ?_⟩
    rcases List.mem_append.mp hrow' with hrow' | hrow'
    · exact hall row' hrow' hid
    · rw [List.mem_singleton.mp hrow'] at hid
      exact absurd (hmine.trans hid.symm) (hfresh old hmem)
  · rw [hdb]
    exact hupdate id _ (fun _ => rfl) fun _ => rfl
  · rw [hdb]
    exact hupdate id (·.confirm data) (fun _ => rfl) fun _ => rfl

/-- A request without a confirmed row gets one only by a confirmation of one of its rows. -/
theorem exec_confirmedFor (h : (machine ι faults).exec who world op outcome = some (answer, world'))
    (hnone : world.db.confirmedFor requestId = [])
    (hcreate : ∀ row, op = .createSettlement row → row.settlementStatus ≠ .confirmed)
    (hconfirm : ∀ id data receipt, op = .confirmSettlement id data receipt →
      ∀ row ∈ world.db.settlements, row.id = id → row.requestId ≠ requestId) :
    world'.db.confirmedFor requestId = [] := by
  rw [Db.confirmedFor_eq_nil_iff] at hnone ⊢
  intro row hrow hrequest
  rcases exec_settlements_cases h with heq | ⟨created, hop, -, hdb⟩ | ⟨id, -, hdb⟩ |
    ⟨id, data, receipt, hop, hdb⟩
  · rw [heq] at hrow
    exact hnone row hrow hrequest
  · rw [hdb] at hrow
    rcases List.mem_append.mp hrow with hrow | hrow
    · exact hnone row hrow hrequest
    · rw [List.mem_singleton.mp hrow]
      exact hcreate created hop
  · rw [hdb] at hrow
    rcases mem_update.mp hrow with ⟨hrow, -⟩ | ⟨old, -, -, rfl⟩
    · exact hnone row hrow hrequest
    · exact nofun
  · rw [hdb] at hrow
    rcases mem_update.mp hrow with ⟨hrow, -⟩ | ⟨old, hold, hid, rfl⟩
    · exact hnone row hrow hrequest
    · exact absurd hrequest (hconfirm id data receipt hop old hold hid)

end Exec

end Payment

end FacilitatorX402
