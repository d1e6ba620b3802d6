import FacilitatorX402.Library.PromiseBook
import FacilitatorX402.Proof.RebuiltAuthorization
import FacilitatorX402.Proof.SettlementRows

/-!
# The tables as a book of promises

A request with its verification is a promise, under what is stored of the terms that the payer has signed;
the confirmed settlement of the request keeps it. What the statements of the pipeline do to the tables is then a step of
the book, or none.
-/

namespace FacilitatorX402

open KeyedRows PromiseBook

namespace Payment

/-- What is stored of a signed authorization. When it becomes valid is not. -/
structure Terms where
  payer : String
  payee : String
  network : String
  asset : String
  amount : Int
  expiresAt : JsDate
  nonce : String
  signatureHash : String
  deriving DecidableEq

structure Payout where
  settlementId : String
  txHash : String
  feeAmount : Int
  developerShare : Int
  deriving DecidableEq

abbrev PaymentEntry := Entry Terms Payout

def termsOf (request : PaymentRequest) (verification : PaymentVerification) : Terms :=
  { payer := request.buyer
    payee := request.seller
    network := request.network
    asset := request.asset
    amount := request.amount
    expiresAt := request.expiresAt
    nonce := verification.nonce
    signatureHash := verification.signatureHash }

def PaymentSettlement.payout (row : PaymentSettlement) : Payout :=
  { settlementId := row.id
    txHash := row.txHash.getD ""
    feeAmount := row.feeAmount.getD 0
    developerShare := row.developerShare.getD 0 }

/-- What a row becomes with these columns. -/
def Confirmation.payout (data : Confirmation) (settlementId : String) : Payout :=
  { settlementId := settlementId
    txHash := data.txHash
    feeAmount := data.feeAmount
    developerShare := data.developerShare }

namespace Db

def confirmedRow (db : Db) (requestId : String) : Option PaymentSettlement :=
  db.settlements.find? fun row => row.requestId = requestId ∧ row.settlementStatus = .confirmed

def book (db : Db) : Book String Terms Payout := fun id => do
  let request ← db.requests.find? (·.id = id)
  let verification ← db.verifications.find? (·.requestId = id)
  return ⟨termsOf request verification, (db.confirmedRow id).map (·.payout)⟩

/-- The tables agree, and rows belong to requests that have one verification. -/
structure Sound (db : Db) : Prop where
  coherent : db.Coherent
  linked : db.Linked
  single : Unique (·.requestId) db.verifications
  owned : ∀ row ∈ db.settlements, ∃ request ∈ db.requests, request.id = row.requestId

variable {db : Db} {request : PaymentRequest} {verification : PaymentVerification}

/-! ### Reading the book -/

theorem confirmedRow_eq_some_iff (h : db.Coherent) {requestId : String} {row : PaymentSettlement} :
    db.confirmedRow requestId = some row ↔
      row ∈ db.settlements ∧ row.requestId = requestId ∧ row.settlementStatus = .confirmed := by
  constructor
  · intro hfind
    have hboth : row.requestId = requestId ∧ row.settlementStatus = .confirmed := by
      simpa using List.find?_some hfind
    exact ⟨List.mem_of_find?_eq_some hfind, hboth⟩
  · rintro ⟨hrow, hrequest, hstatus⟩
    cases hfind : db.confirmedRow requestId with
    | none => simpa [hrequest, hstatus] using List.find?_eq_none.mp hfind row hrow
    | some other =>
        have hboth : other.requestId = requestId ∧ other.settlementStatus = .confirmed := by
          simpa using List.find?_some hfind
        rw [h.confirmed_unique (List.mem_of_find?_eq_some hfind) hrow hboth.2 hstatus
          (hboth.1.trans hrequest.symm)]

theorem Sound.book_of_joins (h : db.Sound) (hjoins : db.Joins request verification) :
    db.book request.id
      = some ⟨termsOf request verification, (db.confirmedRow request.id).map (·.payout)⟩ := by
  have hrequest : db.requests.find? (·.id = request.id) = some request :=
    h.linked.requests.find?_eq_some_iff.mpr ⟨hjoins.1, rfl⟩
  have hverification : db.verifications.find? (·.requestId = request.id) = some verification :=
    h.single.find?_eq_some_iff.mpr ⟨hjoins.2.1, hjoins.2.2⟩
  simp only [book, hrequest, hverification]
  rfl

theorem exists_joins_of_book {id : String} {entry : PaymentEntry} (hentry : db.book id = some entry) :
    ∃ request verification, db.Joins request verification ∧ request.id = id ∧
      entry = ⟨termsOf request verification, (db.confirmedRow id).map (·.payout)⟩ := by
  obtain ⟨request, hrequest, hrest⟩ := Option.bind_eq_some_iff.mp hentry
  obtain ⟨verification, hverification, hreturn⟩ := Option.bind_eq_some_iff.mp hrest
  have hid : request.id = id := by simpa using List.find?_some hrequest
  have hrequestId : verification.requestId = id := by simpa using List.find?_some hverification
  exact ⟨request, verification, ⟨List.mem_of_find?_eq_some hrequest,
    List.mem_of_find?_eq_some hverification, hrequestId.trans hid.symm⟩, hid,
    (Option.some.inj hreturn).symm⟩

theorem book_congr {db' : Db} (hrequests : db'.requests = db.requests)
    (hverifications : db'.verifications = db.verifications)
    (hrows : ∀ id, db'.confirmedRow id = db.confirmedRow id) : db'.book = db.book := by
  funext id
  simp only [book, hrequests, hverifications, hrows]

/-! ### A verification enters a promise -/

/-- No signature and no nonce is promised twice. -/
def AuthorizedApart (terms terms' : Terms) : Prop :=
  terms.signatureHash ≠ terms'.signatureHash ∧ terms.nonce ≠ terms'.nonce

theorem Sound.createVerified (h : db.Sound) (hcan : db.canVerify request verification = true)
    (hrequest : verification.requestId = request.id) :
    (db.createVerified request verification).Sound where
  coherent := ⟨h.coherent.ids, h.coherent.statuses, h.coherent.receiptRequests,
    h.coherent.receiptRows, h.coherent.confirmedRows⟩
  linked := h.linked.createVerified hcan hrequest
  single := by
    apply h.single.append
    intro other hother hsame
    obtain ⟨owner, howner, hid⟩ := h.linked.foreign other hother
    exact fresh_of_canVerify hcan owner howner (hid.trans (hsame.trans hrequest))
  owned := by
    intro row hrow
    obtain ⟨owner, howner, hid⟩ := h.owned row hrow
    exact ⟨owner, List.mem_append_left _ howner, hid⟩

theorem book_fresh (hcan : db.canVerify request verification = true) : db.book request.id = none := by
  have hnone : db.requests.find? (·.id = request.id) = none := by
    apply List.find?_eq_none.mpr
    intro other hother
    simpa using fresh_of_canVerify hcan other hother
  simp only [book, hnone]
  rfl

theorem Sound.book_createVerified (h : db.Sound) (hcan : db.canVerify request verification = true)
    (hrequest : verification.requestId = request.id) :
    (db.createVerified request verification).book
      = db.book.enter request.id (termsOf request verification) := by
  funext id
  by_cases hid : id = request.id
  · subst hid
    have hjoins : (db.createVerified request verification).Joins request verification :=
      ⟨List.mem_append_right _ (List.mem_singleton_self _),
        List.mem_append_right _ (List.mem_singleton_self _), hrequest⟩
    have hnone : db.confirmedRow request.id = none := by
      apply List.find?_eq_none.mpr
      intro row hrow
      obtain ⟨owner, howner, howns⟩ := h.owned row hrow
      have hne : row.requestId ≠ request.id := howns ▸ fresh_of_canVerify hcan owner howner
      simp [hne]
    rw [(h.createVerified hcan hrequest).book_of_joins hjoins, Book.enter_self]
    change some (Entry.mk _ (Option.map _ (db.confirmedRow request.id))) = _
    rw [hnone]
    rfl
  · rw [Book.enter_of_ne _ _ hid]
    have hother : ¬request.id = id := fun heq => hid heq.symm
    have hother' : ¬verification.requestId = id := fun heq => hid (heq.symm.trans hrequest)
    have hrequests : (db.createVerified request verification).requests.find? (·.id = id)
        = db.requests.find? (·.id = id) := by
      simp [Db.createVerified, hother]
    have hverifications : (db.createVerified request verification).verifications.find?
        (·.requestId = id) = db.verifications.find? (·.requestId = id) := by
      simp [Db.createVerified, hother']
    simp only [book, hrequests, hverifications]
    rfl

theorem apart_of_canVerify (hcan : db.canVerify request verification = true) {id : String}
    {entry : PaymentEntry} (hentry : db.book id = some entry) :
    AuthorizedApart entry.terms (termsOf request verification) := by
  obtain ⟨request', verification', hjoins, -, rfl⟩ := exists_joins_of_book hentry
  simp only [canVerify, Bool.and_eq_true, List.all_eq_true, decide_eq_true_eq] at hcan
  exact (hcan.2 verification' hjoins.2.1).2

/-! ### A settlement keeps it -/

theorem Sound.createSettlement (h : db.Sound) (hrequest : request ∈ db.requests)
    {row : PaymentSettlement} (hfresh : ∀ other ∈ db.settlements, other.id ≠ row.id)
    (hrow : row.requestId = request.id) (hstatus : row.settlementStatus = .pending) :
    (db.createSettlement row).Sound where
  coherent := h.coherent.createSettlement hfresh hstatus
  linked := ⟨h.linked.requests, h.linked.foreign⟩
  single := h.single
  owned := by
    intro other hother
    rcases List.mem_append.mp hother with hold | hnew
    · exact h.owned other hold
    · rw [List.mem_singleton.mp hnew]
      exact ⟨request, hrequest, hrow.symm⟩

theorem book_createSettlement {row : PaymentSettlement} (hstatus : row.settlementStatus = .pending) :
    (db.createSettlement row).book = db.book := by
  have hrows : ∀ id, (db.createSettlement row).confirmedRow id = db.confirmedRow id := by
    intro id
    simp [confirmedRow, Db.createSettlement, hstatus]
  exact book_congr rfl rfl hrows

section Decide

variable {settlementId requestId : String}

/-- Deciding a row changes neither its id nor its request. -/
theorem Sound.owned_update (h : db.Sound) {f : PaymentSettlement → PaymentSettlement}
    (hf : ∀ row, (f row).requestId = row.requestId) :
    ∀ row ∈ (db.updateSettlement settlementId f).settlements,
      ∃ request ∈ db.requests, request.id = row.requestId := by
  intro row hrow
  rcases mem_update.mp hrow with ⟨hold, -⟩ | ⟨old, hold, -, rfl⟩
  · exact h.owned row hold
  · rw [hf]
    exact h.owned old hold

theorem Sound.failSettlement (h : db.Sound) (hpending : db.PendingRow settlementId requestId) :
    (db.updateSettlement settlementId (·.fail)).Sound where
  coherent := h.coherent.failSettlement hpending
  linked := ⟨h.linked.requests, h.linked.foreign⟩
  single := h.single
  owned := h.owned_update fun _ => rfl

theorem Sound.book_failSettlement (h : db.Sound) (hpending : db.PendingRow settlementId requestId) :
    (db.updateSettlement settlementId (·.fail)).book = db.book := by
  have hrows : ∀ id, (db.updateSettlement settlementId (·.fail)).confirmedRow id
      = db.confirmedRow id := by
    intro id
    ext row
    rw [confirmedRow_eq_some_iff (h.coherent.failSettlement hpending),
      confirmedRow_eq_some_iff h.coherent]
    constructor
    · rintro ⟨hrow, hrequest, hstatus⟩
      rcases mem_update.mp hrow with ⟨hold, -⟩ | ⟨old, -, -, rfl⟩
      · exact ⟨hold, hrequest, hstatus⟩
      · cases hstatus
    · rintro ⟨hrow, hrequest, hstatus⟩
      refine ⟨mem_update_of_ne hrow fun hid => ?_, hrequest, hstatus⟩
      rw [(h.coherent.pending_of_id hpending hrow hid).2] at hstatus
      cases hstatus
  exact book_congr rfl rfl hrows

variable {data : Confirmation} {req : SettleRequest} {receiptId : String}

/-- The receipt that `settlePayment` writes for a row of this request. -/
theorem Sound.confirmSettlement (h : db.Sound)
    (hpending : db.PendingRow settlementId req.paymentRequestId)
    (hcan : db.canConfirm settlementId data (settlementReceipt request req settlementId receiptId data)
      = true) :
    (db.confirmSettlement settlementId data
      (settlementReceipt request req settlementId receiptId data)).Sound where
  coherent := h.coherent.confirmSettlement hpending hcan rfl rfl rfl rfl rfl
  linked := ⟨h.linked.requests, h.linked.foreign⟩
  single := h.single
  owned := h.owned_update fun _ => rfl

/-- A request whose receipt can be stored is not settled. -/
theorem Sound.confirmedRow_of_canConfirm (h : db.Sound) {receipt : PaymentReceipt}
    (hcan : db.canConfirm settlementId data receipt = true) :
    db.confirmedRow receipt.requestId = none := by
  apply List.find?_eq_none.mpr
  intro row hrow hconfirmed
  have hboth : row.requestId = receipt.requestId ∧ row.settlementStatus = .confirmed := by
    simpa using hconfirmed
  obtain ⟨other, hreceipts, hagrees⟩ := h.coherent.confirmedRows row hrow hboth.2
  have hmem : other ∈ db.receiptsOf row.id := hreceipts ▸ List.mem_singleton_self _
  simp only [canConfirm, Bool.and_eq_true, List.all_eq_true, decide_eq_true_eq] at hcan
  exact (hcan.2 other (List.mem_filter.mp hmem).1).2 (hagrees.1.trans hboth.1)

theorem Sound.book_confirmSettlement (h : db.Sound)
    (hpending : db.PendingRow settlementId req.paymentRequestId)
    (hcan : db.canConfirm settlementId data (settlementReceipt request req settlementId receiptId data)
      = true)
    (hjoins : db.Joins request verification) (hid : request.id = req.paymentRequestId) :
    (db.confirmSettlement settlementId data
        (settlementReceipt request req settlementId receiptId data)).book
      = db.book.keep request.id (termsOf request verification) (data.payout settlementId) := by
  have hsound := h.confirmSettlement hpending hcan
  obtain ⟨row, hrow, hrowId, hrequestId, -⟩ := hpending
  funext id
  by_cases hsame : id = request.id
  · subst hsame
    have hjoins' : (db.confirmSettlement settlementId data
        (settlementReceipt request req settlementId receiptId data)).Joins request verification := hjoins
    have hconfirmed : (db.confirmSettlement settlementId data
        (settlementReceipt request req settlementId receiptId data)).confirmedRow request.id
          = some (row.confirm data) :=
      (confirmedRow_eq_some_iff hsound.coherent).mpr
        ⟨mem_update_of_eq hrow hrowId, hrequestId.trans hid.symm, rfl⟩
    rw [hsound.book_of_joins hjoins', hconfirmed, Book.keep_self]
    simp [PaymentSettlement.payout, PaymentSettlement.confirm, Confirmation.payout, hrowId]
  · rw [Book.keep_of_ne _ _ _ hsame]
    have hrows : (db.confirmSettlement settlementId data
        (settlementReceipt request req settlementId receiptId data)).confirmedRow id
          = db.confirmedRow id := by
      ext other
      rw [confirmedRow_eq_some_iff hsound.coherent, confirmedRow_eq_some_iff h.coherent]
      constructor
      · rintro ⟨hother, hrequest, hstatus⟩
        rcases mem_update.mp hother with ⟨hold, -⟩ | ⟨old, hold, holdId, rfl⟩
        · exact ⟨hold, hrequest, hstatus⟩
        · obtain rfl := h.coherent.ids.eq hold hrow (holdId.trans hrowId.symm)
          exact absurd (hrequest.symm.trans (hrequestId.trans hid.symm)) hsame
      · rintro ⟨hother, hrequest, hstatus⟩
        refine ⟨mem_update_of_ne hother fun hotherId => ?_, hrequest, hstatus⟩
        obtain rfl := h.coherent.ids.eq hother hrow (hotherId.trans hrowId.symm)
        exact absurd (hrequest.symm.trans (hrequestId.trans hid.symm)) hsame
    simp only [book, hrows]
    rfl

/-- No other payment has been settled with this transaction. -/
theorem Sound.distinct_of_canConfirm (h : db.Sound)
    (hpending : db.PendingRow settlementId requestId) {receipt : PaymentReceipt}
    (hcan : db.canConfirm settlementId data receipt = true) {id : String} {entry : PaymentEntry}
    {kept : Payout} (hentry : db.book id = some entry) (hkept : entry.kept = some kept) :
    kept.txHash ≠ data.txHash := by
  obtain ⟨request', verification', -, -, rfl⟩ := exists_joins_of_book hentry
  obtain ⟨row, hconfirmed, rfl⟩ := Option.map_eq_some_iff.mp hkept
  obtain ⟨hrow, -, hstatus⟩ := (confirmedRow_eq_some_iff h.coherent).mp hconfirmed
  obtain ⟨other, -, -, hhash, -⟩ := h.coherent.confirmedRows row hrow hstatus
  simp only [canConfirm, Bool.and_eq_true, List.all_eq_true, decide_eq_true_eq] at hcan
  rcases hcan.1.2 row hrow with hid | hne
  · rw [(h.coherent.pending_of_id hpending hrow hid).2] at hstatus
    cases hstatus
  · rw [hhash] at hne
    simpa [PaymentSettlement.payout, hhash] using hne

end Decide

end Db

end Payment

end FacilitatorX402
