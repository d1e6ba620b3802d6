import FacilitatorX402.Library.Buckets
import FacilitatorX402.Proof.ReferralLedger
import FacilitatorX402.Proof.StoredPayment

/-!
# The volume of a seller

The months are buckets that meet, so the volumes of one text add up. But the database compares the
texts, and a seller is stored in the letter case of the payer: an address whose digits have a letter is
two sellers as soon as a payment to it is settled.
-/

namespace FacilitatorX402

open Interact KeyedRows

/-! ### The spellings of an address -/

namespace HexString

variable {n : Nat}

/-- No digit has two letter cases. -/
def Unlettered (hex : HexString n) : Prop := ∀ c ∈ hex.digits, c.isDigit = true

theorem toLower_injOn {left right : List Char} (hleft : left.all HexText.isDigit = true)
    (hright : right.all HexText.isDigit = true) (hdigits : ∀ c ∈ right, c.isDigit = true)
    (h : left.map Char.toLower = right.map Char.toLower) : left = right := by
  have hall : HexText.digits.Forall fun c => HexText.digits.Forall fun d => d.isDigit = true →
      c.toLower = d.toLower → c = d := by decide +kernel
  have hchar := fun c hc =>
    List.forall_iff_forall_mem.mp (List.forall_iff_forall_mem.mp hall c hc)
  induction left generalizing right with
  | nil => simpa using h.symm
  | cons c left ih =>
      cases right with
      | nil => simp at h
      | cons d right =>
          simp only [List.map_cons, List.cons.injEq, List.all_cons, Bool.and_eq_true, HexText.isDigit,
            List.contains_iff_mem, List.mem_cons, forall_eq_or_imp] at h hleft hright hdigits
          rw [hchar c hleft.1 d hright.1 hdigits.1 h.1,
            ih (by simpa [HexText.isDigit] using hleft.2) (by simpa [HexText.isDigit] using hright.2)
              hdigits.2 h.2]

theorem ext_digits {left right : HexString n} (h : left.digits = right.digits) : left = right := by
  have htext : left.text = right.text := by
    rw [← String.toList_inj, left.toList_text, right.toList_text, h]
  cases left
  cases right
  cases htext
  rfl

theorem lower_eq_lower_iff {left right : HexString n} :
    left.lower = right.lower ↔ left.digits.map Char.toLower = right.digits.map Char.toLower := by
  rw [← String.toList_inj, left.toList_lower, right.toList_lower]
  simp

/-- An address has one spelling exactly when its digits have no letter. -/
theorem unlettered_iff (hex : HexString n) :
    hex.Unlettered ↔ ∀ other : HexString n, other.lower = hex.lower → other = hex := by
  constructor
  · intro hdigits other hsame
    exact ext_digits (toLower_injOn other.all_digits hex.all_digits hdigits
      (lower_eq_lower_iff.mp hsame))
  · intro hsingle c hc
    have hall : HexText.digits.Forall fun c =>
        (HexText.isDigit c.toUpper = true ∧ c.toUpper.toLower = c.toLower) ∧
        (HexText.isDigit c.toLower = true ∧ c.toLower.toLower = c.toLower) ∧
        (c.toUpper = c.toLower → c.isDigit = true) := by
      decide +kernel
    have hchar := List.forall_iff_forall_mem.mp hall
    have hmem : ∀ c ∈ hex.digits, c ∈ HexText.digits := fun c hc => by
      simpa [HexText.isDigit] using List.all_eq_true.mp hex.all_digits c hc
    -- a change of letter case gives the digits back
    have hcase : ∀ f : Char → Char, (∀ c ∈ HexText.digits,
        HexText.isDigit (f c) = true ∧ (f c).toLower = c.toLower) → hex.digits.map f = hex.digits := by
      intro f hf
      have hall : (hex.digits.map f).all HexText.isDigit = true := by
        simpa using fun c hc => (hf c (hmem c hc)).1
      have hother := hsingle (ofDigits (hex.digits.map f)
        ((List.length_map f).trans hex.length_digits) hall) (by
          rw [lower_eq_lower_iff, digits_ofDigits, List.map_map]
          exact List.map_congr_left fun c hc => (hf c (hmem c hc)).2)
      simpa using congrArg HexString.digits hother
    have hupper := hcase Char.toUpper fun c hc => (hchar c hc).1
    have hlower := hcase Char.toLower fun c hc => (hchar c hc).2.1
    exact (hchar c (hmem c hc)).2.2 (List.map_inj_left.mp (hupper.trans hlower.symm) c hc)

end HexString

/-- Whether a text is a spelling of an address. -/
def Address.names (seller : Address) (text : String) : Bool :=
  (HexString.ofText? (2 * 20) text).any (·.lower = seller.lower)

theorem Address.names_iff {seller : Address} {text : String} :
    Address.names seller text = true ↔
      ∃ spelled : Address, spelled.lower = seller.lower ∧ spelled.text = text := by
  rw [Address.names]
  constructor
  · intro h
    obtain ⟨spelled, hspelled, hsame⟩ := Option.any_eq_true _ _ |>.mp h
    refine ⟨spelled, of_decide_eq_true hsame, ?_⟩
    unfold HexString.ofText? at hspelled
    split at hspelled
    · cases hspelled
      rfl
    · cases hspelled
  · rintro ⟨spelled, hsame, rfl⟩
    rw [HexString.ofText?, dif_pos spelled.wf, Option.any_some]
    exact decide_eq_true hsame

namespace Payment

/-! ### Volumes -/

/-- The confirmed payments that the database finds for a text. -/
def Db.confirmedTo (db : Db) (seller : String) : List PaymentSettlement :=
  db.settlements.filter fun row =>
    row.settlementStatus = .confirmed ∧ db.paidBy seller row.requestId

/-- The confirmed payments to an address, however its sellers are spelled. -/
def Db.paidTo (db : Db) (seller : Address) : List PaymentSettlement :=
  db.settlements.filter fun row =>
    row.settlementStatus = .confirmed ∧
      (db.requestOf row.requestId).any fun request => Address.names seller request.seller

section Volume

variable {calendar : Calendar} {createdAt : PaymentSettlement → Nat} {db : Db}

theorem monthlyVolume_eq_total (seller : String) (year month : Int) :
    getMonthlyVolumeForSeller calendar createdAt db seller year month =
      Buckets.total db.grossOf (fun row => createdAt row) (db.confirmedTo seller)
        (calendar.date year (month - 1)) (calendar.date year month) := by
  rw [getMonthlyVolumeForSeller, foldl_add, zero_add, Buckets.total, Db.confirmedTo, List.filter_filter]
  refine congrArg (fun rows => (List.map db.grossOf rows).sum) (List.filter_congr fun row _ => ?_)
  simp only [Bool.decide_and, Bool.decide_eq_true]
  ac_rfl

/-- A month by its number from January of year 0, past the years that stand for others. -/
theorem monthlyVolume_month (seller : String) {month : Int} (h : 1200 ≤ month) :
    getMonthlyVolumeForSeller calendar createdAt db seller (month / 12) (month % 12 + 1) =
      Buckets.total db.grossOf (fun row => createdAt row) (db.confirmedTo seller)
        (calendar.start month) (calendar.start (month + 1)) := by
  have hyear : fullYear (month / 12) = month / 12 := by
    rw [fullYear, if_neg (by omega)]
  have hfirst : 12 * (month / 12) + (month % 12 + 1 - 1) = month := by omega
  have hlast : 12 * (month / 12) + (month % 12 + 1) = month + 1 := by omega
  rw [monthlyVolume_eq_total, Calendar.date, Calendar.date, hyear, hfirst, hlast]

/-- No payment is lost between the months, and none counts in two. -/
theorem sum_monthlyVolume (seller : String) {first : Int} (hfirst : 1200 ≤ first) {count : Nat}
    (h : ∀ row ∈ db.confirmedTo seller, calendar.start first ≤ createdAt row ∧
      createdAt row < calendar.start (first + count)) :
    ((List.range count).map fun n : Nat => getMonthlyVolumeForSeller calendar createdAt db seller
        ((first + n) / 12) ((first + n) % 12 + 1)).sum =
      ((db.confirmedTo seller).map db.grossOf).sum := by
  rw [← Buckets.total_eq_sum db.grossOf (fun row => (createdAt row : Int)) h,
    ← Buckets.sum_total _ _ _ calendar.mono]
  exact congrArg List.sum (List.map_congr_left fun n _ => monthlyVolume_month seller (by omega))

end Volume

/-! ### One address under several texts -/

/-- The reports of a seller are the same under every spelling of the address, and the volumes of all
months add up to what was paid to it. -/
structure Db.ReportsByAddress (calendar : Calendar) (createdAt : PaymentSettlement → Nat)
    (print : Json → String) (issuedAt : PaymentReceipt → Nat) (db : Db) (seller : Address) : Prop where
  volume : ∀ left right : Address, left.lower = seller.lower → right.lower = seller.lower →
    ∀ year month, getMonthlyVolumeForSeller calendar createdAt db left.text year month =
      getMonthlyVolumeForSeller calendar createdAt db right.text year month
  receipts : ∀ left right : Address, left.lower = seller.lower → right.lower = seller.lower →
    ∀ opts, listReceiptsBySeller print issuedAt left.text db opts =
      listReceiptsBySeller print issuedAt right.text db opts
  total : ∀ spelled : Address, spelled.lower = seller.lower → ∀ (first : Int) (count : Nat),
    1200 ≤ first →
    (∀ row ∈ db.paidTo seller, calendar.start first ≤ createdAt row ∧
      createdAt row < calendar.start (first + count)) →
    ((List.range count).map fun n : Nat => getMonthlyVolumeForSeller calendar createdAt db
        spelled.text ((first + n) / 12) ((first + n) % 12 + 1)).sum =
      ((db.paidTo seller).map db.grossOf).sum

/-- No receipt has been written for a payment to an address. -/
def Db.NoReceiptTo (db : Db) (seller : Address) : Prop :=
  ∀ receipt ∈ db.receipts, ∀ request, db.requestOf receipt.requestId = some request →
    Address.names seller request.seller = false

/-- Every confirmed row has a receipt for its request. -/
def Db.Receipted (db : Db) : Prop :=
  ∀ row ∈ db.settlements, row.settlementStatus = .confirmed →
    ∃ receipt ∈ db.receipts, receipt.requestId = row.requestId

section Reports

variable {calendar : Calendar} {createdAt : PaymentSettlement → Nat} {print : Json → String}
  {issuedAt : PaymentReceipt → Nat} {db : Db} {seller spelled : Address}

theorem Db.paidBy_iff {text requestId : String} :
    db.paidBy text requestId = true ↔
      ∃ request, db.requestOf requestId = some request ∧ request.seller = text := by
  rw [Db.paidBy, Option.any_eq_true]
  exact exists_congr fun request => and_congr_right fun _ => decide_eq_true_iff

theorem Db.paidBy_unnamed (h : db.NoReceiptTo seller) (hspelled : spelled.lower = seller.lower)
    {receipt : PaymentReceipt} (hreceipt : receipt ∈ db.receipts) :
    db.paidBy spelled.text receipt.requestId = false := by
  refine Bool.eq_false_iff.mpr fun hpaid => ?_
  obtain ⟨request, hrequest, htext⟩ := Db.paidBy_iff.mp hpaid
  have hnamed := Address.names_iff.mpr ⟨spelled, hspelled, htext.symm⟩
  rw [h receipt hreceipt request hrequest] at hnamed
  cases hnamed

theorem Db.paidTo_eq_nil (hreceipted : db.Receipted) (h : db.NoReceiptTo seller) :
    db.paidTo seller = [] := by
  refine List.filter_eq_nil_iff.mpr fun row hrow hpaid => ?_
  obtain ⟨hstatus, hnamed⟩ := of_decide_eq_true hpaid
  obtain ⟨request, hrequest, hnames⟩ := Option.any_eq_true _ _ |>.mp hnamed
  obtain ⟨receipt, hreceipt, hsame⟩ := hreceipted row hrow hstatus
  rw [h receipt hreceipt request (hsame ▸ hrequest)] at hnames
  cases hnames

theorem Db.confirmedTo_subset (hspelled : spelled.lower = seller.lower) :
    ∀ row ∈ db.confirmedTo spelled.text, row ∈ db.paidTo seller := by
  intro row hrow
  obtain ⟨hmem, hboth⟩ := List.mem_filter.mp hrow
  obtain ⟨hstatus, hpaid⟩ := of_decide_eq_true hboth
  obtain ⟨request, hrequest, htext⟩ := Db.paidBy_iff.mp hpaid
  refine List.mem_filter.mpr ⟨hmem, decide_eq_true ⟨hstatus, ?_⟩⟩
  exact Option.any_eq_true _ _ |>.mpr
    ⟨request, hrequest, Address.names_iff.mpr ⟨spelled, hspelled, htext.symm⟩⟩

theorem Db.reports_of_unlettered (h : seller.Unlettered) :
    db.ReportsByAddress calendar createdAt print issuedAt seller := by
  have hsingle := seller.unlettered_iff.mp h
  have hnames : ∀ text, Address.names seller text = decide (text = seller.text) := by
    intro text
    rw [Bool.eq_iff_iff, Address.names_iff, decide_eq_true_iff]
    constructor
    · rintro ⟨spelled, hsame, rfl⟩
      rw [hsingle spelled hsame]
    · rintro rfl
      exact ⟨seller, rfl, rfl⟩
  have hpaid : db.paidTo seller = db.confirmedTo seller.text := by
    refine List.filter_congr fun row _ => decide_eq_decide.mpr (and_congr_right fun _ => ?_)
    rw [Db.paidBy, funext fun request : PaymentRequest => hnames request.seller]
  refine ⟨fun left right hleft hright _ _ => ?_, fun left right hleft hright _ => ?_,
    fun spelled hspelled first count hfirst hcover => ?_⟩
  · rw [hsingle left hleft, hsingle right hright]
  · rw [hsingle left hleft, hsingle right hright]
  · rw [hsingle spelled hspelled, hpaid]
    exact sum_monthlyVolume seller.text hfirst (hpaid ▸ hcover)

theorem Db.reports_of_noReceipt (hreceipted : db.Receipted) (h : db.NoReceiptTo seller) :
    db.ReportsByAddress calendar createdAt print issuedAt seller := by
  have hnone : ∀ spelled : Address, spelled.lower = seller.lower →
      db.confirmedTo spelled.text = [] := by
    intro spelled hspelled
    refine List.eq_nil_iff_forall_not_mem.mpr fun row hrow => ?_
    have hpaid := Db.confirmedTo_subset hspelled row hrow
    rw [Db.paidTo_eq_nil hreceipted h] at hpaid
    cases hpaid
  have hunpaid : ∀ spelled : Address, spelled.lower = seller.lower →
      db.receipts.filter (fun receipt => db.paidBy spelled.text receipt.requestId) = [] := by
    intro spelled hspelled
    refine List.filter_eq_nil_iff.mpr fun receipt hreceipt => ?_
    rw [Db.paidBy_unnamed h hspelled hreceipt]
    exact Bool.false_ne_true
  refine ⟨fun left right hleft hright year month => ?_, fun left right hleft hright opts => ?_,
    fun spelled hspelled first count hfirst _ => ?_⟩
  · rw [monthlyVolume_eq_total, monthlyVolume_eq_total, hnone left hleft, hnone right hright]
  · rw [listReceiptsBySeller, listReceiptsBySeller, hunpaid left hleft, hunpaid right hright]
  · rw [sum_monthlyVolume spelled.text hfirst (by simp [hnone spelled hspelled]), hnone spelled hspelled,
      Db.paidTo_eq_nil hreceipted h]

/-- The page that is shown unless another is asked for. -/
theorem firstPage_eq (text : String) :
    listReceiptsBySeller print issuedAt text db ⟨none, none⟩ =
      .ok ((((db.receipts.filter fun receipt => db.paidBy text receipt.requestId).mergeSort
        fun receipt other => issuedAt other ≤ issuedAt receipt).take 20).map fun receipt =>
          receiptDTO print (db.joinReceipt issuedAt receipt)) := rfl

theorem exists_receipt_of_firstPage {text : String} {receipt : PaymentReceipt}
    (hreceipt : receipt ∈ db.receipts) (hpaid : db.paidBy text receipt.requestId = true) :
    ∃ first rest, listReceiptsBySeller print issuedAt text db ⟨none, none⟩ = .ok (first :: rest) := by
  have hmem : receipt ∈ db.receipts.filter fun receipt => db.paidBy text receipt.requestId :=
    List.mem_filter.mpr ⟨hreceipt, hpaid⟩
  rw [firstPage_eq]
  cases hrows : (db.receipts.filter fun receipt => db.paidBy text receipt.requestId).mergeSort
      fun receipt other => issuedAt other ≤ issuedAt receipt with
  | nil =>
      rw [← List.mem_mergeSort, hrows] at hmem
      cases hmem
  | cons first rest => exact ⟨_, _, rfl⟩

theorem paidBy_of_mem_firstPage {text : String} {receipts : List ReceiptDTO}
    (h : listReceiptsBySeller print issuedAt text db ⟨none, none⟩ = .ok receipts) {dto : ReceiptDTO}
    (hdto : dto ∈ receipts) : db.paidBy text dto.requestId = true := by
  rw [firstPage_eq] at h
  obtain rfl := Except.ok.inj h
  obtain ⟨receipt, hreceipt, rfl⟩ := List.mem_map.mp hdto
  have hrow := List.mem_mergeSort.mp (List.mem_of_mem_take hreceipt)
  exact (List.mem_filter.mp hrow).2

/-- Two spellings of an address with a receipt show different receipts. -/
theorem Db.ReportsByAddress.only
    (h : db.ReportsByAddress calendar createdAt print issuedAt seller) :
    seller.Unlettered ∨ db.NoReceiptTo seller := by
  by_contra hneither
  obtain ⟨hlettered, hpaid⟩ := not_or.mp hneither
  simp only [Db.NoReceiptTo, not_forall] at hpaid
  obtain ⟨receipt, hreceipt, request, hrequest, hnamed⟩ := hpaid
  obtain ⟨spelled, hspelled, htext⟩ := Address.names_iff.mp (Bool.eq_true_of_not_eq_false hnamed)
  have hone : ∀ other : Address, other.lower = seller.lower → other = spelled := by
    intro other hother
    obtain ⟨first, rest, hpage⟩ := @exists_receipt_of_firstPage print issuedAt db spelled.text receipt
      hreceipt (Db.paidBy_iff.mpr ⟨request, hrequest, htext.symm⟩)
    have hsame := (h.receipts other spelled hother hspelled ⟨none, none⟩).trans hpage
    obtain ⟨left, hleft, hleftText⟩ := Db.paidBy_iff.mp
      (paidBy_of_mem_firstPage hsame List.mem_cons_self)
    obtain ⟨right, hright, hrightText⟩ := Db.paidBy_iff.mp
      (paidBy_of_mem_firstPage hpage List.mem_cons_self)
    obtain rfl := Option.some.inj (hleft.symm.trans hright)
    have htexts := hleftText.symm.trans hrightText
    cases other
    cases spelled
    cases htexts
    rfl
  exact hlettered (seller.unlettered_iff.mpr fun other hother => by rw [hone other hother, hone seller rfl])

theorem Db.reports_iff (hreceipted : db.Receipted) :
    db.ReportsByAddress calendar createdAt print issuedAt seller ↔
      seller.Unlettered ∨ db.NoReceiptTo seller := by
  refine ⟨Db.ReportsByAddress.only, ?_⟩
  rintro (hunlettered | hunpaid)
  · exact Db.reports_of_unlettered hunlettered
  · exact Db.reports_of_noReceipt hreceipted hunpaid

end Reports

/-! ### What calls do to the sales -/

/-- The operations that touch neither a settlement nor a receipt. -/
def Op.OffSales : Op → Prop
  | .createSettlement _ => False
  | .failSettlement _ => False
  | .confirmSettlement _ _ _ => False
  | _ => True

/-- A settlement keeps to the rules of the ledger, and a verification leaves the sales alone. -/
def salesRules (host : Host) (registry : NetworkRegistry) :
    PaymentCall → Protocol interface Err LedgerPhase
  | .verify _ =>
      { allowed := fun _ => Op.OffSales
        trans := fun phase _ _ phase' => phase' = phase }
  | .settle config req =>
      ledgerRules { host := host, networkRegistry := registry, config := config } req

section Sat

variable {host : Host} {registry : NetworkRegistry}

theorem offSales_verifyChecked (network : NetworkConfig) (asset : FoundAsset) (req : VerifyRequest)
    (requestId : String) : (verifyChecked host network asset req requestId).Only Op.OffSales := by
  have hpersist : ∀ signatureHash verifiedAt,
      (persistVerified host req requestId signatureHash verifiedAt).Only Op.OffSales := by
    intro signatureHash verifiedAt
    apply (@only_op Op.OffSales .generateId trivial).bind
    intro verificationId
    apply (@only_op Op.OffSales (.createVerified _ _) trivial).bind
    intro created
    split <;> trivial
  apply (@only_op Op.OffSales .now trivial).bind
  intro nowMs
  apply (Program.only_ofExcept _).bind
  intro checked
  apply (only_claimPayment (fun _ => trivial) _ _ _).bind
  intro claimed
  apply (only_checkSigner (fun _ => trivial) network asset req _ requestId).bind
  intro signed
  apply (@only_op Op.OffSales .now trivial).bind
  intro verifiedAt
  exact (hpersist _ _).tryCatch fun _ =>
    (only_releaseClaims (fun _ => trivial) _ _).bind fun _ => trivial

theorem offSales_verifyPayment (rawBody : Json) :
    (verifyPayment host registry rawBody).Only Op.OffSales := by
  unfold verifyPayment
  split
  · trivial
  · apply (@only_op Op.OffSales .generateId trivial).bind
    intro requestId
    split
    · trivial
    · split
      · trivial
      · exact offSales_verifyChecked _ _ _ _

theorem sales_paymentCall (call : PaymentCall) :
    (call.program host registry).Sat (salesRules host registry call) .begun fun _ _ => True := by
  cases call with
  | verify rawBody =>
      have honly : ((PaymentCall.verify rawBody).program host registry).Only Op.OffSales :=
        (offSales_verifyPayment rawBody).bind fun _ => trivial
      have hstays : ((PaymentCall.verify rawBody).program host registry).Sat
          (salesRules host registry (.verify rawBody)) .begun fun phase _ => phase = .begun :=
        honly.sat (fun _ hoff => hoff) fun _ _ _ _ htrans => htrans
      exact hstays.mono fun _ _ _ => trivial
  | settle config req =>
      rw [PaymentCall.program, Program.sat_bind']
      apply ledger_settlePayment.mono
      rintro phase (error | reply) - <;> trivial

end Sat

/-! ### The tables -/

/-- What a call confirms is its own row, and every confirmed row has a receipt. -/
structure SalesInv {ι : Type} (call : ι → PaymentCall) (db : Db) (phase : ι → LedgerPhase) : Prop where
  ids : Unique (·.id) db.settlements
  created : ∀ who request settlementId, phase who = .created request settlementId →
    ∃ config req, call who = .settle config req ∧ db.OwnRow settlementId req
  receipted : db.Receipted

theorem exec_offSales {ι : Type} {faults : Faults} {who : ι} {world world' : World ι} {op : Op}
    {outcome : Outcome} {answer : Except Err (interface.Ans op)} (hoff : op.OffSales)
    (hexec : (machine ι faults).exec who world op outcome = some (answer, world')) :
    world'.db.settlements = world.db.settlements ∧ world'.db.receipts = world.db.receipts := by
  cases op with
  | redis command => rw [(exec_redis hexec).2]; exact ⟨rfl, rfl⟩
  | chain op => rw [(exec_chain hexec).2.1]; exact ⟨rfl, rfl⟩
  | now => rw [(exec_now hexec).1]; exact ⟨rfl, rfl⟩
  | generateId => rw [(exec_generateId hexec).1]; exact ⟨rfl, rfl⟩
  | findPaymentRequest id => rw [(exec_findPaymentRequest hexec).1]; exact ⟨rfl, rfl⟩
  | findConfirmedSettlement requestId =>
      rw [(exec_findConfirmedSettlement hexec).1]
      exact ⟨rfl, rfl⟩
  | createVerified request verification =>
      rcases exec_createVerified hexec with ⟨-, rfl⟩ | ⟨-, rfl⟩ <;> exact ⟨rfl, rfl⟩
  | createSettlement row => exact hoff.elim
  | failSettlement id => exact hoff.elim
  | confirmSettlement id data receipt => exact hoff.elim

/-- Only the creation of a row makes a call the owner of one. -/
theorem LedgerPhase.next_created {phase : LedgerPhase} {op : Op} {answer : Except Err (interface.Ans op)}
    (hop : ∀ row, op ≠ .createSettlement row) {request : PaymentRequest} {settlementId : String}
    (h : phase.next op answer = .created request settlementId) :
    phase = .created request settlementId := by
  cases op with
  | createSettlement row => exact absurd rfl (hop row)
  | findPaymentRequest id =>
      rcases answer with error | _ | ⟨found, verifications⟩
      · cases phase <;> exact h
      · cases phase <;> exact h
      · cases phase <;> cases h
  | _ => cases phase <;> exact h

section Sales

variable {ι : Type} {host : Host} {registry : NetworkRegistry} {call : ι → PaymentCall} {db : Db}
  {phase : ι → LedgerPhase}

theorem SalesInv.move [DecidableEq ι] (h : SalesInv call db phase) {who : ι} {phase' : LedgerPhase}
    (hcreated : ∀ request settlementId, phase' = .created request settlementId →
      ∃ config req, call who = .settle config req ∧ db.OwnRow settlementId req) :
    SalesInv call db (Function.update phase who phase') := by
  refine { h with created := fun other request settlementId hother => ?_ }
  by_cases heq : other = who
  · subst heq
    rw [Function.update_self] at hother
    exact hcreated request settlementId hother
  · rw [Function.update_of_ne heq] at hother
    exact h.created other request settlementId hother

theorem SalesInv.tables (h : SalesInv call db phase) {db' : Db}
    (hsettlements : db'.settlements = db.settlements) (hreceipts : db'.receipts = db.receipts) :
    SalesInv call db' phase where
  ids := by rw [hsettlements]; exact h.ids
  created := by
    simp only [Db.OwnRow, hsettlements]
    exact h.created
  receipted := by
    simp only [Db.Receipted, hsettlements, hreceipts]
    exact h.receipted

theorem SalesInv.createSettlement (h : SalesInv call db phase) {row : PaymentSettlement}
    (hfresh : ∀ other ∈ db.settlements, other.id ≠ row.id) (hstatus : row.settlementStatus = .pending) :
    SalesInv call (db.createSettlement row) phase where
  ids := h.ids.append hfresh
  created who request id hphase := by
    obtain ⟨config, req, hcall, other, hother, hrest⟩ := h.created who request id hphase
    exact ⟨config, req, hcall, other, List.mem_append_left _ hother, hrest⟩
  receipted other hother hconfirmed := by
    rcases List.mem_append.mp hother with hold | hnew
    · exact h.receipted other hold hconfirmed
    · rw [List.mem_singleton.mp hnew, hstatus] at hconfirmed
      cases hconfirmed

theorem SalesInv.failSettlement (h : SalesInv call db phase) (id : String) :
    SalesInv call (db.updateSettlement id (·.fail)) phase where
  ids := h.ids.update fail_id _
  created who request id hphase := by
    obtain ⟨config, req, hcall, hown⟩ := h.created who request id hphase
    exact ⟨config, req, hcall, hown.update (fun _ => rfl) (fun _ => rfl) fun _ => rfl⟩
  receipted row hrow hconfirmed := by
    rcases mem_update.mp hrow with ⟨hold, -⟩ | ⟨old, -, -, rfl⟩
    · exact h.receipted row hold hconfirmed
    · cases hconfirmed

/-- A call confirms the row it has created, with a receipt for the request of that row. -/
theorem SalesInv.confirmSettlement (h : SalesInv call db phase) {who : ι} {request : PaymentRequest}
    {settlementId : String} (hphase : phase who = .created request settlementId)
    {config : FacilitatorConfig} {req : SettleRequest} (hcall : call who = .settle config req)
    {data : Confirmation} {receipt : PaymentReceipt} (hrequest : receipt.requestId = req.paymentRequestId) :
    SalesInv call (db.confirmSettlement settlementId data receipt) phase where
  ids := h.ids.update (confirm_id data) _
  created other request id hother := by
    obtain ⟨config, req, hcall, hown⟩ := h.created other request id hother
    exact ⟨config, req, hcall, hown.update (fun _ => rfl) (fun _ => rfl) fun _ => rfl⟩
  receipted row hrow hconfirmed := by
    rcases mem_update.mp hrow with ⟨hold, -⟩ | ⟨old, hold, hid, rfl⟩
    · obtain ⟨other, hother, hsame⟩ := h.receipted row hold hconfirmed
      exact ⟨other, List.mem_append_left _ hother, hsame⟩
    · obtain ⟨config', req', hcall', own, hown, hownId, hownRequest, -⟩ :=
        h.created who request settlementId hphase
      rw [hcall] at hcall'
      cases hcall'
      obtain rfl : old = own := h.ids.eq hold hown (hid.trans hownId.symm)
      exact ⟨receipt, List.mem_append_right _ (List.mem_singleton_self _),
        hrequest.trans hownRequest.symm⟩

theorem SalesInv.step [DecidableEq ι] {faults : Faults} {world world' : World ι} {who : ι} {op : Op}
    {outcome : Outcome} {answer : Except Err (interface.Ans op)} {phase' : LedgerPhase}
    (h : SalesInv call world.db phase)
    (hallowed : (salesRules host registry (call who)).allowed (phase who) op)
    (htrans : (salesRules host registry (call who)).trans (phase who) op answer phase')
    (hexec : (machine ι faults).exec who world op outcome = some (answer, world')) :
    SalesInv call world'.db (Function.update phase who phase') := by
  cases hcall : call who with
  | verify rawBody =>
      rw [hcall] at hallowed htrans
      obtain rfl : phase' = phase who := htrans
      obtain ⟨hsettlements, hreceipts⟩ := exec_offSales hallowed hexec
      rw [Function.update_eq_self]
      exact h.tables hsettlements hreceipts
  | settle config req =>
      rw [hcall] at hallowed htrans
      obtain rfl : phase' = (phase who).next op answer := htrans
      -- an operation other than the creation of a row gives its call no row
      have hmove : (∀ row, op ≠ .createSettlement row) → SalesInv call world'.db phase →
          SalesInv call world'.db (Function.update phase who ((phase who).next op answer)) := by
        intro hop hinv
        refine hinv.move fun request settlementId hnext => ?_
        exact hinv.created who request settlementId (LedgerPhase.next_created hop hnext)
      have hoff : op.OffSales →
          SalesInv call world'.db (Function.update phase who ((phase who).next op answer)) := by
        intro hoff
        obtain ⟨hsettlements, hreceipts⟩ := exec_offSales hoff hexec
        refine hmove ?_ (h.tables hsettlements hreceipts)
        rintro row rfl
        exact hoff
      cases op with
      | createSettlement row =>
          obtain ⟨hrequest, hcode, hpending⟩ := hallowed
          rcases exec_createSettlement hexec with ⟨hfresh, rfl⟩ | ⟨⟨error, rfl⟩, rfl⟩
          · have hinv := h.createSettlement hfresh hpending
            refine hinv.move fun request settlementId hnext => ?_
            cases hphase : phase who with
            | found request' =>
                rw [hphase] at hnext
                cases answer with
                | error error => cases hnext
                | ok created =>
                    cases hnext
                    exact ⟨config, req, hcall, row,
                      List.mem_append_right _ (List.mem_singleton_self _), rfl, hrequest, hcode⟩
            | begun =>
                rw [hphase] at hnext
                cases hnext
            | created request' id' =>
                rw [hphase] at hnext
                cases hnext
                exact hinv.created who _ _ hphase
          · refine h.move fun request settlementId hnext => ?_
            cases hphase : phase who with
            | created request' id' =>
                rw [hphase] at hnext
                cases hnext
                exact h.created who _ _ hphase
            | _ =>
                rw [hphase] at hnext
                cases hnext
      | failSettlement id =>
          refine hmove (fun _ hop => by cases hop) ?_
          rcases exec_failSettlement hexec with rfl | ⟨-, rfl⟩
          · exact h.failSettlement id
          · exact h
      | confirmSettlement id data receipt =>
          refine hmove (fun _ hop => by cases hop) ?_
          obtain ⟨request, hphase, -, hrequest, -, -⟩ := hallowed
          rcases statement_cases (statement_of_transaction hexec) with ⟨-, rfl, -⟩ | ⟨-, rfl⟩
          · exact h.confirmSettlement hphase hcall hrequest
          · exact h
      | _ => exact hoff trivial

end Sales

/-! ### Every run -/

section Runs

variable {ι : Type} [DecidableEq ι] {faults : Faults} {host : Host} {registry : NetworkRegistry}
  {call : ι → PaymentCall} {start cfg : Config (machine ι faults) PaymentReply}

/-- Calls of both functions that have not begun, before anything was settled. -/
structure SalesStart (host : Host) (registry : NetworkRegistry) (call : ι → PaymentCall)
    (cfg : Config (machine ι faults) PaymentReply) : Prop where
  calls : ∀ who, cfg.calls who = (call who).program host registry
  settlements : cfg.world.db.settlements = []

theorem preserved_sales :
    Config.Preserved (M := machine ι faults) (fun who => salesRules host registry (call who))
      (fun _ _ (_ : Except Err PaymentReply) => True)
      (fun cfg phase => SalesInv call cfg.world.db phase) Config.anyStep where
  call cfg phase who op next outcome answer world hfollows _ hallowed hexec _ := by
    cases hcall : call who with
    | verify rawBody =>
        refine ⟨phase who, rfl, hfollows.inv.step hallowed ?_ hexec⟩
        rw [hcall]
        rfl
    | settle config req =>
        refine ⟨(phase who).next op answer, rfl, hfollows.inv.step hallowed ?_ hexec⟩
        rw [hcall]
        rfl
  env cfg phase event world hfollows henv := by
    rw [machine_env_db henv]
    exact hfollows.inv

theorem receipted_of_reachable (hstart : SalesStart host registry call start)
    (hreach : Config.Reachable Config.anyStep start cfg) : cfg.world.db.Receipted := by
  have hbegun : Config.Follows (M := machine ι faults) (fun who => salesRules host registry (call who))
      (fun _ _ (_ : Except Err PaymentReply) => True)
      (fun cfg phase => SalesInv call cfg.world.db phase) start fun _ => .begun :=
    { sat := fun who => by
        rw [hstart.calls]
        exact sales_paymentCall (call who)
      inv :=
        { ids := by rw [hstart.settlements]; exact List.nodup_nil
          created := by rintro _ _ _ ⟨⟩
          receipted := by simp [Db.Receipted, hstart.settlements] } }
  obtain ⟨phase, hfollows⟩ := hreach.follows preserved_sales hbegun
  exact hfollows.inv.receipted

/-- **The reports of a seller are those of an address exactly if it has one spelling or was never
paid.** In every run of verifications and settlements, whatever the calendar. -/
theorem seller_volume_iff (hstart : SalesStart host registry call start)
    (hreach : Config.Reachable Config.anyStep start cfg) (calendar : Calendar)
    (createdAt : PaymentSettlement → Nat) (print : Json → String) (issuedAt : PaymentReceipt → Nat)
    (seller : Address) :
    cfg.world.db.ReportsByAddress calendar createdAt print issuedAt seller ↔
      seller.Unlettered ∨ cfg.world.db.NoReceiptTo seller :=
  Db.reports_iff (receipted_of_reachable hstart hreach)

end Runs

/-! ### One payment -/

/-- One call verifies a payment, the other settles it. -/
def soldCall : Bool → PaymentCall
  | false => .verify (firstPayment 0).toJson
  | true => .settle sampleDeps.config sampleRequest

def soldStart : Config (machine Bool ⟨false, false⟩) PaymentReply where
  world := emptyWorld _
  calls
    | false => do return .verified (← verifyParsed trustingHost baseRegistry (firstPayment 0))
    | true => do return .settled (← settlePayment sampleDeps sampleRequest)
  history := []

theorem salesStart_soldStart : SalesStart trustingHost baseRegistry soldCall soldStart where
  calls who := by
    cases who with
    | false =>
        rw [soldCall, PaymentCall.program, verifyPayment_toJson]
        rfl
    | true => rfl
  settlements := rfl

def soldMoves : List (Move (machine Bool ⟨false, false⟩)) :=
  [.call false (.text "req-0"), .call false (.time 1700000000000), .call false (.fate .done),
    .call false (.fate .done), .call false (.time 1700000000000), .call false (.text "ver-0"),
    .call false (.fate .done)] ++ settleMoves true "set-0" "0x01" "rec-0"

theorem exists_sold : ∃ cfg, Config.Reachable Config.anyStep soldStart cfg ∧
    ∃ receipt ∈ cfg.world.db.receipts, ∃ request,
      cfg.world.db.requestOf receipt.requestId = some request ∧
        Address.names (repeatedHex _ 'b' rfl) request.seller = true := by
  obtain ⟨cfg, hreach, htest⟩ := Config.exists_reachable_of_run
    (show (soldStart.run soldMoves).map (fun cfg => cfg.world.db.receipts.any fun receipt =>
      (cfg.world.db.requestOf receipt.requestId).any fun request =>
        Address.names (repeatedHex _ 'b' rfl) request.seller) = some true by decide +kernel)
  obtain ⟨receipt, hreceipt, hany⟩ := List.any_eq_true.mp htest
  exact ⟨cfg, hreach, receipt, hreceipt, Option.any_eq_true _ _ |>.mp hany⟩

theorem seller_volume_unlettered : ∃ cfg, Config.Reachable Config.anyStep soldStart cfg ∧
    ∀ (calendar : Calendar) (createdAt : PaymentSettlement → Nat) (print : Json → String)
      (issuedAt : PaymentReceipt → Nat),
      cfg.world.db.ReportsByAddress calendar createdAt print issuedAt
        (repeatedHex _ '1' rfl) := by
  obtain ⟨cfg, hreach, -⟩ := exists_sold
  refine ⟨cfg, hreach, fun calendar createdAt print issuedAt => ?_⟩
  have hdigits : (repeatedHex (2 * 20) '1' rfl).digits.Forall fun c => c.isDigit = true := by
    decide +kernel
  exact (seller_volume_iff salesStart_soldStart hreach calendar createdAt print issuedAt
    (repeatedHex _ '1' rfl)).mpr (.inl (List.forall_iff_forall_mem.mp hdigits))

/-- The payment counts for one spelling of its seller and not for another. -/
theorem not_seller_volume : ∃ cfg, Config.Reachable Config.anyStep soldStart cfg ∧
    ∀ (calendar : Calendar) (createdAt : PaymentSettlement → Nat) (print : Json → String)
      (issuedAt : PaymentReceipt → Nat),
      ¬ cfg.world.db.ReportsByAddress calendar createdAt print issuedAt
        (repeatedHex _ 'b' rfl) := by
  obtain ⟨cfg, hreach, receipt, hreceipt, request, hrequest, hnamed⟩ := exists_sold
  refine ⟨cfg, hreach, fun calendar createdAt print issuedAt hreports => ?_⟩
  rcases hreports.only with hunlettered | hunpaid
  · have hletter := hunlettered 'b' (by decide)
    revert hletter
    decide
  · rw [hunpaid receipt hreceipt request hrequest] at hnamed
    cases hnamed

end Payment

end FacilitatorX402
