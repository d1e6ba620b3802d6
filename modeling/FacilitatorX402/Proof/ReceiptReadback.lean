import FacilitatorX402.Infrastructure.ConfirmSettlementWorker
import FacilitatorX402.Infrastructure.Receipts
import FacilitatorX402.Proof.PaymentRules

/-!
# Receipts read back

Each writer was written for one reader: `getReceiptById` reads every figure that `settlePayment` has
stored, and the route every figure of `runSettle` and of the worker. No receipt is read by both.
-/

namespace FacilitatorX402

open Interact

/-- The figures of a settlement. -/
structure Settled where
  gross : Int
  fee : Int
  developerShare : Int
  txHash : String

/-- The route reports the figures, and what the seller is left with. -/
structure ReadByRoute (settled : Settled) (receipt : RouteReceipt) : Prop where
  gross : receipt.grossAmount = .str (toString settled.gross)
  fee : receipt.feeAmount = .str (toString settled.fee)
  developerShare : receipt.developerShare = .str (toString settled.developerShare)
  txHash : receipt.txHash = .str settled.txHash
  net : receipt.netAmount = .str (toString (settled.gross - settled.fee))

/-- `getReceiptById` reports the figures. -/
structure ReadById (settled : Settled) (receipt : ReceiptDTO) : Prop where
  gross : receipt.amount = toString settled.gross
  fee : receipt.feeAmount = toString settled.fee
  developerShare : receipt.developerShare = toString settled.developerShare
  txHash : receipt.txHash = settled.txHash

/-- Both readers report the figures. -/
def ReadBack (settled : Settled) (print : Json → String) (receipt : FoundReceipt) : Prop :=
  ReadByRoute settled (routeReceipt receipt) ∧ ReadById settled (receiptDTO print receipt)

section Readers

variable {print : Json → String} {join : ReceiptJoin}

/-! ### The pairs that agree -/

theorem readById_settlePayment {paymentRequest : Payment.PaymentRequest} {req : Payment.SettleRequest}
    {settlementId receiptId : String} {onChainResult : OnChainResult} {fees : FeeBreakdown}
    {confirmedAt : Nat} :
    ReadById ⟨paymentRequest.amount, fees.platformFee, fees.developerShare, onChainResult.txHash⟩
      (receiptDTO print ((Payment.settlementReceipt paymentRequest req settlementId receiptId
        (Payment.confirmation onChainResult fees confirmedAt)).found join)) :=
  ⟨rfl, rfl, rfl, rfl⟩

theorem readByRoute_runSettle {opts : Service.SettleOpts} {paymentRequest : Service.PaymentRequest}
    {network : Service.NetworkConfig} {value : Int} {fees : Service.Fees} {settlementId receiptId : String}
    {onChainResult : OnChainResult} {confirmedAt : Nat}
    (hnet : fees.netAmount = value - fees.platformFee) :
    ReadByRoute ⟨value, fees.platformFee, fees.developerShare, onChainResult.txHash⟩
      (routeReceipt ((Service.settlementReceipt opts paymentRequest network value fees settlementId
        receiptId (Service.confirmation onChainResult fees confirmedAt)).found join)) :=
  ⟨rfl, rfl, rfl, rfl, by rw [← hnet]; rfl⟩

theorem readByRoute_worker {db : Service.Db} {job : Service.SettlementConfirmationJob}
    {value : Int} {fees : Service.Fees} {receiptId : String} {confirmedAt : Nat}
    (hgross : job.grossAmount = toString value) (hnet : fees.netAmount = value - fees.platformFee) :
    ReadByRoute ⟨value, fees.platformFee, fees.developerShare, job.txHash⟩
      (routeReceipt ((db.fillReceipt (Service.ConfirmWorker.settlementReceipt job fees receiptId
        confirmedAt)).found join)) :=
  ⟨congrArg Json.str hgross, rfl, rfl, rfl, by rw [← hnet]; rfl⟩

/-! ### The pairs that do not -/

theorem route_gross_payment (receipt : Payment.PaymentReceipt) :
    (routeReceipt (receipt.found join)).grossAmount = .null ∧
      (routeReceipt (receipt.found join)).netAmount = .null := ⟨rfl, rfl⟩

theorem dto_amount_service (receipt : Service.PaymentReceipt) :
    (receiptDTO print (receipt.found join)).amount = "" ∧
      (receiptDTO print (receipt.found join)).seller = "" ∧
      (receiptDTO print (receipt.found join)).buyer = "" := ⟨rfl, rfl, rfl⟩

theorem not_readBack_payment (settled : Settled) (receipt : Payment.PaymentReceipt) :
    ¬ ReadBack settled print (receipt.found join) := by
  rintro ⟨hroute, -⟩
  have hgross := hroute.gross
  rw [(route_gross_payment receipt).1] at hgross
  cases hgross

theorem toString_ne_empty (value : Int) : toString value ≠ "" := by
  cases value with
  | ofNat n => exact Nat.repr_ne_empty
  | negSucc n =>
      intro heq
      have hlength := congrArg String.length (show "-" ++ (n + 1).repr = "" from heq)
      rw [String.length_append] at hlength
      cases Nat.add_eq_zero_iff.mp hlength with
      | intro hdash _ => cases hdash

theorem not_readBack_service (settled : Settled) (receipt : Service.PaymentReceipt) :
    ¬ ReadBack settled print (receipt.found join) := by
  rintro ⟨-, hdto⟩
  have hgross := hdto.gross
  rw [(dto_amount_service receipt).1] at hgross
  exact toString_ne_empty settled.gross hgross.symm

/-- No receipt of any of the writers is read back, whatever the figures of its settlement are. -/
theorem receipts_never_read_back (settled : Settled) (print : Json → String) (join : ReceiptJoin) :
    (∀ receipt : Payment.PaymentReceipt, ¬ ReadBack settled print (receipt.found join)) ∧
      ∀ receipt : Service.PaymentReceipt, ¬ ReadBack settled print (receipt.found join) :=
  ⟨not_readBack_payment settled, not_readBack_service settled⟩

end Readers

namespace Payment

/-- The receipts of a run in which one payment is settled. -/
theorem settled_not_read_back : ∃ (cfg : Interact.Config (machine Unit ⟨false, false⟩) SettleReply)
    (receipt : PaymentReceipt), Config.Reachable Config.anyStep (settleStart Unit ⟨false, false⟩) cfg ∧
      receipt ∈ cfg.world.db.receipts ∧ receipt.responsePayload.amount = "1000" ∧
      ∀ settled print join, ¬ ReadBack settled print (receipt.found join) := by
  obtain ⟨cfg, hreach, hstored⟩ := Config.exists_reachable_of_run
    (show ((settleStart Unit ⟨false, false⟩).run (settleMoves () "set-0" "0x01" "rec-0")).map (fun cfg =>
      cfg.world.db.receipts.any fun receipt => receipt.responsePayload.amount = "1000") = some true by
        decide +kernel)
  obtain ⟨receipt, hreceipt, hamount⟩ := List.any_eq_true.mp hstored
  exact ⟨cfg, receipt, hreach, hreceipt, of_decide_eq_true hamount,
    fun settled _ _ => not_readBack_payment settled receipt⟩

end Payment

end FacilitatorX402
