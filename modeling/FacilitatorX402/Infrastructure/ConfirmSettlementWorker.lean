import FacilitatorX402.Application.RunSettle

/-!
# The worker that confirms settlements

One attempt of a job, and what the worker does when an attempt has failed. An attempt looks at the
status of its row before it polls the endpoints, and not again before it writes; the handler of a
failed attempt does not look at all.
-/

namespace FacilitatorX402

open Interact

namespace Service

structure SettlementConfirmationJob where
  settlementId : String
  txHash : String
  requestId : String
  chainId : Int
  rpcUrl : String
  fallbackRpcUrl : Option String
  grossAmount : String
  referralCode : Option String
  deriving DecidableEq

/-- The endpoints of a job. An empty fallback is none. -/
def SettlementConfirmationJob.rpcUrls (job : SettlementConfirmationJob) : List String :=
  let fallbackRpcUrl := job.fallbackRpcUrl.getD ""
  job.rpcUrl :: if fallbackRpcUrl = "" then [] else [fallbackRpcUrl]

namespace ConfirmWorker

def findSettlementStatus (id : String) : ServiceProgram (Option SettlementStatus) :=
  (Op.findSettlementStatus id).call

def confirmByWorker (id : String) (data : Confirmation) (receipt : PaymentReceipt) :
    ServiceProgram Unit := (Op.confirmByWorker id data receipt).call

def waitForReceipt (rpcUrl txHash : String) : ServiceProgram TxReceipt :=
  (waitForTransactionReceipt rpcUrl txHash).lift chainHom

/-- The receipt from the first endpoint that answers one. -/
def pollReceipt (txHash : String) : List String → ServiceProgram (Option TxReceipt)
  | [] => return none
  | rpcUrl :: rpcUrls =>
      (do
        let receipt ← waitForReceipt rpcUrl txHash
        return some receipt).tryCatch fun _ => pollReceipt txHash rpcUrls

def confirmation (job : SettlementConfirmationJob) (fees : Fees) (confirmedAt : Nat) :
    Confirmation :=
  { txHash := job.txHash
    feeAmount := toString fees.platformFee
    developerShare := toString fees.developerShare
    confirmedAt := confirmedAt }

/-- The receipt, still without the network and the asset that the transaction reads. -/
def settlementReceipt (job : SettlementConfirmationJob) (fees : Fees) (receiptId : String)
    (confirmedAt : Nat) : PaymentReceipt :=
  { id := receiptId
    requestId := job.requestId
    protocolVersion := "x402-v1"
    responsePayload :=
      { settlementId := job.settlementId
        txHash := job.txHash
        network := "unknown"
        asset := "USDC"
        grossAmount := job.grossAmount
        feeAmount := toString fees.platformFee
        developerShare := toString fees.developerShare
        netAmount := toString fees.netAmount
        feeBps := fees.feeBps
        referralCode := job.referralCode
        confirmedAt := isoText confirmedAt } }

/-- What an attempt does with the receipt of its transaction. -/
def persistReceipt (computeFees : Int → Fees) (job : SettlementConfirmationJob) :
    ReceiptStatus → ServiceProgram Unit
  | .reverted => do
      failSettlement job.settlementId
      .throw (.raised ("On-chain tx reverted: " ++ job.txHash))
  | .success => do
      let value ← Program.ofExcept (grossAmount job.grossAmount)
      let fees := computeFees value
      let confirmedAt ← dateNow
      let receiptId ← ulid
      confirmByWorker job.settlementId (confirmation job fees confirmedAt)
        (settlementReceipt job fees receiptId confirmedAt)
      (redisDel (lockKey job.requestId)).ignoreErrors

/-- An attempt that goes on after its look at the row. -/
def confirmOnChain (computeFees : Int → Fees) (job : SettlementConfirmationJob) :
    ServiceProgram Unit := do
  match ← pollReceipt job.txHash job.rpcUrls with
  | none =>
      .throw (.raised ("Transaction " ++ job.txHash ++ " not confirmed after polling all RPCs"))
  | some receipt => persistReceipt computeFees job receipt.status

/-- One attempt of a job. -/
def confirmSettlement (computeFees : Int → Fees) (job : SettlementConfirmationJob) :
    ServiceProgram Unit := do
  match ← findSettlementStatus job.settlementId with
  | some .confirmed => return ()
  | some .failed => return ()
  | _ => confirmOnChain computeFees job

/-- A job as the queue hands it to the handlers. -/
structure Job where
  data : SettlementConfirmationJob
  attemptsMade : Nat
  attempts : Option Nat
  deriving DecidableEq

def isLastAttempt : Option Job → Bool
  | none => false
  | some job => job.attempts.getD 5 ≤ job.attemptsMade

/-- The handler of the event `failed`. -/
def onFailed (job : Option Job) : ServiceProgram Unit :=
  match job with
  | none => return ()
  | some job =>
      if isLastAttempt (some job) ∧ job.data.settlementId ≠ "" then
        (failSettlement job.data.settlementId).ignoreErrors
      else return ()

end ConfirmWorker

end Service

end FacilitatorX402
