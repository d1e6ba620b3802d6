import FacilitatorX402.Library.Program
import FacilitatorX402.Crypto.SignatureVerifier

/-!
# Submitting on chain

`submitOnChain` broadcasts the transfer through one endpoint after the other and waits for the
receipt. Its entry and its exit are operations of their own, without effect: a history then shows
that it was called, with which arguments, and when it was over.
-/

namespace FacilitatorX402

open Interact

inductive ReceiptStatus where
  | success
  | reverted
  deriving DecidableEq

structure TxReceipt where
  status : ReceiptStatus
  blockNumber : Nat
  gasUsed : Nat
  deriving DecidableEq

/-- The arguments of `submitOnChain`. A recipient or a contract address can be undefined. -/
structure SubmitArgs where
  «from» : String
  «to» : Option String
  value : Int
  validAfter : Int
  validBefore : Int
  nonce : String
  signature : String
  assetAddress : Option String
  chainId : Int
  rpcUrl : String
  fallbackRpcUrl : Option String
  deriving DecidableEq

structure SplitSignature where
  v : Option UInt8
  r : String
  s : String
  deriving DecidableEq

/-- The arguments of one `writeContract` of `transferWithAuthorization`. -/
structure TransferCall where
  rpcUrl : String
  address : Option String
  «from» : String
  «to» : Option String
  value : Int
  validAfter : Int
  validBefore : Int
  nonce : String
  signature : SplitSignature
  deriving DecidableEq

/-- What the token contract marks as used: its own address, the payer and the nonce, as bytes. -/
structure UsedNonce where
  token : List UInt8
  payer : List UInt8
  nonce : List UInt8
  deriving DecidableEq

/-- The bytes of a text that begins with `0x`. -/
def hexBytes (text : String) : List UInt8 := HexText.fromHex (text.toList.drop 2)

def TransferCall.usedNonce (transfer : TransferCall) : UsedNonce :=
  { token := hexBytes (transfer.address.getD "")
    payer := hexBytes transfer.from
    nonce := hexBytes transfer.nonce }

structure OnChainResult where
  txHash : String
  blockNumber : Nat
  gasUsed : Nat
  deriving DecidableEq

inductive ChainOp where
  | submitOnChain (args : SubmitArgs)
  | submitOnChainEnd
  | writeContract (transfer : TransferCall)
  | waitForTransactionReceipt (rpcUrl txHash : String)
  deriving DecidableEq

@[reducible]
def ChainOp.Ans : ChainOp → Type
  | submitOnChain _ => Unit
  | submitOnChainEnd => Unit
  | writeContract _ => String
  | waitForTransactionReceipt _ _ => TxReceipt

abbrev chainInterface : Interface := ⟨ChainOp, ChainOp.Ans⟩

/-- `Buffer.from(sig.slice(2), 'hex')` cut into its 32, 32 and 1 bytes. -/
def splitSignature (signature : String) : SplitSignature :=
  let bytes := hexBytes signature
  { v := bytes[64]?
    r := "0x" ++ String.ofList (HexText.toHex (bytes.take 32))
    s := "0x" ++ String.ofList (HexText.toHex ((bytes.drop 32).take 32)) }

/-- `[opts.rpcUrl, opts.fallbackRpcUrl].filter(Boolean)`. -/
def SubmitArgs.rpcUrls (args : SubmitArgs) : List String :=
  [args.rpcUrl, args.fallbackRpcUrl.getD ""].filter (· ≠ "")

def SubmitArgs.transfer (args : SubmitArgs) (rpcUrl : String) : TransferCall :=
  { rpcUrl := rpcUrl
    address := args.assetAddress
    «from» := args.from
    «to» := args.to
    value := args.value
    validAfter := args.validAfter
    validBefore := args.validBefore
    nonce := args.nonce
    signature := splitSignature args.signature }

def ChainOp.call (op : ChainOp) : Program chainInterface Err op.Ans :=
  @Program.call chainInterface Err op

def enterSubmitOnChain (args : SubmitArgs) : Program chainInterface Err Unit :=
  (ChainOp.submitOnChain args).call

def leaveSubmitOnChain : Program chainInterface Err Unit := ChainOp.submitOnChainEnd.call

def writeContract (transfer : TransferCall) : Program chainInterface Err String :=
  (ChainOp.writeContract transfer).call

def waitForTransactionReceipt (rpcUrl txHash : String) : Program chainInterface Err TxReceipt :=
  (ChainOp.waitForTransactionReceipt rpcUrl txHash).call

/-- The body of the loop: broadcast through one endpoint and wait for the receipt. -/
def submitThrough (args : SubmitArgs) (rpcUrl : String) :
    Program chainInterface Err OnChainResult := do
  let txHash ← writeContract (args.transfer rpcUrl)
  let receipt ← waitForTransactionReceipt rpcUrl txHash
  match receipt.status with
  | .reverted => .throw (.raised ("Transaction reverted: " ++ txHash))
  | .success =>
      return { txHash := txHash, blockNumber := receipt.blockNumber, gasUsed := receipt.gasUsed }

/-- The loop over the endpoints, with the error of the last one that failed. -/
def submitLoop (args : SubmitArgs) : List String → Option Err →
    Program chainInterface Err OnChainResult
  | [], lastError => .throw (lastError.getD (.raised "All RPC endpoints failed"))
  | rpcUrl :: rpcUrls, _ =>
      (submitThrough args rpcUrl).tryCatch fun err => submitLoop args rpcUrls (some err)

def submitOnChain (args : SubmitArgs) : Program chainInterface Err OnChainResult := do
  enterSubmitOnChain args
  (submitLoop args args.rpcUrls none).tryFinally leaveSubmitOnChain

/-! ### What `submitOnChain` performs -/

section Sat

variable {L : Type} {P : Protocol chainInterface Err L} {before inside : L}

@[simp]
theorem sat_chainOp (op : ChainOp) (post : L → Except Err op.Ans → Prop) :
    op.call.Sat P before post ↔ P.allowed before op ∧
      ∀ answer phase', P.trans before op answer phase' → post phase' answer :=
  @Program.sat_call chainInterface Err L P op before post

/-- The loop broadcasts and waits, in a phase that allows both and that neither leaves. -/
theorem sat_submitLoop (args : SubmitArgs)
    (hwrite : ∀ transfer, P.allowed inside (.writeContract transfer))
    (hwait : ∀ rpcUrl txHash, P.allowed inside (.waitForTransactionReceipt rpcUrl txHash))
    (hstays : ∀ op answer phase', P.trans inside op answer phase' → phase' = inside)
    (rpcUrls : List String) (lastError : Option Err) :
    (submitLoop args rpcUrls lastError).Sat P inside fun phase _ => phase = inside := by
  induction rpcUrls generalizing lastError with
  | nil => exact rfl
  | cons rpcUrl rpcUrls ih =>
      have hthrough : (submitThrough args rpcUrl).Sat P inside fun phase _ => phase = inside := by
        rw [submitThrough, writeContract, Program.sat_bind', sat_chainOp]
        refine ⟨hwrite _, fun answer phase htrans => ?_⟩
        rw [hstays _ _ _ htrans]
        cases answer with
        | error error => rfl
        | ok txHash =>
            rw [Program.thenSat_ok, waitForTransactionReceipt, Program.sat_bind', sat_chainOp]
            refine ⟨hwait _ _, fun answer phase htrans => ?_⟩
            rw [hstays _ _ _ htrans]
            cases answer with
            | error error => rfl
            | ok receipt =>
                rw [Program.thenSat_ok]
                split <;> rfl
      rw [submitLoop, Program.sat_tryCatch]
      refine hthrough.mono ?_
      rintro phase (error | result) rfl
      · exact ih (some error)
      · rfl

/-- Entering leads to the inner phase, and the call is over when it has left it. -/
theorem sat_submitOnChain (args : SubmitArgs)
    (henter : P.allowed before (.submitOnChain args))
    (hentered : ∀ answer phase', P.trans before (.submitOnChain args) answer phase' →
      phase' = inside)
    (hwrite : ∀ transfer, P.allowed inside (.writeContract transfer))
    (hwait : ∀ rpcUrl txHash, P.allowed inside (.waitForTransactionReceipt rpcUrl txHash))
    (hleave : P.allowed inside .submitOnChainEnd)
    (hstays : ∀ op answer phase', P.trans inside op answer phase' → phase' = inside) :
    (submitOnChain args).Sat P before fun phase _ => phase = inside := by
  rw [submitOnChain, enterSubmitOnChain, Program.sat_bind', sat_chainOp]
  refine ⟨henter, fun answer phase htrans => ?_⟩
  rw [hentered _ _ htrans]
  cases answer with
  | error error => rfl
  | ok entered =>
      rw [Program.thenSat_ok, Program.sat_tryFinally]
      refine (sat_submitLoop args hwrite hwait hstays _ none).mono ?_
      rintro phase outcome rfl
      rw [leaveSubmitOnChain, sat_chainOp]
      refine ⟨hleave, fun answer phase htrans => ?_⟩
      rw [hstays _ _ _ htrans]
      cases answer <;> rfl

end Sat

end FacilitatorX402
