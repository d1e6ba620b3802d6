import FacilitatorX402.Settlement.SettlePayment

/-!
# Rules for the programs of the payment pipeline

One rule for an operation of the pipeline and one for each Redis command, whatever protocol the
program is held to.
-/

namespace FacilitatorX402

open Interact

namespace Payment

variable {L : Type} {P : Protocol interface Err L} {phase : L}

@[simp]
theorem sat_op (op : Op) (post : L → Except Err op.Ans → Prop) :
    op.call.Sat P phase post ↔ P.allowed phase op ∧
      ∀ answer phase', P.trans phase op answer phase' → post phase' answer :=
  @Program.sat_call interface Err L P op phase post

theorem only_op {Q : Op → Prop} {op : Op} (h : Q op) : op.call.Only Q :=
  @Program.only_call interface Err Q op h

theorem only_redis {Q : Op → Prop} (h : ∀ command, Q (.redis command)) {α : Type}
    (program : RedisProgram α) : (redis program).Only Q := by
  apply (Program.only_lift redisHom program).mono
  rintro _ ⟨command, rfl⟩
  exact h command

theorem only_settleFailure {Q : Op → Prop} (hredis : ∀ command, Q (.redis command))
    {settlementId : String} (hfail : Q (.failSettlement settlementId)) (req : SettleRequest) :
    (settleFailure req settlementId).Only Q :=
  (only_op hfail).bind fun _ => (only_redis hredis _).bind fun _ => trivial

/-- Through the embedding a Redis command keeps its own answer. -/
theorem comap_redisHom_trans (op : KeyStore.Op Key) (answer : Except Err op.Ans) (phase' : L) :
    (P.comap redisHom).trans phase op answer phase' ↔ P.trans phase (.redis op) answer phase' := by
  constructor
  · rintro ⟨error | value, rfl, htrans⟩ <;> exact htrans
  · intro htrans
    cases answer <;> exact ⟨_, rfl, htrans⟩

@[simp]
theorem sat_redis_setNx (key : Key) (post : L → Except Err Bool → Prop) :
    (redis (redisSetNx key)).Sat P phase post ↔ P.allowed phase (.redis (.setNx key)) ∧
      ∀ (answer : Except Err Bool) (phase' : L),
        P.trans phase (.redis (.setNx key)) answer phase' → post phase' answer := by
  rw [redis, Program.sat_lift, sat_redisSetNx]
  exact and_congr_right fun _ => forall_congr' fun answer => forall_congr' fun phase' =>
    imp_congr_left (comap_redisHom_trans (.setNx key) answer phase')

@[simp]
theorem sat_redis_del (key : Key) (post : L → Except Err Unit → Prop) :
    (redis (redisDel key)).Sat P phase post ↔ P.allowed phase (.redis (.del key)) ∧
      ∀ (answer : Except Err Unit) (phase' : L),
        P.trans phase (.redis (.del key)) answer phase' → post phase' answer := by
  rw [redis, Program.sat_lift, sat_redisDel]
  exact and_congr_right fun _ => forall_congr' fun answer => forall_congr' fun phase' =>
    imp_congr_left (comap_redisHom_trans (.del key) answer phase')

/-! ### A small deployment -/

/-- A client library that recovers the sender from every signature. -/
def trustingHost : Host where
  sha256 _ := ⟨List.replicate 32 0, rfl⟩
  numberText := toString
  toLowerCase := HexText.lowerCase
  toUpperCase text := String.ofList (text.toList.map Char.toUpper)
  recoverTypedDataAddress _ message _ := .ok message.from

/-- One network with one asset. -/
def baseRegistry : NetworkRegistry := fun name =>
  if name = "base" then
    some {
      chainId := 8453
      name := "base"
      assets := [("USDC",
        { symbol := "USDC"
          contractAddress := "0x833589fCD6eDb6E08f4c7C32D4f71b54bdA02913"
          decimals := 6
          eip712Version := "2" })] }
  else none

def repeatedHex (n : Nat) (digit : Char) (hdigit : HexText.isDigit digit = true) : HexString n :=
  .ofDigits (List.replicate n digit) List.length_replicate (by simp [hdigit])

theorem lowerCase_repeatedHex {n : Nat} {digit lower : Char} (hdigit : HexText.isDigit digit = true)
    (hlower : HexText.isDigit lower = true) (h : digit.toLower = lower) :
    HexText.lowerCase (repeatedHex n digit hdigit).text = (repeatedHex n lower hlower).text := by
  rw [← String.toList_inj]
  simp [repeatedHex, HexString.ofDigits, h]

/-- A payment of 1000 units. -/
def samplePayment (validAfter : Nat) (nonce : Bytes32) (signature : Signature) : VerifyRequest where
  network := "base"
  asset := "USDC"
  invoiceId := "inv-1"
  requiredAmount := ⟨"1000", by decide⟩
  recipient := repeatedHex _ 'b' rfl
  payload :=
    { signature := signature
      authorization :=
        { «from» := repeatedHex _ 'a' rfl
          «to» := repeatedHex _ 'b' rfl
          value := ⟨"1000", by decide⟩
          validAfter := validAfter
          validBefore := 2000000000
          nonce := nonce
          validBefore_pos := by decide } }
  network_ne := by decide
  asset_ne := by decide
  invoiceId_ne := by decide
  invoiceId_length := by decide

/-- The payment under one nonce and one signature. -/
def firstPayment (validAfter : Nat) : VerifyRequest :=
  samplePayment validAfter (repeatedHex _ 'a' rfl) (repeatedHex _ '1' rfl)

/-- What the keys of the payment are made of. A run that is evaluated lowers it again at every
comparison, unless it is rewritten first. -/
theorem lowerCase_firstPayment {validAfter : Nat} :
    HexText.lowerCase (firstPayment validAfter).auth.nonce.text = (firstPayment validAfter).auth.nonce.text ∧
      HexText.lowerCase (firstPayment validAfter).payload.signature.text
        = (firstPayment validAfter).payload.signature.text :=
  ⟨lowerCase_repeatedHex rfl rfl rfl, lowerCase_repeatedHex rfl rfl rfl⟩

/-- One nonce in two spellings, under two signatures. -/
def twoSpellings (who : Fin 2) : VerifyRequest :=
  if who.val = 0 then firstPayment 0
  else samplePayment 0 (repeatedHex _ 'A' rfl) (repeatedHex _ '2' rfl)

theorem lowerCase_twoSpellings (who : Fin 2) :
    HexText.lowerCase (twoSpellings who).auth.nonce.text = (firstPayment 0).auth.nonce.text ∧
      HexText.lowerCase (twoSpellings who).payload.signature.text
        = (twoSpellings who).payload.signature.text := by
  match who with
  | 0 => exact lowerCase_firstPayment
  | 1 => exact ⟨lowerCase_repeatedHex rfl rfl rfl, lowerCase_repeatedHex rfl rfl rfl⟩

/-- One payment, with its nonce and its signature in either letter case. -/
def spelledPayment (upper : Bool) : VerifyRequest :=
  if upper then samplePayment 0 (repeatedHex _ 'A' rfl) (repeatedHex _ 'C' rfl)
  else samplePayment 0 (repeatedHex _ 'a' rfl) (repeatedHex _ 'c' rfl)

/-- The digests of the two spellings of the signature. -/
def spelledDigest (upper : Bool) : Digest :=
  if upper then
    ⟨[222, 206, 123, 117, 43, 230, 101, 214, 74, 147, 123, 94, 159, 212, 185, 174, 174, 103, 70, 62,
      197, 90, 249, 200, 89, 101, 245, 207, 203, 87, 0, 4], rfl⟩
  else
    ⟨[85, 129, 45, 254, 88, 152, 5, 25, 170, 108, 19, 232, 21, 32, 96, 70, 115, 19, 55, 76, 191,
      245, 181, 190, 234, 80, 135, 226, 180, 190, 40, 5], rfl⟩

/-- A payment under a signature the payer has not made, with the nonce of that payment or another. -/
def forgedPayment (reuse : Bool) : VerifyRequest :=
  if reuse then samplePayment 0 (repeatedHex _ 'a' rfl) (repeatedHex _ 'd' rfl)
  else samplePayment 0 (repeatedHex _ 'b' rfl) (repeatedHex _ 'd' rfl)

/-- The digest of that signature. -/
def forgedDigest : Digest :=
  ⟨[32, 81, 236, 119, 152, 85, 33, 181, 217, 8, 244, 194, 220, 86, 81, 200, 243, 49, 6, 146, 198, 6,
    24, 199, 215, 99, 71, 147, 3, 243, 254, 90], rfl⟩

/-- Nothing has been stored. -/
def emptyWorld (ι : Type) : World ι where
  redis _ := none
  db := { requests := [], verifications := [], settlements := [], receipts := [] }
  chain := { transactions := [], used := [] }

def sampleDeps : SettleDeps where
  host := trustingHost
  networkRegistry := baseRegistry
  config :=
    { rpcUrl := "https://rpc.example"
      rpcUrlFallback := ""
      platformFeeBps := 50
      developerShareBps := 20 }

def sampleRequest : SettleRequest where
  paymentRequestId := "req-0"
  referralCode := none

/-- One payment has been verified. -/
def verifiedWorld (ι : Type) : World ι where
  redis _ := none
  db :=
    let payment := firstPayment 0
    { requests := [acceptedRequest payment "req-0"]
      verifications := [acceptedVerification trustingHost payment "ver-0" "req-0"
        (computeSignatureHash payment.payload.signature.text)]
      settlements := []
      receipts := [] }
  chain := { transactions := [], used := [] }

/-- Calls that settle it. -/
def settleStart (ι : Type) (faults : Faults) : Interact.Config (machine ι faults) SettleReply where
  world := verifiedWorld ι
  calls _ := settlePayment sampleDeps sampleRequest
  history := []

section Schedules

variable {ι : Type} {faults : Faults}

/-- The two lookups of a call, when nothing is settled. -/
def lookups (who : ι) : List (Move (machine ι faults)) :=
  [.call who (.fate .done), .call who (.pick 0)]

/-- The lock, and the pending row. -/
def lockAndCreate (who : ι) (settlementId : String) : List (Move (machine ι faults)) :=
  [.call who (.fate .done), .call who (.text settlementId), .call who (.fate .done)]

/-- A submission that is mined. -/
def submitMined (who : ι) (txHash : String) (status : ReceiptStatus) :
    List (Move (machine ι faults)) :=
  [.call who (.fate .done), .call who (.text txHash), .call who (.mined ⟨status, 100, 60000⟩),
    .call who (.fate .done)]

/-- The confirmation, and the deletion of the lock. -/
def confirmAndRelease (who : ι) (receiptId : String) : List (Move (machine ι faults)) :=
  [.call who (.text receiptId), .call who (.time 1700000000000), .call who (.fate .done),
    .call who (.fate .done)]

/-- A whole call that settles. -/
def settleMoves (who : ι) (settlementId txHash receiptId : String) :
    List (Move (machine ι faults)) :=
  lookups who ++ lockAndCreate who settlementId ++ submitMined who txHash .success
    ++ confirmAndRelease who receiptId

end Schedules

end Payment

end FacilitatorX402
