import FacilitatorX402.Infrastructure.Surroundings
import FacilitatorX402.Library.KeyedRows

/-!
# The stores of the services

The tables of the schema that `runVerify` and `runSettle` use, the operations they await, and what
each operation does to the shared world. The database enforces primary keys, unique columns and
foreign keys; a null is never equal to another.
-/

namespace FacilitatorX402

open Interact KeyStore

namespace Service

structure Network where
  id : String
  chainId : Int
  name : String
  deriving DecidableEq

structure Seller where
  id : String
  walletAddress : String
  deriving DecidableEq

structure PaymentRequest where
  id : String
  sellerId : Option String
  buyerAddress : String
  networkId : String
  asset : String
  amount : String
  invoiceId : String
  scheme : String
  expiresAt : JsDate
  deriving DecidableEq

structure PaymentVerification where
  id : String
  requestId : String
  verificationStatus : VerificationStatus
  errorCode : Option String
  reason : Option String
  signatureHash : Option String
  nonce : Option String
  payloadHash : Option String
  deriving DecidableEq

structure PaymentSettlement where
  id : String
  requestId : String
  settlementStatus : SettlementStatus
  settlementId : Option String
  referralCode : Option String
  txHash : Option String
  feeAmount : Option String
  developerShare : Option String
  confirmedAt : Option Nat
  createdAt : Nat
  deriving DecidableEq

structure ReceiptPayload where
  settlementId : String
  txHash : String
  network : String
  asset : String
  grossAmount : String
  feeAmount : String
  developerShare : String
  netAmount : String
  feeBps : Int
  referralCode : Option String
  confirmedAt : String
  deriving DecidableEq

structure PaymentReceipt where
  id : String
  requestId : String
  protocolVersion : String
  responsePayload : ReceiptPayload
  deriving DecidableEq

/-- The columns a confirmation sets. -/
structure Confirmation where
  txHash : String
  feeAmount : String
  developerShare : String
  confirmedAt : Nat
  deriving DecidableEq

def PaymentSettlement.confirm (row : PaymentSettlement) (data : Confirmation) :
    PaymentSettlement :=
  { row with
    settlementStatus := .confirmed
    txHash := some data.txHash
    feeAmount := some data.feeAmount
    developerShare := some data.developerShare
    confirmedAt := some data.confirmedAt }

def PaymentSettlement.fail (row : PaymentSettlement) : PaymentSettlement :=
  { row with settlementStatus := .failed }

/-- What the routes tell a seller. No reply of `runVerify` or `runSettle` names the seller. -/
inductive WebhookNotice where
  | paymentVerified
      (requestId verificationId invoiceId network asset amount «from» «to» verifiedAt : String)
  | paymentFailed (requestId code message failedAt : String)
  | paymentSettled (requestId settlementId : String)
      (txHash feeAmount developerShare receiptId confirmedAt : Option String)
  deriving DecidableEq

/-- The tables, and the clock `now()` reads. -/
structure Db where
  networks : List Network
  sellers : List Seller
  requests : List PaymentRequest
  verifications : List PaymentVerification
  settlements : List PaymentSettlement
  receipts : List PaymentReceipt
  clock : Nat

/-! ### Operations -/

inductive Op where
  | redis (op : KeyStore.Op Key)
  | chain (op : ChainOp)
  | now
  | generateId
  | race
  | findNetwork (chainId : Int)
  | findSeller (id : String)
  | upsertPaymentRequest (row : PaymentRequest)
  | findReplay (nonce signatureHash : String)
  | createVerification (row : PaymentVerification)
  | findAcceptedVerification (id requestId : String)
  | findSettlement (requestId : String)
  | createSettlement (id requestId : String) (referralCode : Option String)
  | failSettlement (id : String)
  | confirmSettlement (id : String) (data : Confirmation) (receipt : PaymentReceipt)
  | findSettlementStatus (id : String)
  | confirmByWorker (id : String) (data : Confirmation) (receipt : PaymentReceipt)
  | notifyWebhook (notice : WebhookNotice)
  deriving DecidableEq

@[reducible]
def Op.Ans : Op → Type
  | redis op => op.Ans
  | chain op => op.Ans
  | now => Nat
  | generateId => String
  | race => Bool
  | findNetwork _ => Option Network
  | findSeller _ => Option Seller
  | upsertPaymentRequest _ => PaymentRequest
  | findReplay _ _ => Option PaymentVerification
  | createVerification _ => Unit
  | findAcceptedVerification _ _ => Option (PaymentVerification × PaymentRequest × Network)
  | findSettlement _ => Option (PaymentSettlement × Option PaymentReceipt)
  | createSettlement _ _ _ => Unit
  | failSettlement _ => Unit
  | confirmSettlement _ _ _ => Unit
  | findSettlementStatus _ => Option SettlementStatus
  | confirmByWorker _ _ _ => Unit
  | notifyWebhook _ => Unit

abbrev interface : Interface := ⟨Op, Op.Ans⟩

def redisHom : (KeyStore.interface Key).Hom interface := ⟨.redis, fun _ answer => answer⟩

def chainHom : chainInterface.Hom interface := ⟨.chain, fun _ answer => answer⟩

def Op.call (op : Op) : Program interface Err op.Ans := @Program.call interface Err op

/-! ### The database -/

namespace Db

variable (db : Db)

/-- An accepted verification of this request, with its request and the network of that. -/
def acceptedVerifications (id requestId : String) :
    List (PaymentVerification × PaymentRequest × Network) :=
  (db.verifications.filter fun row => row.id = id ∧ row.requestId = requestId
      ∧ row.verificationStatus = .accepted).filterMap fun row => do
    let request ← db.requests.find? (·.id = row.requestId)
    let network ← db.networks.find? (·.id = request.networkId)
    return (row, request, network)

/-- The rows a lookup by nonce or signature can return. -/
def replays (nonce signatureHash : String) : List PaymentVerification :=
  db.verifications.filter fun row => row.nonce = some nonce ∨ row.signatureHash = some signatureHash

def settlementsOf (requestId : String) : List PaymentSettlement :=
  db.settlements.filter (·.requestId = requestId)

def receiptOf (requestId : String) : Option PaymentReceipt :=
  db.receipts.find? (·.requestId = requestId)

/-- The row of this id, the new one if there was none. -/
def upserted (row : PaymentRequest) : PaymentRequest := (db.requests.find? (·.id = row.id)).getD row

def upsertPaymentRequest (row : PaymentRequest) : Db :=
  if db.requests.any (·.id = row.id) then db else { db with requests := db.requests ++ [row] }

/-- A valid date, and a network that exists. -/
def canUpsert (row : PaymentRequest) : Bool :=
  row.expiresAt.isSome && db.networks.any (·.id = row.networkId)

def createVerification (row : PaymentVerification) : Db :=
  { db with verifications := db.verifications ++ [row] }

/-- The request exists, and neither the id nor a unique column is taken. -/
def canVerify (row : PaymentVerification) : Bool :=
  db.requests.any (·.id = row.requestId)
    && db.verifications.all fun other => other.id ≠ row.id
      ∧ (other.signatureHash ≠ row.signatureHash ∨ row.signatureHash = none)
      ∧ (other.nonce ≠ row.nonce ∨ row.nonce = none)

/-- The row `create` inserts, with the defaults of the schema. -/
def newSettlement (id requestId : String) (referralCode : Option String) : PaymentSettlement :=
  { id := id
    requestId := requestId
    settlementStatus := .processing
    settlementId := some id
    referralCode := referralCode
    txHash := none
    feeAmount := none
    developerShare := none
    confirmedAt := none
    createdAt := db.clock }

def createSettlement (id requestId : String) (referralCode : Option String) : Db :=
  { db with settlements := db.settlements ++ [db.newSettlement id requestId referralCode] }

def canSettle (id requestId : String) : Bool :=
  db.requests.any (·.id = requestId)
    && db.settlements.all fun other => other.id ≠ id ∧ other.settlementId ≠ some id

def updateSettlement (id : String) (f : PaymentSettlement → PaymentSettlement) : Db :=
  { db with settlements := KeyedRows.update (·.id) id f db.settlements }

/-- The row is confirmed and its receipt added. -/
def confirmSettlement (id : String) (data : Confirmation) (receipt : PaymentReceipt) : Db :=
  { db.updateSettlement id (·.confirm data) with receipts := db.receipts ++ [receipt] }

/-- The row exists, its transaction hash and the request of the receipt are not taken. -/
def canConfirm (id : String) (data : Confirmation) (receipt : PaymentReceipt) : Bool :=
  db.settlements.any (·.id = id)
    && db.settlements.all (fun row => row.id = id ∨ row.txHash ≠ some data.txHash)
    && db.requests.any (·.id = receipt.requestId)
    && db.receipts.all fun other => other.id ≠ receipt.id ∧ other.requestId ≠ receipt.requestId

/-- The receipt with the network and the asset of its request, as the worker reads them. -/
def fillReceipt (receipt : PaymentReceipt) : PaymentReceipt :=
  let request := db.requests.find? (·.id = receipt.requestId)
  let network := request.bind fun request => db.networks.find? (·.id = request.networkId)
  { receipt with
    responsePayload :=
      { receipt.responsePayload with
        network := (network.map (·.name)).getD "unknown"
        asset := (request.map (·.asset)).getD "USDC" } }

/-- The row is confirmed, and a receipt added if its request has none. -/
def confirmByWorker (id : String) (data : Confirmation) (receipt : PaymentReceipt) : Db :=
  let confirmed := db.updateSettlement id (·.confirm data)
  if (db.receiptOf receipt.requestId).isSome then confirmed
  else { confirmed with receipts := db.receipts ++ [db.fillReceipt receipt] }

def canConfirmByWorker (id : String) (data : Confirmation) (receipt : PaymentReceipt) : Bool :=
  db.settlements.any (·.id = id)
    && db.settlements.all (fun row => row.id = id ∨ row.txHash ≠ some data.txHash)
    && ((db.receiptOf receipt.requestId).isSome
      || (db.requests.any (·.id = receipt.requestId)
        && db.receipts.all fun other => other.id ≠ receipt.id))

end Db

/-! ### The world -/

structure World (ι : Type) where
  redis : KeyStore.Store Key ι
  db : Db
  chain : Chain ι

/-- Carry out one operation for a call. -/
def exec {ι : Type} (faults : Faults) (who : ι) (world : World ι) :
    (op : Op) → Outcome → Option (Except Err op.Ans × World ι)
  | .redis op, outcome =>
      (redisExec who world.redis op outcome).map fun (answer, redis) =>
        (answer, { world with redis := redis })
  | .chain op, outcome =>
      (chainExec who world.chain op outcome).map fun (answer, chain) =>
        (answer, { world with chain := chain })
  | .now, .time ms => some (.ok ms, world)
  | .generateId, .text id => some (.ok id, world)
  | .race, .pick index => some (.ok (index = 0), world)
  | .findNetwork chainId, outcome =>
      query world (world.db.networks.find? (·.chainId = chainId)) outcome
  | .findSeller id, outcome => query world (world.db.sellers.find? (·.id = id)) outcome
  | .upsertPaymentRequest row, outcome =>
      returning (world.db.upserted row) world
        { world with db := world.db.upsertPaymentRequest row } (world.db.canUpsert row) outcome
  | .findReplay nonce signatureHash, outcome =>
      findFirst world (world.db.replays nonce signatureHash) outcome
  | .createVerification row, outcome =>
      statement world { world with db := world.db.createVerification row } (world.db.canVerify row)
        outcome
  | .findAcceptedVerification id requestId, outcome =>
      findFirst world (world.db.acceptedVerifications id requestId) outcome
  | .findSettlement requestId, outcome =>
      findFirst world ((world.db.settlementsOf requestId).map fun row =>
        (row, world.db.receiptOf requestId)) outcome
  | .createSettlement id requestId referralCode, outcome =>
      statement world { world with db := world.db.createSettlement id requestId referralCode }
        (world.db.canSettle id requestId) outcome
  | .failSettlement id, outcome =>
      statement world { world with db := world.db.updateSettlement id (·.fail) }
        (world.db.settlements.any (·.id = id)) outcome
  | .confirmSettlement id data receipt, outcome =>
      transaction faults world { world with db := world.db.confirmSettlement id data receipt }
        (world.db.canConfirm id data receipt) outcome
  | .findSettlementStatus id, outcome =>
      query world ((world.db.settlements.find? (·.id = id)).map (·.settlementStatus)) outcome
  | .confirmByWorker id data receipt, outcome =>
      transaction faults world { world with db := world.db.confirmByWorker id data receipt }
        (world.db.canConfirmByWorker id data receipt) outcome
  | .notifyWebhook _, .fate .done => some (.ok (), world)
  | _, _ => none

abbrev machine (ι : Type) (faults : Faults) : Machine interface Err ι where
  World := World ι
  Outcome := Outcome
  Env := EnvEvent
  exec := exec faults
  env world
    | .vanish key =>
        if faults.keysVanish then some { world with redis := world.redis.erase key } else none
    | .chain event => (world.chain.step event).map fun chain => { world with chain := chain }
    | .clock ms => some { world with db := { world.db with clock := ms } }

/-! ### What each operation can have done -/

/-- What one operation can do to the world, its commands to Redis apart. -/
inductive Effect {ι : Type} (world : World ι) : Op → World ι → Prop
  | none (op : Op) : Effect world op world
  | redis (command : KeyStore.Op Key) (store : KeyStore.Store Key ι) :
      Effect world (.redis command) { world with redis := store }
  | chain (op : ChainOp) (chain : Chain ι) : Effect world (.chain op) { world with chain := chain }
  | upsertPaymentRequest (row : PaymentRequest) (hcan : world.db.canUpsert row = true) :
      Effect world (.upsertPaymentRequest row)
        { world with db := world.db.upsertPaymentRequest row }
  | createVerification (row : PaymentVerification) (hcan : world.db.canVerify row = true) :
      Effect world (.createVerification row) { world with db := world.db.createVerification row }
  | createSettlement (id requestId : String) (referralCode : Option String)
      (hcan : world.db.canSettle id requestId = true) :
      Effect world (.createSettlement id requestId referralCode)
        { world with db := world.db.createSettlement id requestId referralCode }
  | failSettlement (id : String) :
      Effect world (.failSettlement id) { world with db := world.db.updateSettlement id (·.fail) }
  | confirmSettlement (id : String) (data : Confirmation) (receipt : PaymentReceipt)
      (hcan : world.db.canConfirm id data receipt = true) :
      Effect world (.confirmSettlement id data receipt)
        { world with db := world.db.confirmSettlement id data receipt }
  | confirmByWorker (id : String) (data : Confirmation) (receipt : PaymentReceipt)
      (hcan : world.db.canConfirmByWorker id data receipt = true) :
      Effect world (.confirmByWorker id data receipt)
        { world with db := world.db.confirmByWorker id data receipt }

section Exec

variable {ι : Type} {faults : Faults} {who : ι} {world world' : World ι} {op : Op}
  {outcome : Outcome}

theorem exec_redis {command : KeyStore.Op Key} {answer : Except Err command.Ans}
    (h : (machine ι faults).exec who world (.redis command) outcome = some (answer, world')) :
    (∃ fate, KeyStore.exec who world.redis command fate = (answer, world'.redis)) ∧
      world'.db = world.db := by
  obtain ⟨⟨answer', redis⟩, hredis, heq⟩ := Option.map_eq_some_iff.mp h
  obtain ⟨rfl, rfl⟩ := Prod.mk.inj heq
  cases outcome with
  | fate fate => exact ⟨⟨fate, Option.some.inj hredis⟩, rfl⟩
  | _ => cases hredis

theorem exec_effect {answer : Except Err (interface.Ans op)}
    (h : (machine ι faults).exec who world op outcome = some (answer, world')) :
    Effect world op world' := by
  cases op with
  | redis command =>
      obtain ⟨⟨answer', redis⟩, -, heq⟩ := Option.map_eq_some_iff.mp h
      obtain ⟨rfl, rfl⟩ := Prod.mk.inj heq
      exact .redis command redis
  | chain op =>
      obtain ⟨⟨answer', chain⟩, -, heq⟩ := Option.map_eq_some_iff.mp h
      obtain ⟨rfl, rfl⟩ := Prod.mk.inj heq
      exact .chain op chain
  | now =>
      cases outcome with
      | time ms =>
          obtain ⟨-, rfl⟩ := Prod.mk.inj (Option.some.inj h)
          exact .none _
      | _ => cases h
  | generateId =>
      cases outcome with
      | text id =>
          obtain ⟨-, rfl⟩ := Prod.mk.inj (Option.some.inj h)
          exact .none _
      | _ => cases h
  | race =>
      cases outcome with
      | pick index =>
          obtain ⟨-, rfl⟩ := Prod.mk.inj (Option.some.inj h)
          exact .none _
      | _ => cases h
  | findNetwork chainId =>
      obtain ⟨rfl, -⟩ := query_cases h
      exact .none _
  | findSeller id =>
      obtain ⟨rfl, -⟩ := query_cases h
      exact .none _
  | findReplay nonce signatureHash =>
      obtain ⟨rfl, -⟩ := findFirst_cases h
      exact .none _
  | findAcceptedVerification id requestId =>
      obtain ⟨rfl, -⟩ := findFirst_cases h
      exact .none _
  | findSettlement requestId =>
      obtain ⟨rfl, -⟩ := findFirst_cases h
      exact .none _
  | upsertPaymentRequest row =>
      rcases returning_cases h with ⟨hcan, rfl, -⟩ | ⟨-, rfl⟩
      · exact .upsertPaymentRequest row hcan
      · exact .none _
  | createVerification row =>
      rcases statement_cases h with ⟨hcan, rfl, -⟩ | ⟨-, rfl⟩
      · exact .createVerification row hcan
      · exact .none _
  | createSettlement id requestId referralCode =>
      rcases statement_cases h with ⟨hcan, rfl, -⟩ | ⟨-, rfl⟩
      · exact .createSettlement id requestId referralCode hcan
      · exact .none _
  | failSettlement id =>
      rcases statement_cases h with ⟨-, rfl, -⟩ | ⟨-, rfl⟩
      · exact .failSettlement id
      · exact .none _
  | confirmSettlement id data receipt =>
      rcases statement_cases (statement_of_transaction h) with ⟨hcan, rfl, -⟩ | ⟨-, rfl⟩
      · exact .confirmSettlement id data receipt hcan
      · exact .none _
  | findSettlementStatus id =>
      obtain ⟨rfl, -⟩ := query_cases h
      exact .none _
  | confirmByWorker id data receipt =>
      rcases statement_cases (statement_of_transaction h) with ⟨hcan, rfl, -⟩ | ⟨-, rfl⟩
      · exact .confirmByWorker id data receipt hcan
      · exact .none _
  | notifyWebhook notice =>
      cases outcome with
      | fate fate =>
          cases fate with
          | done =>
              obtain ⟨-, rfl⟩ := Prod.mk.inj (Option.some.inj h)
              exact .none _
          | _ => cases h
      | _ => cases h

theorem exec_createVerification_ok {row : PaymentVerification}
    (h : (machine ι faults).exec who world (.createVerification row) outcome
      = some (.ok (), world')) :
    world.db.canVerify row = true ∧
      world' = { world with db := world.db.createVerification row } := by
  rcases statement_cases h with ⟨hcan, hworld, -⟩ | ⟨⟨error, herror⟩, -⟩
  · exact ⟨hcan, hworld⟩
  · cases herror

theorem exec_createSettlement_ok {id requestId : String} {referralCode : Option String}
    (h : (machine ι faults).exec who world (.createSettlement id requestId referralCode) outcome
      = some (.ok (), world')) :
    world' = { world with db := world.db.createSettlement id requestId referralCode } := by
  rcases statement_cases h with ⟨-, hworld, -⟩ | ⟨⟨error, herror⟩, -⟩
  · exact hworld
  · cases herror

theorem exec_findAcceptedVerification {id requestId : String} {verification : PaymentVerification}
    {request : PaymentRequest} {network : Network}
    (h : (machine ι faults).exec who world (.findAcceptedVerification id requestId) outcome
      = some (.ok (some (verification, request, network)), world')) :
    verification ∈ world.db.verifications ∧ verification.id = id := by
  obtain ⟨-, ⟨hnone, -⟩ | ⟨found, hmem, hfound⟩ | ⟨error, herror⟩⟩ := findFirst_cases h
  · cases hnone
  · obtain rfl := Option.some.inj (Except.ok.inj hfound)
    obtain ⟨row, hrow, hjoin⟩ := List.mem_filterMap.mp hmem
    obtain ⟨hverification, hboth⟩ := List.mem_filter.mp hrow
    obtain ⟨request', -, hnetwork⟩ := Option.bind_eq_some_iff.mp hjoin
    obtain ⟨network', -, heq⟩ := Option.bind_eq_some_iff.mp hnetwork
    obtain ⟨rfl, -⟩ := Prod.mk.inj (Option.some.inj heq)
    exact ⟨hverification, (of_decide_eq_true hboth).1⟩
  · cases herror

theorem exec_redis_eq (hop : ∀ command, op ≠ .redis command) {answer : Except Err (interface.Ans op)}
    (h : (machine ι faults).exec who world op outcome = some (answer, world')) :
    world'.redis = world.redis := by
  cases exec_effect h with
  | redis command store => exact absurd rfl (hop command)
  | _ => rfl

/-- On their own the surroundings only move the clock of the database. -/
theorem machine_env_db {event : EnvEvent} (h : (machine ι faults).env world event = some world') :
    ∃ clock, world'.db = { world.db with clock := clock } := by
  cases event with
  | vanish key =>
      simp only [machine] at h
      split at h
      · obtain rfl := Option.some.inj h
        exact ⟨world.db.clock, rfl⟩
      · cases h
  | chain event =>
      obtain ⟨chain, -, rfl⟩ := Option.map_eq_some_iff.mp h
      exact ⟨world.db.clock, rfl⟩
  | clock ms =>
      obtain rfl := Option.some.inj h
      exact ⟨ms, rfl⟩

/-- On their own the surroundings leave the rows alone, and the keys if none vanishes. -/
theorem machine_env_rows {event : EnvEvent} (h : (machine ι faults).env world event = some world') :
    world'.db.verifications = world.db.verifications ∧
      world'.db.settlements = world.db.settlements ∧
      (faults.keysVanish = false → world'.redis = world.redis) := by
  cases event with
  | vanish key =>
      simp only [machine] at h
      split at h
      · rename_i hkeys
        obtain rfl := Option.some.inj h
        exact ⟨rfl, rfl, fun hkept => absurd (hkept.symm.trans hkeys) Bool.false_ne_true⟩
      · cases h
  | chain event =>
      obtain ⟨chain, -, rfl⟩ := Option.map_eq_some_iff.mp h
      exact ⟨rfl, rfl, fun _ => rfl⟩
  | clock ms =>
      obtain rfl := Option.some.inj h
      exact ⟨rfl, rfl, fun _ => rfl⟩

end Exec

end Service

end FacilitatorX402
