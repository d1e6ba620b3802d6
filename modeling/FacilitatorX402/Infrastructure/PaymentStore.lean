import FacilitatorX402.Infrastructure.Surroundings
import FacilitatorX402.Library.KeyedRows

/-!
# The stores of the payment pipeline

The rows `verifyPayment` and `settlePayment` write, the operations they await, and what each
operation does to the shared world. The database enforces its constraints: primary keys, one receipt
for a request, and the unique columns of verifications and settlements.
-/

namespace FacilitatorX402

open Interact KeyStore

namespace Payment

structure PaymentRequest where
  id : String
  seller : String
  buyer : String
  network : String
  asset : String
  amount : Int
  invoiceId : String
  scheme : String
  expiresAt : JsDate
  deriving DecidableEq

structure PaymentVerification where
  id : String
  requestId : String
  verificationStatus : VerificationStatus
  signatureHash : String
  nonce : String
  payloadHash : String
  deriving DecidableEq

structure PaymentSettlement where
  id : String
  requestId : String
  settlementStatus : SettlementStatus
  referralCode : Option String
  txHash : Option String
  feeAmount : Option Int
  developerShare : Option Int
  confirmedAt : Option Nat
  deriving DecidableEq

structure ReceiptPayload where
  network : String
  asset : String
  seller : String
  buyer : String
  amount : String
  txHash : String
  feeAmount : String
  developerShare : String
  confirmedAt : String
  deriving DecidableEq

structure PaymentReceipt where
  id : String
  requestId : String
  settlementId : String
  protocolVersion : String
  responsePayload : ReceiptPayload
  deriving DecidableEq

/-- The columns a confirmation sets. -/
structure Confirmation where
  txHash : String
  feeAmount : Int
  developerShare : Int
  confirmedAt : Nat
  deriving DecidableEq

def PaymentSettlement.confirm (row : PaymentSettlement) (data : Confirmation) :
    PaymentSettlement :=
  { row with
    settlementStatus := .confirmed
    txHash := some data.txHash
    feeAmount := some data.feeAmount
    developerShare := some data.developerShare
    confirmedAt := some data.confirmedAt }

def PaymentSettlement.fail (row : PaymentSettlement) : PaymentSettlement :=
  { row with settlementStatus := .failed }

structure Db where
  requests : List PaymentRequest
  verifications : List PaymentVerification
  settlements : List PaymentSettlement
  receipts : List PaymentReceipt

/-! ### Operations -/

inductive Op where
  | redis (op : KeyStore.Op Key)
  | chain (op : ChainOp)
  | now
  | generateId
  | findPaymentRequest (id : String)
  | findConfirmedSettlement (requestId : String)
  | createSettlement (row : PaymentSettlement)
  | failSettlement (id : String)
  | confirmSettlement (id : String) (data : Confirmation) (receipt : PaymentReceipt)
  | createVerified (request : PaymentRequest) (verification : PaymentVerification)
  deriving DecidableEq

@[reducible]
def Op.Ans : Op → Type
  | redis op => op.Ans
  | chain op => op.Ans
  | now => Nat
  | generateId => String
  | findPaymentRequest _ => Option (PaymentRequest × List PaymentVerification)
  | findConfirmedSettlement _ => Option (PaymentSettlement × Option PaymentReceipt)
  | createSettlement _ => Unit
  | failSettlement _ => Unit
  | confirmSettlement _ _ _ => Unit
  | createVerified _ _ => Unit

abbrev interface : Interface := ⟨Op, Op.Ans⟩

def redisHom : (KeyStore.interface Key).Hom interface := ⟨.redis, fun _ answer => answer⟩

def chainHom : chainInterface.Hom interface := ⟨.chain, fun _ answer => answer⟩

def Op.call (op : Op) : Program interface Err op.Ans := @Program.call interface Err op

/-! ### The database -/

namespace Db

variable (db : Db)

/-- The settlements `findFirst({ requestId, settlementStatus: 'confirmed' })` can return. -/
def confirmedFor (requestId : String) : List PaymentSettlement :=
  db.settlements.filter fun row =>
    row.requestId = requestId ∧ row.settlementStatus = .confirmed

/-- `findUnique` on a request, with its accepted verifications. -/
def requestWithVerifications (id : String) :
    Option (PaymentRequest × List PaymentVerification) :=
  (db.requests.find? (·.id = id)).map fun request =>
    (request, db.verifications.filter fun verification =>
      verification.requestId = id ∧ verification.verificationStatus = .accepted)

def receiptOf (settlementId : String) : Option PaymentReceipt :=
  db.receipts.find? (·.settlementId = settlementId)

def updateSettlement (id : String) (f : PaymentSettlement → PaymentSettlement) : Db :=
  { db with settlements := KeyedRows.update (·.id) id f db.settlements }

def createSettlement (row : PaymentSettlement) : Db :=
  { db with settlements := db.settlements ++ [row] }

/-- The row is confirmed and its receipt added. -/
def confirmSettlement (id : String) (data : Confirmation) (receipt : PaymentReceipt) : Db :=
  { db.updateSettlement id (·.confirm data) with receipts := db.receipts ++ [receipt] }

def createVerified (request : PaymentRequest) (verification : PaymentVerification) : Db :=
  { db with
    requests := db.requests ++ [request]
    verifications := db.verifications ++ [verification] }

/-- The row exists, its transaction hash and the request of the receipt are not taken. -/
def canConfirm (id : String) (data : Confirmation) (receipt : PaymentReceipt) : Bool :=
  db.settlements.any (·.id = id)
    && db.settlements.all (fun row => row.id = id ∨ row.txHash ≠ some data.txHash)
    && db.receipts.all fun other => other.id ≠ receipt.id ∧ other.requestId ≠ receipt.requestId

/-- A valid date, a fresh request, and a verification whose unique columns are not taken. -/
def canVerify (request : PaymentRequest) (verification : PaymentVerification) : Bool :=
  request.expiresAt.isSome
    && db.requests.all (·.id ≠ request.id)
    && db.verifications.all fun other => other.id ≠ verification.id
      ∧ other.signatureHash ≠ verification.signatureHash ∧ other.nonce ≠ verification.nonce

end Db

/-! ### The world -/

structure World (ι : Type) where
  redis : KeyStore.Store Key ι
  db : Db
  chain : Chain ι

/-- Carry out one operation for a call. -/
def exec {ι : Type} (faults : Faults) (who : ι) (world : World ι) :
    (op : Op) → Outcome → Option (Except Err op.Ans × World ι)
  | .redis op, outcome =>
      (redisExec who world.redis op outcome).map fun (answer, redis) =>
        (answer, { world with redis := redis })
  | .chain op, outcome =>
      (chainExec who world.chain op outcome).map fun (answer, chain) =>
        (answer, { world with chain := chain })
  | .now, .time ms => some (.ok ms, world)
  | .generateId, .text id => some (.ok id, world)
  | .findPaymentRequest id, outcome => query world (world.db.requestWithVerifications id) outcome
  | .findConfirmedSettlement requestId, outcome =>
      findFirst world ((world.db.confirmedFor requestId).map fun row =>
        (row, world.db.receiptOf row.id)) outcome
  | .createSettlement row, outcome =>
      statement world { world with db := world.db.createSettlement row }
        (world.db.settlements.all (·.id ≠ row.id)) outcome
  | .failSettlement id, outcome =>
      statement world { world with db := world.db.updateSettlement id (·.fail) }
        (world.db.settlements.any (·.id = id)) outcome
  | .confirmSettlement id data receipt, outcome =>
      transaction faults world { world with db := world.db.confirmSettlement id data receipt }
        (world.db.canConfirm id data receipt) outcome
  | .createVerified request verification, outcome =>
      transaction faults world { world with db := world.db.createVerified request verification }
        (world.db.canVerify request verification) outcome
  | _, _ => none

abbrev machine (ι : Type) (faults : Faults) : Machine interface Err ι where
  World := World ι
  Outcome := Outcome
  Env := EnvEvent
  exec := exec faults
  env world
    | .vanish key =>
        if faults.keysVanish then some { world with redis := world.redis.erase key } else none
    | .chain event => (world.chain.step event).map fun chain => { world with chain := chain }
    | .clock _ => none

/-! ### What each operation can have done -/

section Exec

variable {ι : Type} {faults : Faults} {who : ι} {world world' : World ι} {outcome : Outcome}

theorem exec_redis {op : KeyStore.Op Key} {answer : Except Err op.Ans}
    (h : (machine ι faults).exec who world (.redis op) outcome = some (answer, world')) :
    (∃ fate, KeyStore.exec who world.redis op fate = (answer, world'.redis)) ∧
      world'.db = world.db := by
  obtain ⟨⟨answer', redis⟩, hredis, heq⟩ := Option.map_eq_some_iff.mp h
  obtain ⟨rfl, rfl⟩ := Prod.mk.inj heq
  cases outcome with
  | fate fate => exact ⟨⟨fate, Option.some.inj hredis⟩, rfl⟩
  | _ => cases hredis

theorem exec_chain {op : ChainOp} {answer : Except Err op.Ans}
    (h : (machine ι faults).exec who world (.chain op) outcome = some (answer, world')) :
    world'.redis = world.redis ∧ world'.db = world.db ∧
      (world'.chain = world.chain ∨ ∃ transfer, op = .writeContract transfer ∧
        world'.chain = world.chain.broadcast who transfer.usedNonce) := by
  obtain ⟨⟨answer', chain⟩, hchain, heq⟩ := Option.map_eq_some_iff.mp h
  obtain ⟨rfl, rfl⟩ := Prod.mk.inj heq
  exact ⟨rfl, rfl, chainExec_cases hchain⟩

theorem exec_now {answer : Except Err Nat}
    (h : (machine ι faults).exec who world .now outcome = some (answer, world')) :
    world' = world ∧ ∃ ms, answer = .ok ms := by
  cases outcome with
  | time ms =>
      obtain ⟨rfl, rfl⟩ := Prod.mk.inj (Option.some.inj h)
      exact ⟨rfl, ms, rfl⟩
  | _ => cases h

theorem exec_generateId {answer : Except Err String}
    (h : (machine ι faults).exec who world .generateId outcome = some (answer, world')) :
    world' = world ∧ ∃ id, answer = .ok id := by
  cases outcome with
  | text id =>
      obtain ⟨rfl, rfl⟩ := Prod.mk.inj (Option.some.inj h)
      exact ⟨rfl, id, rfl⟩
  | _ => cases h

theorem exec_findPaymentRequest {id : String}
    {answer : Except Err (Option (PaymentRequest × List PaymentVerification))}
    (h : (machine ι faults).exec who world (.findPaymentRequest id) outcome = some (answer, world')) :
    world' = world ∧
      (answer = .ok (world.db.requestWithVerifications id) ∨ ∃ error, answer = .error error) :=
  query_cases h

theorem exec_findConfirmedSettlement {requestId : String}
    {answer : Except Err (Option (PaymentSettlement × Option PaymentReceipt))}
    (h : (machine ι faults).exec who world (.findConfirmedSettlement requestId) outcome
      = some (answer, world')) :
    world' = world ∧ (answer = .ok none ∧ world.db.confirmedFor requestId = [] ∨
      (∃ row ∈ world.db.confirmedFor requestId,
        answer = .ok (some (row, world.db.receiptOf row.id))) ∨
      ∃ error, answer = .error error) := by
  obtain ⟨hworld, hanswer⟩ := findFirst_cases h
  refine ⟨hworld, ?_⟩
  rcases hanswer with ⟨hnone, hrows⟩ | ⟨found, hfound, hsome⟩ | herror
  · exact .inl ⟨hnone, List.map_eq_nil_iff.mp hrows⟩
  · obtain ⟨row, hrow, rfl⟩ := List.mem_map.mp hfound
    exact .inr (.inl ⟨row, hrow, hsome⟩)
  · exact .inr (.inr herror)

theorem exec_createSettlement {row : PaymentSettlement} {answer : Except Err Unit}
    (h : (machine ι faults).exec who world (.createSettlement row) outcome = some (answer, world')) :
    ((∀ other ∈ world.db.settlements, other.id ≠ row.id) ∧
        world' = { world with db := world.db.createSettlement row }) ∨
      ((∃ error, answer = .error error) ∧ world' = world) := by
  rcases statement_cases h with ⟨hfresh, hworld, -⟩ | hfailed
  · refine .inl ⟨fun other hother => ?_, hworld⟩
    simpa using List.all_eq_true.mp hfresh other hother
  · exact .inr hfailed

theorem exec_failSettlement {id : String} {answer : Except Err Unit}
    (h : (machine ι faults).exec who world (.failSettlement id) outcome = some (answer, world')) :
    world' = { world with db := world.db.updateSettlement id (·.fail) } ∨
      ((∃ error, answer = .error error) ∧ world' = world) := by
  rcases statement_cases h with ⟨-, hworld, -⟩ | hfailed
  · exact .inl hworld
  · exact .inr hfailed

theorem exec_confirmSettlement (hreported : faults.commitLost = false) {id : String}
    {data : Confirmation} {receipt : PaymentReceipt} {answer : Except Err Unit}
    (h : (machine ι faults).exec who world (.confirmSettlement id data receipt) outcome
      = some (answer, world')) :
    (world.db.canConfirm id data receipt = true ∧ answer = .ok () ∧
        world' = { world with db := world.db.confirmSettlement id data receipt }) ∨
      ((∃ error, answer = .error error) ∧ world' = world) := by
  rcases transaction_cases hreported h with ⟨hcan, hworld, hanswer⟩ | hfailed
  · exact .inl ⟨hcan, hanswer, hworld⟩
  · exact .inr hfailed

theorem exec_createVerified {request : PaymentRequest} {verification : PaymentVerification}
    {answer : Except Err Unit}
    (h : (machine ι faults).exec who world (.createVerified request verification) outcome
      = some (answer, world')) :
    (world.db.canVerify request verification = true ∧
        world' = { world with db := world.db.createVerified request verification }) ∨
      ((∃ error, answer = .error error) ∧ world' = world) := by
  rcases statement_cases (statement_of_transaction h) with ⟨hcan, hworld, -⟩ | hfailed
  · exact .inl ⟨hcan, hworld⟩
  · exact .inr hfailed

/-- Only Redis commands touch the keys. -/
theorem exec_redis_eq {op : Op} (hop : ∀ command, op ≠ .redis command)
    {answer : Except Err (interface.Ans op)}
    (h : (machine ι faults).exec who world op outcome = some (answer, world')) :
    world'.redis = world.redis := by
  cases op with
  | redis command => exact absurd rfl (hop command)
  | chain op => exact (exec_chain h).1
  | now => rw [(exec_now h).1]
  | generateId => rw [(exec_generateId h).1]
  | findPaymentRequest id => rw [(exec_findPaymentRequest h).1]
  | findConfirmedSettlement requestId => rw [(exec_findConfirmedSettlement h).1]
  | createSettlement row =>
      rcases exec_createSettlement h with ⟨-, rfl⟩ | ⟨-, rfl⟩ <;> rfl
  | failSettlement id => rcases exec_failSettlement h with rfl | ⟨-, rfl⟩ <;> rfl
  | confirmSettlement id data receipt =>
      rcases statement_cases (statement_of_transaction h) with ⟨-, rfl, -⟩ | ⟨-, rfl⟩ <;> rfl
  | createVerified request verification =>
      rcases exec_createVerified h with ⟨-, rfl⟩ | ⟨-, rfl⟩ <;> rfl

/-- Only a broadcast touches the chain. -/
theorem exec_chain_eq {op : Op} (hop : ∀ transfer, op ≠ .chain (.writeContract transfer))
    {answer : Except Err (interface.Ans op)}
    (h : (machine ι faults).exec who world op outcome = some (answer, world')) :
    world'.chain = world.chain := by
  cases op with
  | redis command =>
      obtain ⟨⟨answer', redis⟩, -, heq⟩ := Option.map_eq_some_iff.mp h
      obtain ⟨rfl, rfl⟩ := Prod.mk.inj heq
      rfl
  | chain op =>
      rcases (exec_chain h).2.2 with hsame | ⟨transfer, rfl, -⟩
      · exact hsame
      · exact absurd rfl (hop transfer)
  | now => rw [(exec_now h).1]
  | generateId => rw [(exec_generateId h).1]
  | findPaymentRequest id => rw [(exec_findPaymentRequest h).1]
  | findConfirmedSettlement requestId => rw [(exec_findConfirmedSettlement h).1]
  | createSettlement row =>
      rcases exec_createSettlement h with ⟨-, rfl⟩ | ⟨-, rfl⟩ <;> rfl
  | failSettlement id => rcases exec_failSettlement h with rfl | ⟨-, rfl⟩ <;> rfl
  | confirmSettlement id data receipt =>
      rcases statement_cases (statement_of_transaction h) with ⟨-, rfl, -⟩ | ⟨-, rfl⟩ <;> rfl
  | createVerified request verification =>
      rcases exec_createVerified h with ⟨-, rfl⟩ | ⟨-, rfl⟩ <;> rfl

/-- On their own the surroundings make keys vanish, or move the chain. -/
theorem machine_env_cases {event : EnvEvent} (h : (machine ι faults).env world event = some world') :
    (faults.keysVanish = true ∧ ∃ key, world' = { world with redis := world.redis.erase key }) ∨
      ∃ event chain, world.chain.step event = some chain ∧ world' = { world with chain := chain } := by
  cases event with
  | vanish key =>
      simp only [machine] at h
      split at h
      · rename_i hkeys
        obtain rfl := Option.some.inj h
        exact .inl ⟨hkeys, key, rfl⟩
      · cases h
  | chain event =>
      obtain ⟨chain, hstep, rfl⟩ := Option.map_eq_some_iff.mp h
      exact .inr ⟨event, chain, hstep, rfl⟩
  | clock ms => cases h

theorem machine_env_db {event : EnvEvent} (h : (machine ι faults).env world event = some world') :
    world'.db = world.db := by
  rcases machine_env_cases h with ⟨-, key, rfl⟩ | ⟨event, chain, -, rfl⟩ <;> rfl

theorem machine_env_redis (hkeys : faults.keysVanish = false) {event : EnvEvent}
    (h : (machine ι faults).env world event = some world') : world'.redis = world.redis := by
  rcases machine_env_cases h with ⟨hvanish, -⟩ | ⟨event, chain, -, rfl⟩
  · rw [hkeys] at hvanish
    cases hvanish
  · rfl

end Exec

end Payment

end FacilitatorX402
