import FacilitatorX402.Library.Interleaving
import FacilitatorX402.Library.KeyStore
import FacilitatorX402.Library.Mempool
import FacilitatorX402.Settlement.OnChain

/-!
# What the surroundings can do

The keys in Redis, and what one operation on Redis, on PostgreSQL or on an RPC endpoint can do to a
world. Every command and every statement is atomic; it can fail, or take effect without the caller
learning of it. An endpoint answers anything, whatever it has done with a transaction and whatever
becomes of the transaction on chain.
-/

namespace FacilitatorX402

open Interact KeyStore

/-- The keys both pipelines use. -/
inductive Key where
  | nonce (nonce : String)
  | sig (signatureHash : String)
  | settleLock (requestId : String)
  | settleServiceLock (requestId : String)
  deriving DecidableEq

/-- The text of a key, as Redis sees it. -/
def Key.text : Key → String
  | .nonce value => "nonce:" ++ value
  | .sig value => "sig:" ++ value
  | .settleLock requestId => "settle_lock:" ++ requestId
  | .settleServiceLock requestId => "settle:lock:" ++ requestId

/-- Keys of different kinds never collide. -/
theorem Key.text_injective : Function.Injective Key.text := by
  intro left right h
  have hprefix := congrArg (fun text => text.toList.take 7) h
  cases left <;> cases right <;> first
    | simpa [Key.text] using h
    | simp [Key.text, String.toList_append] at hprefix

/-- What the surroundings decide about one operation. -/
inductive Outcome where
  | fate (fate : Fate Err)
  | pick (index : Nat)
  | text (text : String)
  | unsent (txHash : String)
  | time (ms : Nat)
  | mined (receipt : TxReceipt)
  deriving DecidableEq

/-- Which failures beyond failing and unanswered statements the surroundings may produce. -/
structure Faults where
  keysVanish : Bool
  commitLost : Bool

/-- The transactions that calls have broadcast, and the nonces used on chain. -/
abbrev Chain (ι : Type) := Mempool.Pool ι UsedNonce

/-- A claim key or a lock disappears (a flush, an eviction, the end of its life), the chain goes on,
or the clock of the database moves. -/
inductive EnvEvent where
  | vanish (key : Key)
  | chain (event : Mempool.Event UsedNonce)
  | clock (ms : Nat)

inductive VerificationStatus where
  | pending
  | accepted
  | rejected
  deriving DecidableEq

inductive SettlementStatus where
  | pending
  | processing
  | confirmed
  | failed
  deriving DecidableEq

section Worlds

variable {W : Type}

/-- A statement that is carried out when its constraints hold, and then leads to `world'` and
returns `value`. -/
def returning {α : Type} (value : α) (world world' : W) (admissible : Bool) :
    Outcome → Option (Except Err α × W)
  | .fate fate =>
      if admissible then some (fate.answer value, if fate.applied then world' else world)
      else some (.error (.raised "constraint violation"), world)
  | _ => none

/-- A statement that returns nothing. -/
def statement (world world' : W) (admissible : Bool) : Outcome → Option (Except Err Unit × W) :=
  returning () world world' admissible

/-- A transaction commits all of its statements or none. Unless `commitLost` is set, a commit is
never reported as a failure. -/
def transaction (faults : Faults) (world world' : W) (admissible : Bool) :
    Outcome → Option (Except Err Unit × W)
  | .fate (.lost error) =>
      if faults.commitLost then statement world world' admissible (.fate (.lost error)) else none
  | outcome => statement world world' admissible outcome

/-- A query that changes nothing. -/
def query {α : Type} (world : W) (value : α) : Outcome → Option (Except Err α × W)
  | .fate .done => some (.ok value, world)
  | .fate (.failed error) => some (.error error, world)
  | _ => none

/-- A `findFirst` without an order: any of the rows that match. -/
def findFirst {α : Type} (world : W) (rows : List α) : Outcome → Option (Except Err (Option α) × W)
  | .pick index =>
      if rows.isEmpty then some (.ok none, world)
      else (rows[index]?).map fun row => (.ok (some row), world)
  | .fate (.failed error) => some (.error error, world)
  | _ => none

/-- Endpoints answer anything. A transaction is broadcast and its hash answered, or its hash is
answered although it is not; or the broadcast fails, or only seems to. Entering and leaving
`submitOnChain` has no effect. -/
def chainExec {ι : Type} (who : ι) (chain : Chain ι) :
    (op : ChainOp) → Outcome → Option (Except Err op.Ans × Chain ι)
  | .submitOnChain _, .fate .done => some (.ok (), chain)
  | .submitOnChainEnd, .fate .done => some (.ok (), chain)
  | .writeContract transfer, .text txHash => some (.ok txHash, chain.broadcast who transfer.usedNonce)
  | .writeContract _, .unsent txHash => some (.ok txHash, chain)
  | .writeContract transfer, .fate (.lost error) =>
      some (.error error, chain.broadcast who transfer.usedNonce)
  | .writeContract _, .fate (.failed error) => some (.error error, chain)
  | .waitForTransactionReceipt _ _, .mined receipt => some (.ok receipt, chain)
  | .waitForTransactionReceipt _ _, .fate (.failed error) => some (.error error, chain)
  | _, _ => none

def redisExec {ι : Type} (who : ι) (store : KeyStore.Store Key ι) (op : KeyStore.Op Key) :
    Outcome → Option (Except Err op.Ans × KeyStore.Store Key ι)
  | .fate fate => some (KeyStore.exec who store op fate)
  | _ => none

/-! ### What each of them can have done -/

theorem returning_cases {α : Type} {value : α} {world world' after : W} {admissible : Bool}
    {outcome : Outcome} {answer : Except Err α}
    (h : returning value world world' admissible outcome = some (answer, after)) :
    (admissible = true ∧ after = world' ∧ (answer = .ok value ∨ ∃ error, answer = .error error)) ∨
      ((∃ error, answer = .error error) ∧ after = world) := by
  cases outcome with
  | fate fate =>
      simp only [returning] at h
      split at h
      · rename_i hadmissible
        obtain ⟨rfl, rfl⟩ := Prod.mk.inj (Option.some.inj h)
        cases fate with
        | done => exact .inl ⟨hadmissible, rfl, .inl rfl⟩
        | lost error => exact .inl ⟨hadmissible, rfl, .inr ⟨error, rfl⟩⟩
        | failed error => exact .inr ⟨⟨error, rfl⟩, rfl⟩
      · obtain ⟨rfl, rfl⟩ := Prod.mk.inj (Option.some.inj h)
        exact .inr ⟨⟨_, rfl⟩, rfl⟩
  | _ => cases h

theorem exists_returning {α : Type} (value : α) (world world' : W) (admissible : Bool)
    (fate : Fate Err) : ∃ answer after,
      returning value world world' admissible (.fate fate) = some (answer, after) := by
  cases admissible <;> exact ⟨_, _, rfl⟩

theorem statement_cases {world world' after : W} {admissible : Bool} {outcome : Outcome}
    {answer : Except Err Unit} (h : statement world world' admissible outcome = some (answer, after)) :
    (admissible = true ∧ after = world' ∧ (answer = .ok () ∨ ∃ error, answer = .error error)) ∨
      ((∃ error, answer = .error error) ∧ after = world) :=
  returning_cases h

/-- A transaction that always reports its commit: committed and answered, or nothing done. -/
theorem transaction_cases {faults : Faults} (hreported : faults.commitLost = false)
    {world world' after : W} {admissible : Bool} {outcome : Outcome} {answer : Except Err Unit}
    (h : transaction faults world world' admissible outcome = some (answer, after)) :
    (admissible = true ∧ after = world' ∧ answer = .ok ()) ∨
      ((∃ error, answer = .error error) ∧ after = world) := by
  cases outcome with
  | fate fate =>
      cases fate with
      | done =>
          simp only [transaction, statement, returning] at h
          split at h
          · rename_i hadmissible
            obtain ⟨rfl, rfl⟩ := Prod.mk.inj (Option.some.inj h)
            exact .inl ⟨hadmissible, rfl, rfl⟩
          · obtain ⟨rfl, rfl⟩ := Prod.mk.inj (Option.some.inj h)
            exact .inr ⟨⟨_, rfl⟩, rfl⟩
      | lost error => simp [transaction, hreported] at h
      | failed error =>
          simp only [transaction, statement, returning] at h
          split at h <;>
          · obtain ⟨rfl, rfl⟩ := Prod.mk.inj (Option.some.inj h)
            exact .inr ⟨⟨_, rfl⟩, rfl⟩
  | _ => cases h

/-- Whether or not lost commits are possible, a transaction is a statement. -/
theorem statement_of_transaction {faults : Faults} {world world' after : W} {admissible : Bool}
    {outcome : Outcome} {answer : Except Err Unit}
    (h : transaction faults world world' admissible outcome = some (answer, after)) :
    statement world world' admissible outcome = some (answer, after) := by
  simp only [transaction] at h
  split at h
  · split at h
    · exact h
    · cases h
  · exact h

theorem query_cases {α : Type} {world after : W} {value : α} {outcome : Outcome}
    {answer : Except Err α} (h : query world value outcome = some (answer, after)) :
    after = world ∧ (answer = .ok value ∨ ∃ error, answer = .error error) := by
  simp only [query] at h
  split at h
  · obtain ⟨rfl, rfl⟩ := Prod.mk.inj (Option.some.inj h)
    exact ⟨rfl, .inl rfl⟩
  · obtain ⟨rfl, rfl⟩ := Prod.mk.inj (Option.some.inj h)
    exact ⟨rfl, .inr ⟨_, rfl⟩⟩
  · cases h

theorem findFirst_cases {α : Type} {world after : W} {rows : List α} {outcome : Outcome}
    {answer : Except Err (Option α)} (h : findFirst world rows outcome = some (answer, after)) :
    after = world ∧ (answer = .ok none ∧ rows = [] ∨
      (∃ row ∈ rows, answer = .ok (some row)) ∨ ∃ error, answer = .error error) := by
  simp only [findFirst] at h
  split at h
  · split at h
    · rename_i hempty
      obtain ⟨rfl, rfl⟩ := Prod.mk.inj (Option.some.inj h)
      exact ⟨rfl, .inl ⟨rfl, List.isEmpty_iff.mp hempty⟩⟩
    · obtain ⟨row, hrow, heq⟩ := Option.map_eq_some_iff.mp h
      obtain ⟨rfl, rfl⟩ := Prod.mk.inj heq
      exact ⟨rfl, .inr (.inl ⟨row, List.mem_of_getElem? hrow, rfl⟩)⟩
  · obtain ⟨rfl, rfl⟩ := Prod.mk.inj (Option.some.inj h)
    exact ⟨rfl, .inr (.inr ⟨_, rfl⟩)⟩
  · cases h

/-- Every operation on the chain can be answered. -/
theorem exists_chainExec {ι : Type} (who : ι) (chain : Chain ι) (op : ChainOp) :
    ∃ outcome answer chain', chainExec who chain op outcome = some (answer, chain') := by
  cases op with
  | submitOnChain args => exact ⟨.fate .done, _, _, rfl⟩
  | submitOnChainEnd => exact ⟨.fate .done, _, _, rfl⟩
  | writeContract transfer => exact ⟨.unsent "", _, _, rfl⟩
  | waitForTransactionReceipt rpcUrl txHash =>
      exact ⟨.fate (.failed (.raised "unreachable")), _, _, rfl⟩

/-- Only `writeContract` can broadcast. -/
theorem chainExec_cases {ι : Type} {who : ι} {chain chain' : Chain ι} {op : ChainOp}
    {outcome : Outcome} {answer : Except Err op.Ans}
    (h : chainExec who chain op outcome = some (answer, chain')) :
    chain' = chain ∨ ∃ transfer, op = .writeContract transfer ∧
      chain' = chain.broadcast who transfer.usedNonce := by
  unfold chainExec at h
  split at h <;> cases h <;> first
    | exact .inl rfl
    | exact .inr ⟨_, rfl, rfl⟩

end Worlds

end FacilitatorX402
