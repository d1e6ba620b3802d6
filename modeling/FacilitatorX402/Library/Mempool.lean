import Mathlib.Tactic.Common

/-!
# Broadcast transactions and single-use authorizations

A broadcast transaction stays pending until some later block takes it up. It then executes if the
chain accepts it and its authorization has not been used, and reverts otherwise. An authorization is
used by the transaction that executes it, or by anyone else who holds it.

A transaction is spent when nothing can execute it any more. That all transactions of a sender are
spent lasts until the sender broadcasts again; where one is not spent, the next block can execute it.
-/

namespace Mempool

inductive Status where
  | pending
  | executed
  | reverted
  deriving DecidableEq

structure Transaction (ι A : Type) where
  sender : ι
  authorization : A
  status : Status

structure Pool (ι A : Type) where
  transactions : List (Transaction ι A)
  used : List A

/-- What the chain does on its own: it takes up a pending transaction, or an authorization is used
by someone else. -/
inductive Event (A : Type) where
  | mine (index : Nat) (accepted : Bool)
  | consume (authorization : A)

namespace Pool

variable {ι A : Type}

def broadcast (pool : Pool ι A) (sender : ι) (authorization : A) : Pool ι A :=
  { pool with
    transactions :=
      pool.transactions ++ [{ sender := sender, authorization := authorization, status := .pending }] }

/-- Nothing can execute the transaction. -/
def Spent (pool : Pool ι A) (transaction : Transaction ι A) : Prop :=
  transaction.status = .reverted ∨
    transaction.status = .pending ∧ transaction.authorization ∈ pool.used

/-- Using an authorization spends what was not executed. -/
theorem Spent.mono {pool pool' : Pool ι A} {transaction : Transaction ι A}
    (h : pool.Spent transaction) (hused : pool.used ⊆ pool'.used) : pool'.Spent transaction := by
  rcases h with hreverted | ⟨hpending, hmem⟩
  · exact .inl hreverted
  · exact .inr ⟨hpending, hused hmem⟩

def SpentOf (pool : Pool ι A) (sender : ι) : Prop :=
  ∀ transaction ∈ pool.transactions, transaction.sender = sender → pool.Spent transaction

def ExecutedOf (pool : Pool ι A) (sender : ι) : Prop :=
  ∃ transaction ∈ pool.transactions,
    transaction.sender = sender ∧ transaction.status = .executed

theorem SpentOf.not_executedOf {pool : Pool ι A} {sender : ι} (h : pool.SpentOf sender) :
    ¬pool.ExecutedOf sender := by
  rintro ⟨transaction, hmem, hsender, hexecuted⟩
  have hspent := h transaction hmem hsender
  rw [Spent, hexecuted] at hspent
  simp at hspent

/-- Another sender's transaction is none of this sender's. -/
theorem SpentOf.broadcast {pool : Pool ι A} {sender other : ι} (h : pool.SpentOf sender)
    (hne : other ≠ sender) (authorization : A) :
    (pool.broadcast other authorization).SpentOf sender := by
  intro transaction hmem hsender
  rcases List.mem_append.mp hmem with hbefore | hnew
  · exact h transaction hbefore hsender
  · rw [List.mem_singleton.mp hnew] at hsender
    exact absurd hsender hne

variable [DecidableEq A]

/-- A block takes up the transaction at an index. -/
def mine (pool : Pool ι A) (index : Nat) (transaction : Transaction ι A) (accepted : Bool) :
    Pool ι A :=
  if accepted = true ∧ transaction.authorization ∉ pool.used then
    { transactions := pool.transactions.set index { transaction with status := .executed }
      used := transaction.authorization :: pool.used }
  else
    { pool with
      transactions := pool.transactions.set index { transaction with status := .reverted } }

def step (pool : Pool ι A) : Event A → Option (Pool ι A)
  | .mine index accepted =>
      match pool.transactions[index]? with
      | some transaction =>
          if transaction.status = .pending then some (pool.mine index transaction accepted)
          else none
      | none => none
  | .consume authorization => some { pool with used := authorization :: pool.used }

/-- What a step can have done. -/
theorem step_cases {pool pool' : Pool ι A} {event : Event A} (h : pool.step event = some pool') :
    (∃ index transaction, pool.transactions[index]? = some transaction ∧
      transaction.status = .pending ∧
      (pool'.transactions = pool.transactions.set index { transaction with status := .reverted } ∧
          pool'.used = pool.used ∨
        transaction.authorization ∉ pool.used ∧
          pool'.transactions
            = pool.transactions.set index { transaction with status := .executed } ∧
          pool'.used = transaction.authorization :: pool.used)) ∨
    (∃ authorization, pool'.transactions = pool.transactions ∧
      pool'.used = authorization :: pool.used) := by
  cases event with
  | mine index accepted =>
      simp only [step] at h
      split at h
      · rename_i transaction hat
        split at h
        · rename_i hpending
          obtain rfl := Option.some.inj h
          refine .inl ⟨index, transaction, hat, hpending, ?_⟩
          unfold mine
          split
          · rename_i haccepted
            exact .inr ⟨haccepted.2, rfl, rfl⟩
          · exact .inl ⟨rfl, rfl⟩
        · cases h
      · cases h
  | consume authorization =>
      obtain rfl := Option.some.inj h
      exact .inr ⟨authorization, rfl, rfl⟩

theorem SpentOf.step {pool pool' : Pool ι A} {event : Event A} {sender : ι}
    (h : pool.SpentOf sender) (hstep : pool.step event = some pool') : pool'.SpentOf sender := by
  intro transaction hmem hsender
  rcases step_cases hstep with
    ⟨index, taken, hat, hpending, ⟨htransactions, hused⟩ | ⟨hfresh, htransactions, hused⟩⟩ |
    ⟨authorization, htransactions, hused⟩
  · rw [htransactions] at hmem
    rcases List.mem_or_eq_of_mem_set hmem with hbefore | heq
    · apply (h transaction hbefore hsender).mono
      rw [hused]
      exact List.Subset.refl _
    · rw [heq]
      exact .inl rfl
  · rw [htransactions] at hmem
    rcases List.mem_or_eq_of_mem_set hmem with hbefore | heq
    · apply (h transaction hbefore hsender).mono
      rw [hused]
      exact List.subset_cons_self _ _
    · -- a spent transaction would not have been executed
      rw [heq] at hsender
      rcases h taken (List.mem_of_getElem? hat) hsender with hreverted | ⟨-, hspent⟩
      · rw [hpending] at hreverted
        cases hreverted
      · exact absurd hspent hfresh
  · rw [htransactions] at hmem
    apply (h transaction hmem hsender).mono
    rw [hused]
    exact List.subset_cons_self _ _

/-- What is not spent has been executed, or the next block can execute it. -/
theorem executes_of_not_spentOf {pool : Pool ι A} {sender : ι} (h : ¬pool.SpentOf sender) :
    pool.ExecutedOf sender ∨
      ∃ index pool', pool.step (.mine index true) = some pool' ∧ pool'.ExecutedOf sender := by
  simp only [SpentOf, not_forall] at h
  obtain ⟨transaction, hmem, hsender, hlive⟩ := h
  cases hstatus : transaction.status with
  | executed => exact .inl ⟨transaction, hmem, hsender, hstatus⟩
  | reverted => exact absurd (.inl hstatus) hlive
  | pending =>
      have hfresh : transaction.authorization ∉ pool.used := fun hused => hlive (.inr ⟨hstatus, hused⟩)
      obtain ⟨index, hindex, hat⟩ := List.getElem_of_mem hmem
      refine .inr ⟨index, pool.mine index transaction true, ?_,
        { transaction with status := .executed }, ?_, hsender, rfl⟩
      · simp [step, List.getElem?_eq_getElem hindex, hat, hstatus]
      · rw [mine, if_pos ⟨rfl, hfresh⟩]
        exact List.mem_set hindex _

end Pool

end Mempool
