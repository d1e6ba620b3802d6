import FacilitatorX402.Proof.SettlementPermanence

/-!
# What a failed settlement leaves on chain

A call that throws says that no funds were moved. Its catch branch asks nobody what became of the
transactions it has broadcast: it also runs after a timeout, after a fallback that failed, and after
the database refused a settlement that the chain has accepted. The results here say when the promise
is kept: when every transaction of the call is spent as it enters that branch.
-/

namespace FacilitatorX402

open Interact

namespace Payment

/-- A call in this phase may have a transaction that can still execute. -/
def Phase.Broadcasting : Phase → Prop
  | submitted _ => True
  | closing (some _) => True
  | ended (some _) => True
  | _ => False

/-- Only the failure of its row takes a call that has broadcast to a phase that promises something. -/
theorem Phase.Awaits.broadcasting_next {req : SettleRequest} {phase : Phase} {op : Op}
    (h : Phase.Awaits req phase op) (answer : Except Err (interface.Ans op))
    (hbefore : phase.Broadcasting) :
    (phase.next req op answer).Broadcasting ∨ ∃ id, op = .failSettlement id := by
  cases h with
  | fail settlementId => exact .inr ⟨settlementId, rfl⟩
  | closing result =>
      cases result with
      | none => exact hbefore.elim
      | some result => cases answer <;> exact .inl trivial
  | confirm settlementId data paymentRequest receiptId => cases answer <;> exact .inl trivial
  | write settlementId transfer => exact .inl trivial
  | wait settlementId rpcUrl txHash => exact .inl trivial
  | leave settlementId => exact .inl trivial
  | receiptId settlementId => exact .inl trivial
  | now settlementId => exact .inl trivial
  | _ => exact hbefore.elim

section Runs

variable {ι : Type} {faults : Faults}

/-- A row is only marked as failed when every transaction its call has broadcast is spent: mined as
reverted, or pending with its nonce already used. -/
def SpentAtFailure (cfg : Config (machine ι faults) SettleReply) (event : Event interface Err ι) :
    Prop :=
  ∀ id, event.op = .failSettlement id → cfg.world.chain.SpentOf event.who

/-- The transactions of a call that has broadcast nothing, or has failed, are spent. -/
def FundsInv (cfg : Config (machine ι faults) SettleReply) (phase : ι → Phase) : Prop :=
  ∀ who, ¬(phase who).Broadcasting → cfg.world.chain.SpentOf who

variable [DecidableEq ι] {req : ι → SettleRequest}

omit [DecidableEq ι] in
/-- A broadcast concerns its own call only, and every other operation leaves the chain alone. -/
theorem exec_spentOf {who other : ι} {op : Op} {outcome : Outcome}
    {answer : Except Err (interface.Ans op)} {world world' : World ι}
    (hexec : (machine ι faults).exec who world op outcome = some (answer, world'))
    (hne : other = who → ∀ transfer, op ≠ .chain (.writeContract transfer))
    (h : world.chain.SpentOf other) : world'.chain.SpentOf other := by
  by_cases hop : ∃ transfer, op = .chain (.writeContract transfer)
  · obtain ⟨transfer, rfl⟩ := hop
    obtain ⟨-, -, hsame | ⟨broadcast, -, hchain⟩⟩ := exec_chain hexec
    · rw [hsame]
      exact h
    · rw [hchain]
      apply h.broadcast
      exact fun heq => hne heq.symm transfer rfl
  · rw [exec_chain_eq (fun transfer heq => hop ⟨transfer, heq⟩) hexec]
    exact h

theorem FundsInv.step {cfg : Config (machine ι faults) SettleReply} {phase : ι → Phase} {who : ι}
    {op : Op} {next : Except Err (interface.Ans op) → PaymentProgram SettleReply}
    {answer : Except Err (interface.Ans op)} {world : World ι} (h : FundsInv cfg phase)
    (hawaits : Phase.Awaits (req who) (phase who) op) {outcome : Outcome}
    (hexec : (machine ι faults).exec who cfg.world op outcome = some (answer, world))
    (hgood : SpentAtFailure cfg ⟨who, op, answer⟩) :
    FundsInv (cfg.perform who op next answer world)
      (Function.update phase who ((phase who).next (req who) op answer)) := by
  intro other hquiet
  by_cases heq : other = who
  · subst heq
    rw [Function.update_self] at hquiet
    have hspent : cfg.world.chain.SpentOf other := by
      by_cases hbefore : (phase other).Broadcasting
      · obtain ⟨id, hop⟩ := (hawaits.broadcasting_next answer hbefore).resolve_left hquiet
        exact hgood id hop
      · exact h other hbefore
    apply exec_spentOf hexec _ hspent
    -- a call that broadcasts is not quiet afterwards
    rintro - transfer rfl
    generalize phase other = current at hawaits hquiet
    cases hawaits with
    | write settlementId transfer => exact hquiet trivial
  · rw [Function.update_of_ne heq] at hquiet
    apply exec_spentOf hexec _ (h other hquiet)
    exact fun hsame => absurd hsame heq

theorem preserved_funds :
    Config.Preserved (M := machine ι faults) (fun who => settleRules (req who))
      (fun _ => settlePost) FundsInv SpentAtFailure where
  call _ _ _ _ _ _ _ _ hfollows _ hallowed hexec hgood :=
    ⟨_, rfl, FundsInv.step hfollows.inv hallowed hexec hgood⟩
  env cfg phase event world hfollows henv := by
    intro who hquiet
    rcases machine_env_cases henv with ⟨-, key, rfl⟩ | ⟨event, chain, hstep, rfl⟩
    · exact hfollows.inv who hquiet
    · exact (hfollows.inv who hquiet).step hstep

/-- When a call is over, its transactions never execute exactly if they are spent. -/
theorem never_executedOf_iff {cfg : Config (machine ι faults) SettleReply} {who : ι}
    (hdone : cfg.Finished who) :
    (∀ later, Config.Reachable Config.anyStep cfg later → ¬later.world.chain.ExecutedOf who) ↔
      cfg.world.chain.SpentOf who := by
  constructor
  · intro hnever
    by_contra hlive
    rcases Mempool.Pool.executes_of_not_spentOf hlive with hexecuted | ⟨index, chain, hstep, hexecuted⟩
    · exact hnever cfg .refl hexecuted
    · have henv : (machine ι faults).env cfg.world (.chain (.mine index true))
          = some { cfg.world with chain := chain } := by
        change Option.map _ _ = _
        rw [hstep]
        rfl
      exact hnever _ (.single (.env henv)) hexecuted
  · intro hspent later hlater
    suffices hlast : later.Finished who ∧ later.world.chain.SpentOf who from hlast.2.not_executedOf
    apply hlater.invariant _ ⟨hdone, hspent⟩
    rintro middle last ⟨hfinished, hspent⟩ hstep
    cases hstep with
    | @call actor op next outcome answer world hcall hexec =>
        -- the call is over, so another one performs this
        have hne : who ≠ actor := by
          rintro rfl
          exact hfinished (by rw [hcall, Program.result?_perform])
        refine ⟨?_, exec_spentOf hexec (fun heq => absurd heq hne) hspent⟩
        rw [Config.Finished, Config.perform_calls_of_ne _ hne]
        exact hfinished
    | env henv =>
        refine ⟨hfinished, ?_⟩
        rcases machine_env_cases henv with ⟨-, key, rfl⟩ | ⟨event, chain, hstep, rfl⟩
        · exact hspent
        · exact hspent.step hstep

variable {deps : ι → SettleDeps} {start cfg : Config (machine ι faults) SettleReply}

/-- **No funds were moved.** As long as rows are only marked as failed when every transaction of their
call is spent, no transaction of a call that has thrown executes, neither before it has thrown nor
at any time afterwards. -/
theorem failure_moves_no_funds (hstart : SettleStart deps req start)
    (hchain : start.world.chain.transactions = [])
    (hreach : Config.Reachable SpentAtFailure start cfg) {who : ι} {error : Err}
    (hthrown : (cfg.calls who).result? = some (.error error))
    {later : Config (machine ι faults) SettleReply}
    (hlater : Config.Reachable Config.anyStep cfg later) : ¬later.world.chain.ExecutedOf who := by
  have hbegin : SettleFollows req (fun cfg phase => FundsInv cfg phase) start fun _ => .lookup := by
    refine ⟨hstart.follows.sat, fun other _ transaction hmem => ?_⟩
    rw [hchain] at hmem
    cases hmem
  obtain ⟨phase, hfollows⟩ := hreach.follows preserved_funds hbegin
  have hspent : cfg.world.chain.SpentOf who := by
    apply hfollows.inv who
    rcases hfollows.of_result hthrown with hended | ⟨habandoned, -⟩
    · rw [hended]
      exact not_false
    · rw [habandoned]
      exact not_false
  have hdone : cfg.Finished who := by
    rw [Config.Finished, hthrown]
    exact nofun
  exact (never_executedOf_iff hdone).mpr hspent later hlater

end Runs

/-! ### One call, with a timeout or a receipt -/

section Schedules

abbrev OneCall := Config (machine Unit ⟨false, false⟩) SettleReply

/-- A call that fails when its submission fails, from the entry of its catch branch on. -/
def failAndRelease : List (Move (machine Unit ⟨false, false⟩)) :=
  [.call () (.fate .done), .call () (.fate .done), .call () (.fate .done)]

/-- The transaction is broadcast, and the wait for its receipt times out. -/
def timeoutSchedule : List (Move (machine Unit ⟨false, false⟩)) :=
  lookups () ++ lockAndCreate () "set-0"
    ++ [.call () (.fate .done), .call () (.text "0x01"),
      .call () (.fate (.failed (.raised "timeout"))), .call () (.fate .done)]
    ++ failAndRelease

/-- The transaction is mined as reverted before its receipt is read. -/
def revertSchedule : List (Move (machine Unit ⟨false, false⟩)) :=
  lookups () ++ lockAndCreate () "set-0"
    ++ [.call () (.fate .done), .call () (.text "0x01"), .env (.chain (.mine 0 false)),
      .call () (.mined ⟨.reverted, 100, 60000⟩), .call () (.fate .done)]
    ++ failAndRelease

/-- Whether an event does not fail a row, or comes when every transaction has reverted. -/
def allReverted (cfg : OneCall) (event : Event interface Err Unit) : Bool :=
  (match event.op with
    | .failSettlement _ => false
    | _ => true)
    || cfg.world.chain.transactions.all (·.status = .reverted)

theorem spentAtFailure_of_allReverted {cfg : OneCall} {event : Event interface Err Unit}
    (h : allReverted cfg event = true) : SpentAtFailure cfg event := by
  intro id hop transaction hmem _
  rw [allReverted, hop, Bool.false_or, List.all_eq_true] at h
  exact .inl (of_decide_eq_true (h transaction hmem))

theorem failure_moves_no_funds_reverted :
    ∃ cfg : OneCall, (cfg.calls ()).result? = some (.error (settlementFailed "req-0")) ∧
      ∀ later, Config.Reachable Config.anyStep cfg later → ¬later.world.chain.ExecutedOf () := by
  obtain ⟨cfg, hrun, hthrown⟩ := Option.map_eq_some_iff.mp
    (show ((settleStart Unit ⟨false, false⟩).runChecked allReverted revertSchedule).map
      (fun cfg => decide ((cfg.calls ()).result? = some (.error (settlementFailed "req-0"))))
        = some true by decide +kernel)
  have hreach : Config.Reachable SpentAtFailure (settleStart Unit ⟨false, false⟩) cfg :=
    Config.reachable_of_runChecked (fun _ _ => spentAtFailure_of_allReverted) hrun
  exact ⟨cfg, of_decide_eq_true hthrown, fun later hlater =>
    failure_moves_no_funds (settleStart_start _) rfl hreach (of_decide_eq_true hthrown) hlater⟩

theorem failure_moves_funds :
    ∃ middle last : OneCall,
      Config.Reachable Config.anyStep (settleStart Unit ⟨false, false⟩) middle ∧
      (middle.calls ()).result? = some (.error (settlementFailed "req-0")) ∧
      (∃ row ∈ middle.world.db.settlements, row.id = "set-0" ∧ row.settlementStatus = .failed) ∧
      Config.Reachable Config.anyStep middle last ∧ last.world.chain.ExecutedOf () := by
  obtain ⟨middle, last, hmiddle, hfailed, hlast, hexecuted⟩ := Config.exists_reachable_of_runs
    (show ((settleStart Unit ⟨false, false⟩).run timeoutSchedule).map (fun cfg =>
      decide ((cfg.calls ()).result? = some (.error (settlementFailed "req-0")))
        && cfg.world.db.settlements.any fun row => row.id = "set-0" && row.settlementStatus = .failed)
      = some true by decide +kernel)
    (show ((settleStart Unit ⟨false, false⟩).run
      (timeoutSchedule ++ [.env (.chain (.mine 0 true))])).map
        (fun cfg => cfg.world.chain.transactions.any (·.status = .executed)) = some true by
          decide +kernel)
  simp only [Bool.and_eq_true, List.any_eq_true, decide_eq_true_eq] at hfailed hexecuted
  obtain ⟨transaction, hmem, hstatus⟩ := hexecuted
  exact ⟨middle, last, hmiddle, hfailed.1, hfailed.2, hlast, transaction, hmem, rfl, hstatus⟩

end Schedules

end Payment

end FacilitatorX402
