import FacilitatorX402.Library.UnownedLock
import FacilitatorX402.Proof.RedisAnswers
import FacilitatorX402.Proof.SettlementPermanence

/-!
# The settle lock

A failing call deletes the lock in its catch branch and once more in its finally branch. Between the
two another call can take the lock, and the second deletion then takes it away. The results here say
what the lock is worth: as long as nobody takes it while a call that has deleted it is still running,
settlements exclude each other; and if in addition nobody takes it after a row has been confirmed,
nothing is submitted twice.
-/

namespace FacilitatorX402

open Interact KeyStore OverRedis

namespace Payment

/-- Where a phase stands towards the lock. -/
def Phase.stance : Phase → Stance
  | lookup => .outside
  | check => .outside
  | lock => .outside
  | name => .holding
  | create _ => .holding
  | body _ => .holding
  | submitted _ => .holding
  | failed => .holding
  | releasing => .leaving
  | closing _ => .holding
  | abandoned => .holding
  | ended _ => .outside

/-- Only Redis commands change the stance of a call. -/
theorem Phase.Awaits.stance_next {req : SettleRequest} {phase : Phase} {op : Op}
    (h : Phase.Awaits req phase op) (hop : ∀ command, op ≠ .redis command)
    (answer : Except Err (interface.Ans op)) :
    (phase.next req op answer).stance = phase.stance ∧ phase.next req op answer ≠ .releasing ∧
      ∀ result, phase ≠ .ended result := by
  cases h with
  | lookup =>
      rcases answer with error | _ | ⟨paymentRequest, _ | ⟨verification, verifications⟩⟩ <;>
        exact ⟨rfl, nofun, nofun⟩
  | check =>
      rcases answer with error | _ | ⟨existing, receipt⟩ <;> exact ⟨rfl, nofun, nofun⟩
  | lock => exact absurd rfl (hop _)
  | failed => exact absurd rfl (hop _)
  | releasing => exact absurd rfl (hop _)
  | closing result => exact absurd rfl (hop _)
  | _ => cases answer <;> exact ⟨rfl, nofun, nofun⟩

section Runs

variable {ι : Type} {faults : Faults}

/-- The lock an event is about, if it answers `'OK'`. -/
def lockTaken : Event interface Err ι → Option Key
  | ⟨_, .redis (.setNx key), answer⟩ =>
      match (answer : Except Err Bool) with
      | .ok true => some key
      | _ => none
  | _ => none

theorem eq_took_of_lockTaken {event : Event interface Err ι} {key : Key}
    (h : lockTaken event = some key) : event = took event.who key := by
  unfold lockTaken at h
  split at h
  · split at h
    · cases h
      rfl
    · cases h
  · cases h

/-- A call has issued a deletion of a lock. -/
def Deleted (cfg : Config (machine ι faults) SettleReply) (who : ι) (key : Key) : Prop :=
  ∃ event ∈ cfg.history, event.who = who ∧ event.op = .redis (.del key)

/-- A call obtained the lock and has not deleted it. -/
def HoldsLock (cfg : Config (machine ι faults) SettleReply) (who : ι) (key : Key) : Prop :=
  took who key ∈ cfg.history ∧ ¬Deleted cfg who key

/-- The end of the `submitOnChain` call of a settlement. -/
def SubmitEnded (cfg : Config (machine ι faults) SettleReply) (who : ι) : Prop :=
  ∃ event ∈ cfg.history, event.who = who ∧ event.op = .chain .submitOnChainEnd

/-- A running call between `'OK'` and the end of its `submitOnChain` call. -/
def InCritical (cfg : Config (machine ι faults) SettleReply) (who : ι) (key : Key) : Prop :=
  took who key ∈ cfg.history ∧ ¬SubmitEnded cfg who ∧ ¬cfg.Finished who

/-- A lock is only taken when every call that has deleted it before is over. -/
def AfterReleases (cfg : Config (machine ι faults) SettleReply) (event : Event interface Err ι) :
    Prop :=
  ∀ who key, event = took who key → ∀ other, Deleted cfg other key → cfg.Finished other

/-- A lock is only taken when, besides, its request has no confirmed row. -/
def BeforeConfirmation (cfg : Config (machine ι faults) SettleReply)
    (event : Event interface Err ι) : Prop :=
  AfterReleases cfg event ∧ ∀ who requestId, event = took who (lockKey requestId) →
    cfg.world.db.confirmedFor requestId = []

variable [DecidableEq ι] {req : ι → SettleRequest}

/-- The locks are exclusive, and the history says who holds and who leaves one. -/
structure LockInv (req : ι → SettleRequest) (cfg : Config (machine ι faults) SettleReply)
    (phase : ι → Phase) : Prop where
  exclusive : Exclusive cfg.world.redis (fun who => lockKey (req who).paymentRequestId)
    fun who => (phase who).stance
  deleted : ∀ who, phase who = .releasing → Deleted cfg who (lockKey (req who).paymentRequestId)
  taken : ∀ who key, took who key ∈ cfg.history → key = lockKey (req who).paymentRequestId ∧
    ((phase who).stance ≠ .outside ∨ ∃ result, phase who = .ended result)
  kept : ∀ who key, took who key ∈ cfg.history →
    Deleted cfg who key ∨ (phase who).stance = .holding

section Step

variable {cfg : Config (machine ι faults) SettleReply} {phase : ι → Phase} {who : ι} {op : Op}
  {next : Except Err (interface.Ans op) → PaymentProgram SettleReply}
  {answer : Except Err (interface.Ans op)} {world : World ι} {phase' : Phase}

theorem Deleted.perform {other : ι} {key : Key} (h : Deleted cfg other key) :
    Deleted (cfg.perform who op next answer world) other key := by
  obtain ⟨event, hevent, hrest⟩ := h
  exact ⟨event, List.mem_cons_of_mem _ hevent, hrest⟩

/-- The invariant after a step, from what it does to the locks and to the stance of its call. -/
theorem LockInv.perform (h : LockInv req cfg phase)
    (hexclusive : Exclusive world.redis (fun who => lockKey (req who).paymentRequestId)
      (Function.update (fun other => (phase other).stance) who phase'.stance))
    (htook : ∀ key, took who key = (⟨who, op, answer⟩ : Event interface Err ι) →
      key = lockKey (req who).paymentRequestId ∧ phase'.stance = .holding)
    (hdeleted : phase' = .releasing → op = .redis (.del (lockKey (req who).paymentRequestId)))
    (hinside : (phase who).stance ≠ .outside →
      phase'.stance ≠ .outside ∨ ∃ result, phase' = .ended result)
    (hover : ∀ result, phase who ≠ .ended result)
    (hkept : (phase who).stance = .holding → phase'.stance = .holding ∨
      op = .redis (.del (lockKey (req who).paymentRequestId))) :
    LockInv req (cfg.perform who op next answer world) (Function.update phase who phase') where
  exclusive := by
    change Exclusive _ _ (Phase.stance ∘ Function.update phase who phase')
    rw [Function.comp_update]
    exact hexclusive
  deleted := by
    intro other hreleasing
    by_cases heq : other = who
    · subst heq
      rw [Function.update_self] at hreleasing
      exact ⟨_, List.mem_cons_self, rfl, hdeleted hreleasing⟩
    · rw [Function.update_of_ne heq] at hreleasing
      exact (h.deleted other hreleasing).perform
  taken := by
    intro other key hmem
    rcases List.mem_cons.mp hmem with heq | hbefore
    · obtain rfl : other = who := congrArg Event.who heq
      obtain ⟨hkey, hholding⟩ := htook key heq
      rw [Function.update_self, hholding]
      exact ⟨hkey, .inl nofun⟩
    · obtain ⟨hkey, hstance⟩ := h.taken other key hbefore
      refine ⟨hkey, ?_⟩
      by_cases heq : other = who
      · subst heq
        rw [Function.update_self]
        rcases hstance with hstance | ⟨result, hended⟩
        · exact hinside hstance
        · exact absurd hended (hover result)
      · rwa [Function.update_of_ne heq]
  kept := by
    intro other key hmem
    rcases List.mem_cons.mp hmem with heq | hbefore
    · obtain rfl : other = who := congrArg Event.who heq
      rw [Function.update_self]
      exact .inr (htook key heq).2
    · rcases h.kept other key hbefore with hdeleted | hholding
      · exact .inl hdeleted.perform
      · by_cases heq : other = who
        · subst heq
          rw [Function.update_self]
          rcases hkept hholding with hstance | hop
          · exact .inr hstance
          · refine .inl ⟨_, List.mem_cons_self, rfl, ?_⟩
            rw [(h.taken other key hbefore).1]
            exact hop
        · rw [Function.update_of_ne heq]
          exact .inr hholding

theorem LockInv.perform_quiet (h : LockInv req cfg phase) {outcome : Outcome}
    (hexec : (machine ι faults).exec who cfg.world op outcome = some (answer, world))
    (hop : ∀ command, op ≠ .redis command) (hstance : phase'.stance = (phase who).stance)
    (hreleasing : phase' ≠ .releasing) (hover : ∀ result, phase who ≠ .ended result) :
    LockInv req (cfg.perform who op next answer world) (Function.update phase who phase') := by
  refine h.perform ?_ (fun key heq => ?_) (fun hphase => absurd hphase hreleasing)
    (fun hinside => .inl (hstance ▸ hinside)) hover fun hholding => .inl (hstance ▸ hholding)
  · rw [exec_redis_eq hop hexec, hstance, Function.update_eq_self]
    exact h.exclusive
  · exact absurd (congrArg Event.op heq).symm (hop _)

/-- A deletion by a call that holds the lock or is leaving it. -/
theorem LockInv.perform_del (h : LockInv req cfg phase) (hinside : (phase who).stance ≠ .outside)
    {fate : Fate Err} {answer : Except Err Unit}
    {next : Except Err Unit → PaymentProgram SettleReply}
    (hcommand : KeyStore.exec who cfg.world.redis (.del (lockKey (req who).paymentRequestId)) fate
      = (answer, world.redis)) (hafter : phase' = .releasing ∨ ∃ result, phase' = .ended result) :
    LockInv req
      (cfg.perform who (.redis (.del (lockKey (req who).paymentRequestId))) next answer world)
      (Function.update phase who phase') := by
  refine h.perform (h.exclusive.release hinside hcommand ?_) nofun (fun _ => rfl) (fun _ => ?_)
    (fun result hended => hinside ?_) fun _ => .inr rfl
  · rcases hafter with rfl | ⟨result, rfl⟩ <;> exact nofun
  · rcases hafter with rfl | ⟨result, rfl⟩
    · exact .inl nofun
    · exact .inr ⟨result, rfl⟩
  · rw [hended]
    rfl

omit [DecidableEq ι] in
theorem LockInv.env (h : LockInv req cfg phase) (hredis : world.redis = cfg.world.redis) :
    LockInv req ({ cfg with world := world } : Config (machine ι faults) SettleReply) phase where
  exclusive := by
    change Exclusive world.redis _ _
    rw [hredis]
    exact h.exclusive
  deleted := h.deleted
  taken := h.taken
  kept := h.kept

/-- One step of any call keeps the invariant, if it takes no lock that another call is leaving. -/
theorem LockInv.step (h : SettleFollows req (LockInv req) cfg phase)
    (hawaits : Phase.Awaits (req who) (phase who) op) {outcome : Outcome}
    (hexec : (machine ι faults).exec who cfg.world op outcome = some (answer, world))
    (hgood : AfterReleases cfg ⟨who, op, answer⟩) :
    LockInv req (cfg.perform who op next answer world)
      (Function.update phase who ((phase who).next (req who) op answer)) := by
  have hinv := h.inv
  by_cases hop : ∃ command, op = .redis command
  · obtain ⟨command, rfl⟩ := hop
    obtain ⟨⟨fate, hcommand⟩, -⟩ := exec_redis hexec
    generalize hphase : phase who = current at hawaits
    cases hawaits with
    | lock =>
        have hmissed : ∀ {answer : Except Err Bool}, answer ≠ .ok true →
            KeyStore.exec who cfg.world.redis (.setNx (lockKey (req who).paymentRequestId)) fate
              = (answer, world.redis) →
            LockInv req (cfg.perform who
              (.redis (.setNx (lockKey (req who).paymentRequestId))) next answer world)
              (Function.update phase who (.ended none)) := by
          intro answer hanswer hcommand
          refine hinv.perform ?_ (fun key heq => ?_) nofun (fun _ => .inr ⟨none, rfl⟩) ?_ ?_
          · exact (hinv.exclusive.setNx_missed hcommand).move nofun (absurd rfl)
          · cases heq
            exact absurd rfl hanswer
          · rw [hphase]
            exact nofun
          · rw [hphase]
            exact nofun
        rcases answer with error | _ | _
        · exact hmissed nofun hcommand
        · exact hmissed nofun hcommand
        · refine hinv.perform (hinv.exclusive.acquire hcommand fun other hlock hleaving => ?_)
            (fun key heq => ?_) nofun (fun _ => .inl nofun) ?_ ?_
          · have hreleasing : phase other = .releasing := by
              cases hother : phase other <;> rw [hother] at hleaving <;> cases hleaving
            have hdeleted := hinv.deleted other hreleasing
            rw [hlock] at hdeleted
            have hfinished := hgood who _ rfl other hdeleted
            obtain ⟨outcome, houtcome⟩ := Option.ne_none_iff_exists'.mp hfinished
            have hpost := h.of_result houtcome
            rw [hreleasing] at hpost
            rcases hpost with hpost | ⟨hpost, -⟩ <;> cases hpost
          · cases heq
            exact ⟨rfl, rfl⟩
          · rw [hphase]
            exact nofun
          · exact fun _ => .inl rfl
    | failed =>
        refine hinv.perform_del (by rw [hphase]; exact nofun) hcommand (.inl ?_)
        cases answer <;> rfl
    | releasing =>
        refine hinv.perform_del (by rw [hphase]; exact nofun) hcommand (.inr ⟨none, ?_⟩)
        cases answer <;> rfl
    | closing result =>
        refine hinv.perform_del (by rw [hphase]; exact nofun) hcommand (.inr ⟨result, ?_⟩)
        cases answer <;> rfl
  · have hquiet := hawaits.stance_next (fun command heq => hop ⟨command, heq⟩) answer
    exact hinv.perform_quiet hexec (fun command heq => hop ⟨command, heq⟩) hquiet.1 hquiet.2.1
      hquiet.2.2

end Step

variable {deps : ι → SettleDeps} {start cfg : Config (machine ι faults) SettleReply}

omit [DecidableEq ι] in
theorem SettleStart.lockInv (hstart : SettleStart deps req start) :
    LockInv req start fun _ => .lookup where
  exclusive := .start fun _ => rfl
  deleted := nofun
  taken who key hmem := by
    rw [hstart.history] at hmem
    cases hmem
  kept who key hmem := by
    rw [hstart.history] at hmem
    cases hmem

theorem preserved_lock (hkeys : faults.keysVanish = false) :
    Config.Preserved (M := machine ι faults) (fun who => settleRules (req who))
      (fun _ => settlePost) (LockInv req) AfterReleases where
  call _ _ _ _ _ _ _ _ hfollows _ hallowed hexec hgood :=
    ⟨_, rfl, LockInv.step hfollows hallowed hexec hgood⟩
  env _ _ _ _ hfollows henv := hfollows.inv.env (machine_env_redis hkeys henv)

omit [DecidableEq ι] in
/-- A call that obtained a lock and is still running holds it or is leaving it. -/
theorem LockInv.inside_of_running {phase : ι → Phase} (h : SettleFollows req (LockInv req) cfg phase)
    {who : ι} {key : Key} (htook : took who key ∈ cfg.history) (hrunning : ¬cfg.Finished who) :
    key = lockKey (req who).paymentRequestId ∧ (phase who).stance ≠ .outside := by
  obtain ⟨hkey, hstance⟩ := h.inv.taken who key htook
  refine ⟨hkey, hstance.resolve_right ?_⟩
  rintro ⟨result, hended⟩
  obtain ⟨op, next, hcall⟩ := Program.result?_eq_none_iff.mp (not_not.mp hrunning)
  have hawaits : Phase.Awaits (req who) (phase who) op := h.allowed hcall
  rw [hended] at hawaits
  cases hawaits

/-- **Exclusion.** As long as no call takes a lock that another call has deleted and is still running
after, at most one call is between taking it and the end of its submission, and no call deletes the
lock of another. -/
theorem settle_exclusive (hkeys : faults.keysVanish = false) (hstart : SettleStart deps req start)
    (hreach : Config.Reachable AfterReleases start cfg) :
    (∀ who other key, InCritical cfg who key → InCritical cfg other key → who = other) ∧
    ∀ who key next, cfg.calls who = .perform (.redis (.del key)) next →
      ∀ other, HoldsLock cfg other key → other = who := by
  obtain ⟨phase, hfollows⟩ :=
    hreach.follows (preserved_lock hkeys) ⟨hstart.follows.sat, hstart.lockInv⟩
  constructor
  · rintro who other key ⟨htook, -, hrunning⟩ ⟨htook', -, hrunning'⟩
    obtain ⟨hkey, hinside⟩ := LockInv.inside_of_running hfollows htook hrunning
    obtain ⟨hkey', hinside'⟩ := LockInv.inside_of_running hfollows htook' hrunning'
    exact hfollows.inv.exclusive.alone who other hinside hinside' (hkey.symm.trans hkey')
  · rintro who key next hcall other ⟨htook, hkept⟩
    have hholding := (hfollows.inv.kept other key htook).resolve_left hkept
    have hkey := (hfollows.inv.taken other key htook).1
    have hawaits : Phase.Awaits (req who) (phase who) (.redis (.del key)) := hfollows.allowed hcall
    refine hfollows.inv.exclusive.alone other who (by rw [hholding]; exact nofun) ?_ ?_
    · generalize phase who = current at hawaits
      cases hawaits <;> exact nofun
    · rw [← hkey]
      generalize phase who = current at hawaits
      cases hawaits <;> rfl

end Runs

/-! ### Three calls of one settlement -/

section Schedules

/-- Three calls of one settlement. -/
abbrev ThreeCalls := Config (machine (Fin 3) ⟨false, false⟩) SettleReply

/-- Call 0 fails and stops before its second deletion, then call 1 takes the lock and submits. -/
def failAndRetake : List (Move (machine (Fin 3) ⟨false, false⟩)) :=
  lookups 0 ++ lockAndCreate 0 "set-0" ++ submitMined 0 "0x01" .reverted
    ++ [.call 0 (.fate .done), .call 0 (.fate .done)]
    ++ lookups 1 ++ lockAndCreate 1 "set-1" ++ [.call 1 (.fate .done)]

/-- Call 0 deletes the lock of call 1, then call 2 takes it and submits. -/
def deleteAndRetake : List (Move (machine (Fin 3) ⟨false, false⟩)) :=
  [.call 0 (.fate .done)] ++ lookups 2 ++ lockAndCreate 2 "set-2" ++ [.call 2 (.fate .done)]

/-- Whether a call took the lock of the sample request and is still in its submission. -/
def critical (cfg : ThreeCalls) (who : Fin 3) : Bool :=
  (cfg.history.any fun event => event.who = who && lockTaken event = some (lockKey "req-0"))
    && (cfg.history.all fun event => event.who ≠ who || event.op ≠ .chain .submitOnChainEnd)
    && (cfg.calls who).result?.isNone

theorem inCritical_of_critical {cfg : ThreeCalls} {who : Fin 3} (h : critical cfg who = true) :
    InCritical cfg who (lockKey "req-0") := by
  simp only [critical, Bool.and_eq_true, List.any_eq_true, List.all_eq_true,
    Option.isNone_iff_eq_none, decide_eq_true_eq, Bool.or_eq_true] at h
  obtain ⟨⟨⟨event, hevent, rfl, htaken⟩, hinside⟩, hrunning⟩ := h
  refine ⟨eq_took_of_lockTaken htaken ▸ hevent, ?_, not_not.mpr hrunning⟩
  rintro ⟨ended, hended, hwho, hop⟩
  exact (hinside ended hended).elim (fun h => h hwho) fun h => h hop

/-- Whether an event takes no lock, or takes one when every call that deleted a lock is over and no
settlement is confirmed. -/
def calm (cfg : ThreeCalls) (event : Event interface Err (Fin 3)) : Bool :=
  (lockTaken event).isNone
    || ((cfg.history.all fun deletion =>
          deletion.op ≠ .redis (.del (lockKey "req-0")) || (cfg.calls deletion.who).result?.isSome)
        && cfg.world.db.settlements.all (·.settlementStatus ≠ .confirmed)
        && lockTaken event = some (lockKey "req-0"))

theorem beforeConfirmation_of_calm {cfg : ThreeCalls} {event : Event interface Err (Fin 3)}
    (h : calm cfg event = true) : BeforeConfirmation cfg event := by
  simp only [calm, Bool.or_eq_true, Bool.and_eq_true, List.all_eq_true, decide_eq_true_eq] at h
  constructor
  · rintro who key rfl other ⟨deletion, hdeletion, rfl, hop⟩
    rcases h with hnone | ⟨⟨hdeletions, -⟩, hkey⟩
    · cases hnone
    · obtain rfl : key = lockKey "req-0" := Option.some.inj hkey
      have hsome := (hdeletions deletion hdeletion).resolve_left fun hne => hne hop
      exact fun hnone => by rw [hnone] at hsome; cases hsome
  · rintro who requestId rfl
    rcases h with hnone | ⟨⟨-, hrows⟩, -⟩
    · cases hnone
    · exact Db.confirmedFor_eq_nil_iff.mpr fun row hrow _ hstatus => hrows row hrow hstatus

/-- Call 0 fails and is over before call 1 takes the lock and submits. -/
def failThenSubmit : List (Move (machine (Fin 3) ⟨false, false⟩)) :=
  lookups 0 ++ lockAndCreate 0 "set-0" ++ submitMined 0 "0x01" .reverted
    ++ [.call 0 (.fate .done), .call 0 (.fate .done), .call 0 (.fate .done)]
    ++ lookups 1 ++ lockAndCreate 1 "set-1"

/-- Whether a call is about to enter `submitOnChain`. -/
def entersSubmit (cfg : ThreeCalls) (who : Fin 3) : Bool :=
  match (cfg.calls who).next? with
  | some (.chain (.submitOnChain _)) => true
  | _ => false

theorem exists_submit_of_entersSubmit {cfg : ThreeCalls} {who : Fin 3}
    (h : entersSubmit cfg who = true) :
    ∃ args next, cfg.calls who = .perform (.chain (.submitOnChain args)) next := by
  unfold entersSubmit at h
  split at h
  · rename_i args hnext
    exact ⟨args, Program.next?_eq_some_iff.mp hnext⟩
  · cases h

theorem exists_calm_run : ∃ cfg : ThreeCalls,
    Config.Reachable BeforeConfirmation (settleStart (Fin 3) ⟨false, false⟩) cfg ∧
      critical cfg 1 = true ∧ entersSubmit cfg 1 = true := by
  obtain ⟨cfg, hrun, htest⟩ := Option.map_eq_some_iff.mp
    (show ((settleStart (Fin 3) ⟨false, false⟩).runChecked calm failThenSubmit).map
      (fun cfg => critical cfg 1 && entersSubmit cfg 1) = some true by decide +kernel)
  rw [Bool.and_eq_true] at htest
  exact ⟨cfg, Config.reachable_of_runChecked (fun _ _ => beforeConfirmation_of_calm) hrun, htest⟩

theorem settle_exclusive_afterFailure :
    ∃ cfg : ThreeCalls, InCritical cfg 1 (lockKey "req-0") ∧
      ∀ other, InCritical cfg other (lockKey "req-0") → 1 = other := by
  obtain ⟨cfg, hreach, hcritical, -⟩ := exists_calm_run
  have hinside := inCritical_of_critical hcritical
  have hexclusive := settle_exclusive rfl (settleStart_start _) (hreach.mono fun _ _ h => h.1)
  exact ⟨cfg, hinside, fun other => hexclusive.1 1 other _ hinside⟩

theorem settle_not_exclusive :
    ∃ middle last : ThreeCalls,
      Config.Reachable Config.anyStep (settleStart (Fin 3) ⟨false, false⟩) middle ∧
      (∃ next, middle.calls 0 = .perform (.redis (.del (lockKey "req-0"))) next) ∧
      InCritical middle 1 (lockKey "req-0") ∧ ¬Deleted middle 1 (lockKey "req-0") ∧
      Config.Reachable Config.anyStep middle last ∧
      InCritical last 1 (lockKey "req-0") ∧ InCritical last 2 (lockKey "req-0") := by
  obtain ⟨middle, last, hmiddle, hdeleting, hlast, hboth⟩ := Config.exists_reachable_of_runs
    (show ((settleStart (Fin 3) ⟨false, false⟩).run failAndRetake).map (fun cfg =>
      (cfg.calls 0).next? = some (.redis (.del (lockKey "req-0"))) && critical cfg 1
        && cfg.history.all fun event => event.who ≠ 1 || event.op ≠ .redis (.del (lockKey "req-0")))
      = some true by decide +kernel)
    (show ((settleStart (Fin 3) ⟨false, false⟩).run (failAndRetake ++ deleteAndRetake)).map
      (fun cfg => critical cfg 1 && critical cfg 2) = some true by decide +kernel)
  simp only [Bool.and_eq_true, List.all_eq_true, decide_eq_true_eq, Bool.or_eq_true] at hdeleting hboth
  obtain ⟨⟨hdel, hcritical⟩, hkept⟩ := hdeleting
  refine ⟨middle, last, hmiddle, Program.next?_eq_some_iff.mp hdel,
    inCritical_of_critical hcritical, ?_, hlast, inCritical_of_critical hboth.1,
    inCritical_of_critical hboth.2⟩
  rintro ⟨event, hevent, hwho, hop⟩
  exact (hkept event hevent).elim (fun h => h hwho) fun h => h hop

end Schedules

/-! ### No submission after a confirmation -/

section Submissions

variable {ι : Type} {faults : Faults} [DecidableEq ι] {req : ι → SettleRequest}
  {deps : ι → SettleDeps} {start cfg : Config (machine ι faults) SettleReply}

/-- The call holds the lock and has not submitted. -/
def Phase.Unsubmitted : Phase → Prop
  | name => True
  | create _ => True
  | body _ => True
  | _ => False

/-- While a call that has not submitted holds the lock, its request has no confirmed row. -/
structure SubmitInv (req : ι → SettleRequest) (cfg : Config (machine ι faults) SettleReply)
    (phase : ι → Phase) : Prop where
  lock : LockInv req cfg phase
  rows : ∀ who settlementId, (phase who).row? = some settlementId →
    cfg.world.db.RowOf settlementId (req who).paymentRequestId
  unconfirmed : ∀ who, (phase who).Unsubmitted →
    cfg.world.db.confirmedFor (req who).paymentRequestId = []

omit [DecidableEq ι] in
theorem Phase.stance_of_unsubmitted {phase : Phase} (h : phase.Unsubmitted) :
    phase.stance ≠ .outside := by
  cases phase <;> first | exact h.elim | exact nofun

theorem SubmitInv.step {phase : ι → Phase} {who : ι} {op : Op}
    {next : Except Err (interface.Ans op) → PaymentProgram SettleReply}
    {answer : Except Err (interface.Ans op)} {world : World ι}
    (h : SettleFollows req (SubmitInv req) cfg phase)
    (hawaits : Phase.Awaits (req who) (phase who) op) {outcome : Outcome}
    (hexec : (machine ι faults).exec who cfg.world op outcome = some (answer, world))
    (hgood : BeforeConfirmation cfg ⟨who, op, answer⟩) :
    SubmitInv req (cfg.perform who op next answer world)
      (Function.update phase who ((phase who).next (req who) op answer)) where
  lock := LockInv.step ⟨h.sat, h.inv.lock⟩ hawaits hexec hgood.1
  rows := by
    intro other settlementId hrow
    by_cases heq : other = who
    · subst heq
      rw [Function.update_self] at hrow
      have hmine := h.inv.rows other settlementId
      generalize phase other = current at hawaits hrow hmine
      cases hawaits with
      | create created =>
          rcases answer with error | done
          · cases hrow
          · cases hrow
            rcases exec_createSettlement hexec with ⟨hfresh, rfl⟩ | ⟨⟨error, herror⟩, -⟩
            · exact Db.RowOf.createSettlement hfresh
            · cases herror
      | lookup =>
          rcases answer with error | _ | ⟨paymentRequest, _ | ⟨verification, verifications⟩⟩ <;>
            cases hrow
      | check => rcases answer with error | _ | ⟨existing, receipt⟩ <;> cases hrow
      | lock => rcases answer with error | _ | _ <;> cases hrow
      | submit created args => exact exec_rowOf hexec (hmine hrow)
      | write created transfer => exact exec_rowOf hexec (hmine hrow)
      | wait created rpcUrl txHash => exact exec_rowOf hexec (hmine hrow)
      | leave created => exact exec_rowOf hexec (hmine hrow)
      | receiptId created => exact exec_rowOf hexec (hmine hrow)
      | now created => exact exec_rowOf hexec (hmine hrow)
      | confirm created data paymentRequest receiptId =>
          cases answer with
          | error error => exact exec_rowOf hexec (hmine hrow)
          | ok done => cases hrow
      | _ => cases answer <;> cases hrow
    · rw [Function.update_of_ne heq] at hrow
      exact exec_rowOf hexec (h.inv.rows other settlementId hrow)
  unconfirmed := by
    intro other hother
    -- before the step there was no confirmed row either
    have hbefore : cfg.world.db.confirmedFor (req other).paymentRequestId = [] := by
      by_cases heq : other = who
      · subst heq
        rw [Function.update_self] at hother
        have hmine := h.inv.unconfirmed other
        generalize phase other = current at hawaits hother hmine
        cases hawaits with
        | lock =>
            rcases answer with error | _ | _
            · exact hother.elim
            · exact hother.elim
            · exact hgood.2 other _ rfl
        | lookup =>
            rcases answer with error | _ | ⟨paymentRequest, _ | ⟨verification, verifications⟩⟩ <;>
              exact hother.elim
        | check => rcases answer with error | _ | ⟨existing, receipt⟩ <;> exact hother.elim
        | name => exact hmine trivial
        | create created => exact hmine trivial
        | submit created args => exact hmine trivial
        | failUnsubmitted created => exact hmine trivial
        | _ => cases answer <;> exact hother.elim
      · rw [Function.update_of_ne heq] at hother
        exact h.inv.unconfirmed other hother
    refine exec_confirmedFor hexec hbefore (fun row hop => ?_) fun id data receipt hop row hrow hid => ?_
    · subst hop
      generalize phase who = current at hawaits
      cases hawaits with
      | create created => exact nofun
    · -- a confirmation is by another holder, so of another request
      subst hop
      intro hrequest
      have hmine := h.inv.rows who id
      have hstance : (phase who).stance = .holding ∧ (phase who).row? = some id ∧
          ¬((phase who).next (req who) (.confirmSettlement id data receipt) answer).Unsubmitted := by
        generalize phase who = current at hawaits
        cases hawaits with
        | confirm id data paymentRequest receiptId =>
            refine ⟨rfl, rfl, ?_⟩
            cases answer <;> exact not_false
      by_cases heq : other = who
      · subst heq
        rw [Function.update_self] at hother
        exact hstance.2.2 hother
      · rw [Function.update_of_ne heq] at hother
        have hsame := hrequest.symm.trans ((hmine hstance.2.1).2 row hrow hid)
        exact heq (h.inv.lock.exclusive.alone other who (Phase.stance_of_unsubmitted hother)
          (by rw [hstance.1]; exact nofun) (congrArg lockKey hsame))

theorem preserved_submit (hkeys : faults.keysVanish = false) :
    Config.Preserved (M := machine ι faults) (fun who => settleRules (req who))
      (fun _ => settlePost) (SubmitInv req) BeforeConfirmation where
  call _ _ _ _ _ _ _ _ hfollows _ hallowed hexec hgood :=
    ⟨_, rfl, SubmitInv.step hfollows hallowed hexec hgood⟩
  env cfg phase event world hfollows henv := by
    have hdb := machine_env_db henv
    refine ⟨hfollows.inv.lock.env (machine_env_redis hkeys henv), ?_, ?_⟩
    · exact hdb ▸ hfollows.inv.rows
    · exact hdb ▸ hfollows.inv.unconfirmed

/-- **No second submission.** As long as, besides, no call takes the lock after a row of its request
has been confirmed, no submission starts after a confirmation. -/
theorem submit_before_confirmation (hkeys : faults.keysVanish = false)
    (hstart : SettleStart deps req start) (hreach : Config.Reachable BeforeConfirmation start cfg)
    {later : Config (machine ι faults) SettleReply}
    (hlater : Config.Reachable BeforeConfirmation cfg later) {who : ι} {args : SubmitArgs}
    {next : Except Err Unit → PaymentProgram SettleReply}
    (hcall : later.calls who = .perform (.chain (.submitOnChain args)) next) :
    later.world.db.confirmedFor (req who).paymentRequestId = [] ∧
      (faults.commitLost = false → cfg.world.db.confirmedFor (req who).paymentRequestId = []) := by
  have hbegin : SettleFollows req (SubmitInv req) start fun _ => .lookup :=
    ⟨hstart.follows.sat, hstart.lockInv, nofun, fun _ => False.elim⟩
  obtain ⟨phase, hfollows⟩ :=
    Config.Reachable.follows (preserved_submit hkeys) (.trans hreach hlater) hbegin
  have hnow : later.world.db.confirmedFor (req who).paymentRequestId = [] := by
    have hawaits : Phase.Awaits (req who) (phase who) (.chain (.submitOnChain args)) :=
      hfollows.allowed hcall
    refine hfollows.inv.unconfirmed who ?_
    generalize phase who = current at hawaits
    cases hawaits with
    | submit settlementId args => trivial
  refine ⟨hnow, fun hreported => ?_⟩
  -- a row confirmed earlier would still be confirmed
  have hany {one other : Config (machine ι faults) SettleReply}
      (h : Config.Reachable BeforeConfirmation one other) :
      Config.Reachable Config.anyStep one other := h.mono fun _ _ _ => trivial
  obtain ⟨phase', hrows⟩ := rows_follow hreported hstart (hany hreach)
  obtain ⟨phase'', hrows'⟩ := (hany hlater).follows (preserved_rows hreported _) hrows
  rw [Db.confirmedFor_eq_nil_iff] at hnow ⊢
  intro row hrow hrequest hstatus
  obtain ⟨row', hrow', -, hdecided⟩ := hrows'.inv.advances.settlements row hrow
  obtain rfl := hdecided.eq_of_confirmed hstatus
  exact hnow row' hrow' hrequest hstatus

end Submissions

theorem submit_before_confirmation_afterFailure :
    ∃ cfg : ThreeCalls, (∃ args next, cfg.calls 1 = .perform (.chain (.submitOnChain args)) next) ∧
      cfg.world.db.confirmedFor "req-0" = [] := by
  obtain ⟨cfg, hreach, -, henters⟩ := exists_calm_run
  obtain ⟨args, next, hcall⟩ := exists_submit_of_entersSubmit henters
  exact ⟨cfg, ⟨args, next, hcall⟩,
    (submit_before_confirmation rfl (settleStart_start _) hreach .refl hcall).1⟩

/-- Call 1 has found no settlement, and call 0 settles. -/
def settleMeanwhile : List (Move (machine (Fin 3) ⟨false, false⟩)) :=
  lookups 1 ++ settleMoves 0 "set-0" "0x01" "rec-0"

theorem submit_after_confirmation :
    ∃ middle last : ThreeCalls,
      Config.Reachable Config.anyStep (settleStart (Fin 3) ⟨false, false⟩) middle ∧
      middle.world.db.confirmedFor "req-0" ≠ [] ∧
      Config.Reachable Config.anyStep middle last ∧
      ∃ args next, last.calls 1 = .perform (.chain (.submitOnChain args)) next := by
  obtain ⟨middle, last, hmiddle, hconfirmed, hlast, henters⟩ := Config.exists_reachable_of_runs
    (show ((settleStart (Fin 3) ⟨false, false⟩).run settleMeanwhile).map (fun cfg =>
      decide (cfg.world.db.confirmedFor "req-0" ≠ [])) = some true by decide +kernel)
    (show ((settleStart (Fin 3) ⟨false, false⟩).run
      (settleMeanwhile ++ lockAndCreate 1 "set-1")).map (entersSubmit · 1) = some true by
        decide +kernel)
  exact ⟨middle, last, hmiddle, of_decide_eq_true hconfirmed, hlast,
    exists_submit_of_entersSubmit henters⟩

end Payment

end FacilitatorX402
