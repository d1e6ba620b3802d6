import FacilitatorX402.Library.UnownedLock
import FacilitatorX402.Proof.RedisAnswers
import FacilitatorX402.Proof.ServiceStages

/-!
# One settlement for each request

`runSettle` looks for a settlement before it takes the lock, and not once more under it. A call that
has found none can take the lock after another call has settled and deleted it, and settle again. The
result here is what remains: as long as nobody takes the lock of a request that has a row, a request
gets one row and is submitted once.
-/

namespace FacilitatorX402

open Interact KeyStore KeyedRows OverRedis

namespace Service

/-- Where a stage stands towards the lock. From the creation of its row on, a call may delete the
lock, and more than once. -/
def Stage.stance : Stage → Stance
  | locked _ => .holding
  | created _ => .leaving
  | submitted _ => .leaving
  | _ => .outside

def ServiceCall.requestId : ServiceCall → String
  | verify _ requestId => requestId
  | settle opts => opts.requestId

/-- The lock of the request a call is about. -/
def ServiceCall.lock (call : ServiceCall) : Key := lockKey call.requestId

/-- The request of each settlement. -/
def Db.settledIds (db : Db) : List String := db.settlements.map (·.requestId)

/-- What a stage of a call says about the requests that have a row and those that were submitted. -/
def Stage.Fits (requestId : String) (settledIds submittedIds : List String) : Stage → Prop
  | locked _ => requestId ∉ settledIds
  | created _ => requestId ∈ settledIds ∧ requestId ∉ submittedIds
  | submitted _ => requestId ∈ settledIds
  | _ => True

namespace Stage.Fits

variable {stage : Stage} {requestId other : String} {settledIds submittedIds : List String}

theorem add_row (h : stage.Fits requestId settledIds submittedIds)
    (hne : stage.stance ≠ .outside → requestId ≠ other) :
    stage.Fits requestId (settledIds ++ [other]) submittedIds := by
  cases stage with
  | locked row =>
      have hother : requestId ≠ other := hne nofun
      simpa [Stage.Fits, hother] using h
  | created row => exact ⟨List.mem_append_left _ h.1, h.2⟩
  | submitted row => exact List.mem_append_left _ h
  | _ => trivial

theorem submit (h : stage.Fits requestId settledIds submittedIds)
    (hne : stage.stance ≠ .outside → requestId ≠ other) :
    stage.Fits requestId settledIds (other :: submittedIds) := by
  cases stage with
  | created row => exact ⟨h.1, List.not_mem_cons_of_ne_of_not_mem (hne nofun) h.2⟩
  | _ => exact h

end Stage.Fits

def Op.entersSubmit : Op → Bool
  | .chain (.submitOnChain _) => true
  | _ => false

theorem claimKey_ne_lock {key : Key} (h : claimKey key) (call : ServiceCall) : call.lock ≠ key := by
  rintro rfl
  exact h

theorem Op.Quiet.entersSubmit_eq {op : Op} (h : op.Quiet) : op.entersSubmit = false := by
  unfold Op.entersSubmit
  split
  · exact h.elim
  · rfl

section Runs

variable {ι : Type} {faults : Faults}

/-- The requests of the `submitOnChain` calls so far, newest first. -/
def submissions (call : ι → ServiceCall) (history : List (Event interface Err ι)) : List String :=
  (history.filter (·.op.entersSubmit)).map fun event => (call event.who).requestId

/-- A lock is only taken while its request has no row. -/
def BeforeAnyRow (cfg : Config (machine ι faults) ServiceReply) (event : Event interface Err ι) :
    Prop :=
  ∀ who requestId, event = took who (lockKey requestId) →
    cfg.world.db.settlementsOf requestId = []

theorem Db.settlementsOf_eq_nil_iff {db : Db} {requestId : String} :
    db.settlementsOf requestId = [] ↔ requestId ∉ db.settledIds := by
  rw [Db.settlementsOf, List.filter_eq_nil_iff, Db.settledIds, List.mem_map]
  constructor
  · rintro h ⟨row, hrow, hrequest⟩
    exact h row hrow (decide_eq_true hrequest)
  · exact fun h row hrow hrequest => h ⟨row, hrow, of_decide_eq_true hrequest⟩

/-- Only `create` adds a settlement, and no statement changes the request of one. -/
theorem exec_settledIds {who : ι} {world world' : World ι} {op : Op} {outcome : Outcome}
    {answer : Except Err (interface.Ans op)}
    (h : (machine ι faults).exec who world op outcome = some (answer, world')) :
    world'.db.settledIds = world.db.settledIds ∨ ∃ id requestId referralCode,
      op = .createSettlement id requestId referralCode ∧
      world'.db.settledIds = world.db.settledIds ++ [requestId] := by
  cases exec_effect h with
  | upsertPaymentRequest row =>
      left
      simp only [Db.settledIds, Db.upsertPaymentRequest]
      split <;> rfl
  | createSettlement id requestId referralCode =>
      exact .inr ⟨id, requestId, referralCode, rfl, List.map_append⟩
  | failSettlement id => exact .inl (map_update (f := PaymentSettlement.fail) (fun _ => rfl) id _)
  | confirmSettlement id data receipt =>
      exact .inl (map_update (f := fun row => PaymentSettlement.confirm row data) (fun _ => rfl) id _)
  | confirmByWorker id data receipt =>
      left
      simp only [Db.confirmByWorker]
      split <;> exact map_update (f := fun row => PaymentSettlement.confirm row data)
        (fun _ => rfl) id _
  | _ => exact .inl rfl

variable [DecidableEq ι] {call : ι → ServiceCall}

/-- The locks are exclusive, and every stage fits the rows and the submissions. -/
structure OnceInv (call : ι → ServiceCall) (cfg : Config (machine ι faults) ServiceReply)
    (stage : ι → Stage) : Prop where
  exclusive : Exclusive cfg.world.redis (fun who => (call who).lock) fun who => (stage who).stance
  fits : ∀ who, (stage who).Fits (call who).requestId cfg.world.db.settledIds
    (submissions call cfg.history)
  unique : cfg.world.db.settledIds.Nodup
  once : (submissions call cfg.history).Nodup
  settled : submissions call cfg.history ⊆ cfg.world.db.settledIds

section Step

variable {cfg : Config (machine ι faults) ServiceReply} {stage : ι → Stage} {who : ι} {op : Op}
  {next : Except Err (interface.Ans op) → ServiceProgram ServiceReply}
  {answer : Except Err (interface.Ans op)} {world : World ι} {stage' : Stage}

omit [DecidableEq ι] in
theorem submissions_of_not_submit {history : List (Event interface Err ι)}
    (hop : op.entersSubmit = false) :
    submissions call (⟨who, op, answer⟩ :: history) = submissions call history := by
  simp [submissions, hop]

omit [DecidableEq ι] in
theorem submissions_of_submit {history : List (Event interface Err ι)}
    (hop : op.entersSubmit = true) :
    submissions call (⟨who, op, answer⟩ :: history)
      = (call who).requestId :: submissions call history := by
  simp [submissions, hop]

omit [DecidableEq ι] in
/-- No two calls have got as far as the lock for one request. -/
theorem OnceInv.requestId_ne (h : OnceInv call cfg stage) {other : ι} (hne : other ≠ who)
    (hwho : (stage who).stance ≠ .outside) (hother : (stage other).stance ≠ .outside) :
    (call other).requestId ≠ (call who).requestId :=
  fun heq => hne (h.exclusive.alone other who hother hwho (congrArg lockKey heq))

theorem OnceInv.perform (h : OnceInv call cfg stage)
    (hexclusive : Exclusive world.redis (fun who => (call who).lock)
      (Function.update (fun other => (stage other).stance) who stage'.stance))
    (hrows : world.db.settledIds = cfg.world.db.settledIds) (hop : op.entersSubmit = false)
    (hfits : stage'.Fits (call who).requestId cfg.world.db.settledIds
      (submissions call cfg.history)) :
    OnceInv call (cfg.perform who op next answer world) (Function.update stage who stage') := by
  have hsubmitted : submissions call (⟨who, op, answer⟩ :: cfg.history)
      = submissions call cfg.history := submissions_of_not_submit hop
  constructor
  · change Exclusive _ _ (Stage.stance ∘ Function.update stage who stage')
    rw [Function.comp_update]
    exact hexclusive
  · rw [Config.perform_history, Config.perform_world, hsubmitted, hrows]
    apply (Function.forall_update_iff stage fun other stage => stage.Fits (call other).requestId
      cfg.world.db.settledIds (submissions call cfg.history)).mpr
    exact ⟨hfits, fun other _ => h.fits other⟩
  · rw [Config.perform_world, hrows]
    exact h.unique
  · rw [Config.perform_history, hsubmitted]
    exact h.once
  · rw [Config.perform_history, Config.perform_world, hsubmitted, hrows]
    exact h.settled

theorem OnceInv.perform_create (h : OnceInv call cfg stage) {row : PaymentVerification}
    (hlocked : stage who = .locked row) (hredis : world.redis = cfg.world.redis)
    (hrows : world.db.settledIds = cfg.world.db.settledIds ++ [(call who).requestId])
    (hop : op.entersSubmit = false) (hstage : stage' = .created row ∨ stage' = .read row) :
    OnceInv call (cfg.perform who op next answer world) (Function.update stage who stage') := by
  have hsubmitted : submissions call (⟨who, op, answer⟩ :: cfg.history)
      = submissions call cfg.history := submissions_of_not_submit hop
  have hinside : (stage who).stance ≠ .outside := by
    rw [hlocked]
    exact nofun
  have hvacant : (call who).requestId ∉ cfg.world.db.settledIds := by
    have hfits := h.fits who
    rwa [hlocked] at hfits
  have hnew : (call who).requestId ∈ cfg.world.db.settledIds ++ [(call who).requestId] :=
    List.mem_append_right _ (List.mem_singleton_self _)
  constructor
  · change Exclusive _ _ (Stage.stance ∘ Function.update stage who stage')
    rw [Function.comp_update, Config.perform_world, hredis]
    apply h.exclusive.move
    · intro hholding
      rcases hstage with rfl | rfl <;> cases hholding
    · exact fun _ => hinside
  · rw [Config.perform_history, Config.perform_world, hsubmitted, hrows]
    apply (Function.forall_update_iff stage fun other stage => stage.Fits (call other).requestId
      (cfg.world.db.settledIds ++ [(call who).requestId]) (submissions call cfg.history)).mpr
    refine ⟨?_, fun other hne => (h.fits other).add_row (h.requestId_ne hne hinside)⟩
    rcases hstage with rfl | rfl
    · exact ⟨hnew, fun hmem => hvacant (h.settled hmem)⟩
    · trivial
  · rw [Config.perform_world, hrows, List.nodup_append]
    refine ⟨h.unique, List.nodup_singleton _, ?_⟩
    rintro requestId hbefore _ hsame rfl
    exact hvacant (List.mem_singleton.mp hsame ▸ hbefore)
  · rw [Config.perform_history, hsubmitted]
    exact h.once
  · rw [Config.perform_history, Config.perform_world, hsubmitted, hrows]
    exact fun _ hmem => List.mem_append_left _ (h.settled hmem)

theorem OnceInv.perform_submit (h : OnceInv call cfg stage) {row : PaymentVerification}
    (hcreated : stage who = .created row) (hredis : world.redis = cfg.world.redis)
    (hrows : world.db.settledIds = cfg.world.db.settledIds) (hop : op.entersSubmit = true) :
    OnceInv call (cfg.perform who op next answer world)
      (Function.update stage who (.submitted row)) := by
  have hsubmitted : submissions call (⟨who, op, answer⟩ :: cfg.history)
      = (call who).requestId :: submissions call cfg.history := submissions_of_submit hop
  have hinside : (stage who).stance ≠ .outside := by
    rw [hcreated]
    exact nofun
  obtain ⟨hpresent, hfresh⟩ : (call who).requestId ∈ cfg.world.db.settledIds ∧
      (call who).requestId ∉ submissions call cfg.history := by
    have hfits := h.fits who
    rwa [hcreated] at hfits
  constructor
  · change Exclusive _ _ (Stage.stance ∘ Function.update stage who (.submitted row))
    rw [Function.comp_update, Config.perform_world, hredis]
    exact h.exclusive.move nofun fun _ => hinside
  · rw [Config.perform_history, Config.perform_world, hsubmitted, hrows]
    apply (Function.forall_update_iff stage fun other stage => stage.Fits (call other).requestId
      cfg.world.db.settledIds ((call who).requestId :: submissions call cfg.history)).mpr
    exact ⟨hpresent, fun other hne => (h.fits other).submit (h.requestId_ne hne hinside)⟩
  · rw [Config.perform_world, hrows]
    exact h.unique
  · rw [Config.perform_history, hsubmitted]
    exact List.nodup_cons.mpr ⟨hfresh, h.once⟩
  · rw [Config.perform_history, Config.perform_world, hsubmitted, hrows]
    exact List.cons_subset.mpr ⟨hpresent, h.settled⟩

omit [DecidableEq ι] in
/-- A quiet operation disturbs no lock. -/
theorem exec_exclusive_of_quiet {outcome : Outcome}
    (hexec : (machine ι faults).exec who cfg.world op outcome = some (answer, world))
    (hquiet : op.Quiet) {stance : ι → Stance}
    (h : Exclusive cfg.world.redis (fun who => (call who).lock) stance) :
    Exclusive world.redis (fun who => (call who).lock) stance := by
  by_cases hop : ∃ command, op = .redis command
  · obtain ⟨command, rfl⟩ := hop
    obtain ⟨⟨fate, hcommand⟩, -⟩ := exec_redis hexec
    cases command with
    | setNx key => exact h.setNx_missed hcommand
    | del key => exact h.del_other hcommand fun other => claimKey_ne_lock hquiet (call other)
  · rw [exec_redis_eq (fun command heq => hop ⟨command, heq⟩) hexec]
    exact h

/-- A step of a call that stays outside of the lock, at an operation of the database that adds no
settlement. -/
theorem OnceInv.perform_outside (h : OnceInv call cfg stage) {outcome : Outcome}
    (hexec : (machine ι faults).exec who cfg.world op outcome = some (answer, world))
    (hredis : ∀ command, op ≠ .redis command) (hrows : world.db.settledIds = cfg.world.db.settledIds)
    (hop : op.entersSubmit = false) (hstage : stage' = stage who ∨ stage'.stance = .outside) :
    OnceInv call (cfg.perform who op next answer world) (Function.update stage who stage') := by
  apply h.perform _ hrows hop
  · rcases hstage with rfl | houtside
    · exact h.fits who
    · cases stage' with
      | locked row => cases houtside
      | created row => cases houtside
      | submitted row => cases houtside
      | _ => trivial
  · rw [exec_redis_eq hredis hexec]
    rcases hstage with rfl | houtside
    · rw [Function.update_eq_self]
      exact h.exclusive
    · rw [houtside]
      exact h.exclusive.move nofun (absurd rfl)

theorem OnceInv.perform_lock (h : OnceInv call cfg stage) {row : PaymentVerification}
    (hread : stage who = .read row) {requestId : String} (hmine : (call who).requestId = requestId)
    {outcome : Outcome} {answer : Except Err Bool}
    {next : Except Err Bool → ServiceProgram ServiceReply}
    (hexec : (machine ι faults).exec who cfg.world (.redis (.setNx (lockKey requestId))) outcome
      = some (answer, world))
    (hgood : BeforeAnyRow cfg ⟨who, .redis (.setNx (lockKey requestId)), answer⟩) :
    OnceInv call (cfg.perform who (.redis (.setNx (lockKey requestId))) next answer world)
      (Function.update stage who
        ((stage who).next (.redis (.setNx (lockKey requestId))) answer)) := by
  obtain ⟨⟨fate, hcommand⟩, hdb⟩ := exec_redis hexec
  have hrows : world.db.settledIds = cfg.world.db.settledIds := by rw [hdb]
  have hmissed : OnceInv call (cfg.perform who (.redis (.setNx (lockKey requestId))) next answer
      world) (Function.update stage who (.read row)) := by
    apply h.perform _ hrows rfl
    · trivial
    · exact (h.exclusive.setNx_missed hcommand).move nofun (absurd rfl)
  rw [hread]
  rcases answer with error | _ | _
  · exact hmissed
  · exact hmissed
  · have hvacant : requestId ∉ cfg.world.db.settledIds :=
      Db.settlementsOf_eq_nil_iff.mp (hgood who requestId rfl)
    subst hmine
    apply h.perform _ hrows rfl
    · exact hvacant
    · apply h.exclusive.acquire hcommand
      intro other hlock hleaving
      have hsame : (call other).requestId = (call who).requestId := Key.settleServiceLock.inj hlock
      have hfits := h.fits other
      rw [hsame] at hfits
      cases hstage : stage other with
      | created row' =>
          rw [hstage] at hfits
          exact hvacant hfits.1
      | submitted row' =>
          rw [hstage] at hfits
          exact hvacant hfits
      | _ =>
          rw [hstage] at hleaving
          cases hleaving

theorem OnceInv.perform_row (h : OnceInv call cfg stage) {row : PaymentVerification}
    (hlocked : stage who = .locked row) {id requestId : String}
    (hmine : (call who).requestId = requestId) {referralCode : Option String} {outcome : Outcome}
    {answer : Except Err Unit} {next : Except Err Unit → ServiceProgram ServiceReply}
    (hexec : (machine ι faults).exec who cfg.world (.createSettlement id requestId referralCode)
      outcome = some (answer, world)) :
    OnceInv call
      (cfg.perform who (.createSettlement id requestId referralCode) next answer world)
      (Function.update stage who
        ((stage who).next (.createSettlement id requestId referralCode) answer)) := by
  subst hmine
  rw [hlocked]
  cases answer with
  | ok done =>
      obtain rfl := exec_createSettlement_ok hexec
      exact h.perform_create hlocked rfl List.map_append rfl (.inl rfl)
  | error error =>
      rcases exec_settledIds hexec with hrows | ⟨_, _, _, heq, hrows⟩
      · exact h.perform_outside hexec nofun hrows rfl (.inr rfl)
      · obtain ⟨rfl, rfl, rfl⟩ := Op.createSettlement.inj heq
        exact h.perform_create hlocked (exec_redis_eq (by exact nofun) hexec) hrows rfl (.inr rfl)

theorem OnceInv.perform_del (h : OnceInv call cfg stage) {row : PaymentVerification}
    (hstage : stage who = .created row ∨ stage who = .submitted row) {requestId : String}
    (hmine : (call who).requestId = requestId) {outcome : Outcome} {answer : Except Err Unit}
    {next : Except Err Unit → ServiceProgram ServiceReply}
    (hexec : (machine ι faults).exec who cfg.world (.redis (.del (lockKey requestId))) outcome
      = some (answer, world)) :
    OnceInv call (cfg.perform who (.redis (.del (lockKey requestId))) next answer world)
      (Function.update stage who (stage who)) := by
  subst hmine
  obtain ⟨⟨fate, hcommand⟩, hdb⟩ := exec_redis hexec
  have hleaving : (stage who).stance = .leaving := by
    rcases hstage with hstage | hstage <;> rw [hstage] <;> rfl
  apply h.perform _ (by rw [hdb]) rfl (h.fits who)
  apply h.exclusive.release _ hcommand
  · rw [hleaving]
    exact nofun
  · rw [hleaving]
    exact nofun

/-- One step of any call keeps the invariant, if it takes no lock of a request that has a row. -/
theorem OnceInv.step {imports : ι → Imports} (h : OnceInv call cfg stage)
    (hallowed : (call who).Allowed (imports who) (stage who) op) {outcome : Outcome}
    (hexec : (machine ι faults).exec who cfg.world op outcome = some (answer, world))
    (hgood : BeforeAnyRow cfg ⟨who, op, answer⟩) :
    OnceInv call (cfg.perform who op next answer world)
      (Function.update stage who ((stage who).next op answer)) := by
  have hrows (hne : ∀ id requestId referralCode, op ≠ .createSettlement id requestId referralCode) :
      world.db.settledIds = cfg.world.db.settledIds := by
    rcases exec_settledIds hexec with hrows | ⟨id, requestId, referralCode, rfl, -⟩
    · exact hrows
    · exact absurd rfl (hne _ _ _)
  rcases hallowed with hquiet | ⟨raw, requestId, body, row, -, -, -, rfl⟩ |
    ⟨opts, hcall, ⟨hstage, rfl⟩ | ⟨row, ⟨hstage, rfl⟩ | ⟨hstage, id, rfl⟩ |
      ⟨hstage, args, rfl, -⟩ | ⟨hstage, rfl⟩⟩⟩
  · -- a quiet operation
    rw [hquiet.next_eq]
    apply h.perform _ (hrows ?_) hquiet.entersSubmit_eq (h.fits who)
    · rw [Function.update_eq_self]
      exact exec_exclusive_of_quiet hexec hquiet h.exclusive
    · rintro id requestId referralCode rfl
      exact hquiet
  · -- a verification is stored
    apply h.perform_outside hexec nofun (hrows nofun) rfl
    cases answer with
    | error error => exact .inl (by cases stage who <;> rfl)
    | ok done => exact .inr (by cases stage who <;> rfl)
  · -- a verification is read
    apply h.perform_outside hexec nofun (hrows nofun) rfl
    rw [hstage]
    rcases answer with error | _ | ⟨row, request, network⟩ <;> exact .inr rfl
  · exact h.perform_lock hstage (by rw [hcall]; rfl) hexec hgood
  · exact h.perform_row hstage (by rw [hcall]; rfl) hexec
  · rw [hstage]
    exact h.perform_submit hstage (exec_redis_eq (by exact nofun) hexec) (hrows nofun) rfl
  · have hstays : (stage who).next (.redis (.del (lockKey opts.requestId))) answer = stage who := by
      rcases hstage with hstage | hstage <;> rw [hstage] <;> rfl
    rw [hstays]
    exact h.perform_del hstage (by rw [hcall]; rfl) hexec

end Step

variable {imports : ι → Imports} {start cfg : Config (machine ι faults) ServiceReply}

theorem preserved_once (hkeys : faults.keysVanish = false) :
    Config.Preserved (M := machine ι faults) (fun who => serviceRules (imports who) (call who))
      (fun who => servicePost (imports who) (call who)) (OnceInv call) BeforeAnyRow where
  call _ _ _ _ _ _ _ _ hfollows _ hallowed hexec hgood :=
    ⟨_, rfl, hfollows.inv.step hallowed hexec hgood⟩
  env cfg stage event world hfollows henv := by
    obtain ⟨-, hsettlements, hredis⟩ := machine_env_rows henv
    have hrows : world.db.settledIds = cfg.world.db.settledIds := by
      rw [Db.settledIds, Db.settledIds, hsettlements]
    have hinv := hfollows.inv
    constructor
    · change Exclusive world.redis _ _
      rw [hredis hkeys]
      exact hinv.exclusive
    · exact hrows ▸ hinv.fits
    · exact hrows ▸ hinv.unique
    · exact hinv.once
    · exact hrows ▸ hinv.settled

omit [DecidableEq ι] in
theorem ServiceStart.onceInv (hstart : ServiceStart imports call start)
    (hunique : Unique (·.requestId) start.world.db.settlements) :
    OnceInv call start fun _ => .begun := by
  have hnone : submissions call start.history = [] := by
    rw [hstart.history]
    rfl
  refine ⟨.start fun _ => rfl, fun _ => trivial, hunique, ?_, ?_⟩
  · rw [hnone]
    exact List.nodup_nil
  · rw [hnone]
    exact List.nil_subset _

/-- **One settlement.** As long as no call takes the lock of a request that has a row, a request is
submitted at most once and has at most one row, however many calls settle it. -/
theorem settles_once (hkeys : faults.keysVanish = false) (hstart : ServiceStart imports call start)
    (hunique : Unique (·.requestId) start.world.db.settlements)
    (hreach : Config.Reachable BeforeAnyRow start cfg) (requestId : String) :
    (submissions call cfg.history).count requestId ≤ 1 ∧
      (cfg.world.db.settlementsOf requestId).length ≤ 1 := by
  obtain ⟨stage, hfollows⟩ :=
    hreach.follows (preserved_once hkeys) (hstart.follows (hstart.onceInv hunique))
  exact ⟨List.nodup_iff_count_le_one.mp hfollows.inv.once requestId,
    Unique.length_filter_le_one hfollows.inv.unique requestId⟩

end Runs

/-! ### Two calls for one request -/

section Schedules

/-- Two settlements of one request. -/
abbrev TwoCalls := Config (machine (Fin 2) ⟨false, false⟩) ServiceReply

def twoSettlements : TwoCalls where
  world := verifiedWorld _
  calls _ := sampleSettle.program sampleImports
  history := []

/-- One call has found no settlement, then the other settles. -/
def settleMeanwhile (late early : Fin 2) : List (Move (machine (Fin 2) ⟨false, false⟩)) :=
  lookups late ++ lookups early ++ lockAndSubmit early "set-0"
    ++ mineAndConfirm early "0x01" "rec-0"

/-- Whether an event takes no lock of a request that has a row. -/
def takesVacant (cfg : TwoCalls) : Event interface Err (Fin 2) → Bool
  | ⟨_, .redis (.setNx (.settleServiceLock requestId)), _⟩ =>
      (cfg.world.db.settlementsOf requestId).isEmpty
  | _ => true

theorem beforeAnyRow_of_takesVacant {cfg : TwoCalls} {event : Event interface Err (Fin 2)}
    (h : takesVacant cfg event = true) : BeforeAnyRow cfg event := by
  rintro who requestId rfl
  exact List.isEmpty_iff.mp h

theorem settles_once_alone :
    ∃ cfg : TwoCalls, "req-0" ∈ submissions (fun _ => sampleSettle) cfg.history ∧
      (submissions (fun _ => sampleSettle) cfg.history).count "req-0" ≤ 1 ∧
      (cfg.world.db.settlementsOf "req-0").length ≤ 1 := by
  obtain ⟨cfg, hrun, hsubmitted⟩ := Option.map_eq_some_iff.mp
    (show (twoSettlements.runChecked takesVacant (settleMeanwhile 1 0)).map (fun cfg =>
      decide ("req-0" ∈ submissions (fun _ => sampleSettle) cfg.history)) = some true by
        decide +kernel)
  have hreach := Config.reachable_of_runChecked (fun _ _ => beforeAnyRow_of_takesVacant) hrun
  have hstart : ServiceStart (fun _ => sampleImports) (fun _ => sampleSettle) twoSettlements :=
    ⟨fun _ => rfl, rfl⟩
  exact ⟨cfg, of_decide_eq_true hsubmitted,
    settles_once rfl hstart List.nodup_nil hreach "req-0"⟩

theorem settles_twice :
    ∃ cfg : TwoCalls, Config.Reachable Config.anyStep twoSettlements cfg ∧
      (submissions (fun _ => sampleSettle) cfg.history).count "req-0" = 2 ∧
      (cfg.world.db.settlementsOf "req-0").length = 2 := by
  obtain ⟨cfg, hreach, htwice⟩ := Config.exists_reachable_of_run
    (show (twoSettlements.run (settleMeanwhile 1 0 ++ lockAndSubmit 1 "set-1")).map (fun cfg =>
      decide ((submissions (fun _ => sampleSettle) cfg.history).count "req-0" = 2 ∧
        (cfg.world.db.settlementsOf "req-0").length = 2)) = some true by decide +kernel)
  exact ⟨cfg, hreach, of_decide_eq_true htwice⟩

end Schedules

end Service

end FacilitatorX402
