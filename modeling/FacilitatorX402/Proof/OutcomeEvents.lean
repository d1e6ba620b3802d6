import FacilitatorX402.Http.Routes
import FacilitatorX402.Proof.ServiceStages

/-!
# What the settle route tells the seller

The route tells a failure for every reply of `runSettle` that is not a confirmation: also for a
verification that is not found, a settlement in flight and a lock that is taken, when nothing has
failed, and whether or not the row could be updated. As long as none of these happens and no row is
decided twice, what it tells is what the row of the request says, for good.
-/

namespace FacilitatorX402

open Interact KeyStore KeyedRows

namespace Service

/-- Where a request to settle stands, named by what it awaits next; from `found` on, the status its
reply goes by. -/
inductive RoutePhase where
  | lookup
  | check
  | lock
  | name
  | create (settlementId : String)
  | body (settlementId : String)
  | confirmed (settlementId : String)
  | found (status : SettlementStatus)
  | abandoned

/-- The request whose failure a notice tells. -/
def WebhookNotice.failedRequest? : WebhookNotice → Option String
  | .paymentFailed requestId _ _ _ => some requestId
  | _ => none

/-- The request whose settlement a notice tells. -/
def WebhookNotice.settledRequest? : WebhookNotice → Option String
  | .paymentSettled requestId _ _ _ _ _ _ => some requestId
  | _ => none

/-- The operations that are about no row. -/
def Op.Aside : Op → Prop
  | .now => True
  | .generateId => True
  | .chain _ => True
  | .findSeller _ => True
  | .redis (.del _) => True
  | _ => False

namespace RoutePhase

/-- What the route may await in a phase. -/
inductive Awaits (opts : SettleOpts) : RoutePhase → Op → Prop
  | aside (phase : RoutePhase) (op : Op) (h : op.Aside) : Awaits opts phase op
  | lookup :
      Awaits opts lookup (.findAcceptedVerification opts.verificationId opts.requestId)
  | check : Awaits opts check (.findSettlement opts.requestId)
  | lock : Awaits opts lock (.redis (.setNx (lockKey opts.requestId)))
  | create (settlementId : String) : Awaits opts (create settlementId)
      (.createSettlement settlementId opts.requestId opts.referralCode)
  | confirm (settlementId : String) (data : Confirmation) (receipt : PaymentReceipt) :
      Awaits opts (body settlementId) (.confirmSettlement settlementId data receipt)
  | fail (settlementId : String) : Awaits opts (body settlementId) (.failSettlement settlementId)
  | undo (settlementId : String) :
      Awaits opts (confirmed settlementId) (.failSettlement settlementId)
  | tellConfirmed (settlementId : String) (notice : WebhookNotice)
      (h : notice.settledRequest? = some opts.requestId) :
      Awaits opts (confirmed settlementId) (.notifyWebhook notice)
  | tellSettled (notice : WebhookNotice) (h : notice.settledRequest? = some opts.requestId) :
      Awaits opts (found .confirmed) (.notifyWebhook notice)
  | tellFailed (status : SettlementStatus) (hstatus : status ≠ .confirmed) (notice : WebhookNotice)
      (h : notice.failedRequest? = some opts.requestId) :
      Awaits opts (found status) (.notifyWebhook notice)

/-- Where an answer leads. A reply for a row that is not there is one for a pending row. -/
def next : RoutePhase → (op : Op) → Except Err (interface.Ans op) → RoutePhase
  | lookup, .findAcceptedVerification _ _, .ok (some _) => check
  | lookup, .findAcceptedVerification _ _, .ok none => found .pending
  | lookup, .findAcceptedVerification _ _, .error _ => abandoned
  | check, .findSettlement _, .ok none => lock
  | check, .findSettlement _, .ok (some (row, _)) => found row.settlementStatus
  | check, .findSettlement _, .error _ => abandoned
  | lock, .redis (.setNx _), .ok true => name
  | lock, .redis (.setNx _), .ok false => found .pending
  | lock, .redis (.setNx _), .error _ => abandoned
  | name, .generateId, .ok settlementId => create settlementId
  | create settlementId, .createSettlement _ _ _, .ok _ => body settlementId
  | create _, .createSettlement _ _ _, .error _ => abandoned
  | body settlementId, .confirmSettlement _ _ _, .ok _ => confirmed settlementId
  | body _, .failSettlement _, _ => found .failed
  | confirmed _, .failSettlement _, _ => found .failed
  | phase, _, _ => phase

end RoutePhase

def routeRules (opts : SettleOpts) : Protocol interface Err RoutePhase where
  allowed := RoutePhase.Awaits opts
  trans phase op answer phase' := phase' = phase.next op answer

/-- What a reply of `runSettle` goes by. -/
def ReplyPhase (opts : SettleOpts) (phase : RoutePhase) : Except Err SettleResponse → Prop
  | .ok (.confirmed result) => result.requestId = opts.requestId ∧
      (phase = .found .confirmed ∨ ∃ settlementId, phase = .confirmed settlementId)
  | .ok (.failed _) => ∃ status, status ≠ .confirmed ∧ phase = .found status
  | .error _ => True

/-! ### The route keeps to the phases -/

section Sat

variable {imports : Imports} {opts : SettleOpts} {phase : RoutePhase} {settlementId : String}

theorem Op.Aside.next_eq {op : Op} (h : op.Aside) (hphase : phase ≠ .name)
    (answer : Except Err (interface.Ans op)) : phase.next op answer = phase := by
  cases op with
  | now => cases phase <;> rfl
  | generateId =>
      cases phase with
      | name => exact absurd rfl hphase
      | _ => rfl
  | chain op => cases phase <;> rfl
  | findSeller id => cases phase <;> rfl
  | redis command =>
      cases command with
      | setNx key => exact h.elim
      | del key => cases phase <;> rfl
  | _ => exact h.elim

theorem sat_aside {α : Type} {program : ServiceProgram α} (h : program.Only Op.Aside)
    (hphase : phase ≠ .name) :
    program.Sat (routeRules opts) phase fun phase' _ => phase' = phase := by
  apply h.sat
  · exact fun op hop => .aside phase op hop
  · rintro op answer phase' hop rfl
    exact hop.next_eq hphase answer

theorem sat_settleReject_found (requestId code message : String) (httpStatus : Nat)
    {status : SettlementStatus} (hstatus : status ≠ .confirmed) :
    (settleReject requestId code message httpStatus).Sat (routeRules opts) (.found status)
      (ReplyPhase opts) := by
  rw [settleReject, dateNow, Program.sat_bind', sat_op]
  refine ⟨.aside _ _ trivial, ?_⟩
  rintro (error | failedAt) phase rfl
  · trivial
  · exact ⟨status, hstatus, rfl⟩

theorem sat_settleExisting_found (existing : PaymentSettlement) (receipt : Option PaymentReceipt) :
    (settleExisting opts.requestId existing receipt).Sat (routeRules opts)
      (.found existing.settlementStatus) (ReplyPhase opts) := by
  unfold settleExisting
  split
  · rename_i hstatus
    rw [hstatus]
    exact ⟨rfl, .inl rfl⟩
  · rename_i hstatus
    rw [hstatus]
    exact sat_settleReject_found _ _ _ _ nofun
  · rename_i hstatus
    rw [hstatus]
    exact sat_settleReject_found _ _ _ _ nofun
  · rename_i hstatus
    rw [hstatus]
    exact sat_settleReject_found _ _ _ _ nofun

/-- The try statement ends with the row confirmed, or throws with the row still its own. -/
def BodyPost (opts : SettleOpts) (settlementId : String) (phase : RoutePhase)
    (outcome : Except Err SettleResponse) : Prop :=
  (phase = .body settlementId ∨ phase = .confirmed settlementId) ∧
    (outcome.isOk = true → ReplyPhase opts phase outcome)

theorem sat_settleSubmitted_body (paymentRequest : PaymentRequest) (network : NetworkConfig)
    (value : Int) (onChainResult : OnChainResult) :
    (settleSubmitted imports opts paymentRequest network value settlementId onChainResult).Sat
      (routeRules opts) (.body settlementId) (BodyPost opts settlementId) := by
  rw [settleSubmitted]
  dsimp only
  rw [Program.sat_bind']
  refine (sat_aside (@only_op Op.Aside .now trivial) (by simp)).mono ?_
  rintro phase (error | confirmedAt) rfl
  · exact ⟨.inl rfl, nofun⟩
  rw [Program.thenSat_ok, Program.sat_bind']
  refine (sat_aside (@only_op Op.Aside .generateId trivial) (by simp)).mono ?_
  rintro phase (error | receiptId) rfl
  · exact ⟨.inl rfl, nofun⟩
  rw [Program.thenSat_ok, confirmSettlement, Program.sat_bind', sat_op]
  refine ⟨.confirm settlementId _ _, ?_⟩
  rintro (error | confirmed) phase rfl
  · exact ⟨.inl rfl, nofun⟩
  rw [Program.thenSat_ok, Program.sat_bind', sat_redisDel]
  refine ⟨.aside _ _ trivial, ?_⟩
  rintro (error | deleted) phase rfl
  · exact ⟨.inr rfl, nofun⟩
  · exact ⟨.inr rfl, fun _ => ⟨rfl, .inr ⟨settlementId, rfl⟩⟩⟩

theorem sat_settleBody_body (verification : PaymentVerification) (paymentRequest : PaymentRequest)
    (networkRecord : Network) :
    (settleBody imports opts verification paymentRequest networkRecord settlementId).Sat
      (routeRules opts) (.body settlementId) (BodyPost opts settlementId) := by
  simp only [settleBody]
  split
  · exact ⟨.inl rfl, fun heq => by cases heq⟩
  rename_i network asset _
  rw [Program.sat_bind', Program.sat_ofExcept]
  cases grossAmount paymentRequest.amount with
  | error error => exact ⟨.inl rfl, fun heq => by cases heq⟩
  | ok value =>
      rw [Program.thenSat_ok, Program.sat_bind']
      refine (sat_aside (only_payee (fun _ => trivial) paymentRequest) (by simp)).mono ?_
      rintro phase (error | recipient) rfl
      · exact ⟨.inl rfl, fun heq => by cases heq⟩
      rw [Program.thenSat_ok, Program.sat_bind', Program.sat_ofExcept]
      cases submitArgs paymentRequest verification network asset value recipient with
      | error error => exact ⟨.inl rfl, fun heq => by cases heq⟩
      | ok args =>
          have hsubmit : (submit args).Only Op.Aside := by
            apply (Program.only_lift chainHom _).mono
            rintro _ ⟨op, rfl⟩
            trivial
          rw [Program.thenSat_ok, Program.sat_bind']
          refine (sat_aside hsubmit (by simp)).mono ?_
          rintro phase (error | onChainResult) rfl
          · exact ⟨.inl rfl, fun heq => by cases heq⟩
          · exact sat_settleSubmitted_body paymentRequest network value onChainResult

theorem sat_settleFailure_found (err : Err)
    (hphase : phase = .body settlementId ∨ phase = .confirmed settlementId) :
    (settleFailure opts settlementId err).Sat (routeRules opts) phase (ReplyPhase opts) := by
  have hdeleted : ∀ phase', phase' = RoutePhase.found .failed →
      Program.thenSat (routeRules opts) (fun _ => do
        (redisDel (lockKey opts.requestId)).ignoreErrors
        settleReject opts.requestId "settlement_failed"
          ("On-chain submission failed: " ++ err.message) 502) (ReplyPhase opts) phase' (.ok ()) := by
    rintro phase rfl
    rw [Program.thenSat_ok, Program.sat_bind', Program.sat_ignoreErrors]
    refine (sat_aside (only_redisDel trivial) (by simp)).mono ?_
    rintro phase deleted rfl
    exact sat_settleReject_found _ _ _ _ nofun
  rw [settleFailure, Program.sat_bind', Program.sat_ignoreErrors, failSettlement, sat_op]
  rcases hphase with rfl | rfl
  · refine ⟨.fail settlementId, ?_⟩
    intro answer phase' hfound
    exact hdeleted phase' hfound
  · refine ⟨.undo settlementId, ?_⟩
    intro answer phase' hfound
    exact hdeleted phase' hfound

theorem sat_settleHolding_name (verification : PaymentVerification)
    (paymentRequest : PaymentRequest) (networkRecord : Network) :
    (settleHolding imports opts verification paymentRequest networkRecord).Sat (routeRules opts)
      .name (ReplyPhase opts) := by
  rw [settleHolding, ulid, Program.sat_bind', sat_op]
  refine ⟨.aside _ _ trivial, ?_⟩
  rintro (error | settlementId) phase rfl
  · trivial
  rw [Program.thenSat_ok, createSettlement, Program.sat_bind', sat_op]
  refine ⟨.create settlementId, ?_⟩
  rintro (error | created) phase rfl
  · trivial
  rw [Program.thenSat_ok, Program.sat_tryCatch]
  apply (sat_settleBody_body verification paymentRequest networkRecord).mono
  rintro phase (error | response) ⟨hphase, hreply⟩
  · exact sat_settleFailure_found error hphase
  · exact hreply rfl

theorem sat_settleAccepted_check (verification : PaymentVerification)
    (paymentRequest : PaymentRequest) (networkRecord : Network) :
    (settleAccepted imports opts verification paymentRequest networkRecord).Sat (routeRules opts)
      .check (ReplyPhase opts) := by
  rw [settleAccepted, findSettlement, Program.sat_bind', sat_op]
  refine ⟨.check, ?_⟩
  rintro (error | _ | ⟨existing, receipt⟩) phase rfl
  · trivial
  · rw [Program.thenSat_ok, Program.sat_bind', sat_redisSetNx]
    refine ⟨.lock, ?_⟩
    rintro (error | _ | _) phase rfl
    · trivial
    · exact sat_settleReject_found _ _ _ _ (fun heq => by cases heq)
    · exact sat_settleHolding_name verification paymentRequest networkRecord
  · exact sat_settleExisting_found existing receipt

theorem sat_runSettle_lookup (imports : Imports) (opts : SettleOpts) :
    (runSettle imports opts).Sat (routeRules opts) .lookup (ReplyPhase opts) := by
  rw [runSettle, findAcceptedVerification, Program.sat_bind', sat_op]
  refine ⟨.lookup, ?_⟩
  rintro (error | _ | ⟨verification, paymentRequest, networkRecord⟩) phase rfl
  · trivial
  · exact sat_settleReject_found _ _ _ _ (fun heq => by cases heq)
  · exact sat_settleAccepted_check verification paymentRequest networkRecord

/-- A reply may be told in the phase it goes by. -/
theorem ReplyPhase.awaits {response : SettleResponse} (h : ReplyPhase opts phase (.ok response)) :
    RoutePhase.Awaits opts phase (.notifyWebhook (outcomeNotice opts.requestId response)) := by
  cases response with
  | confirmed result =>
      obtain ⟨hrequest, rfl | ⟨settlementId, rfl⟩⟩ := h
      · exact .tellSettled _ (congrArg some hrequest)
      · exact .tellConfirmed settlementId _ (congrArg some hrequest)
  | failed result =>
      obtain ⟨status, hstatus, rfl⟩ := h
      exact .tellFailed status hstatus _ rfl

theorem sat_settleParsed (imports : Imports) (opts : SettleOpts) :
    (settleParsed imports opts).Sat (routeRules opts) .lookup fun _ _ => True := by
  have hcaught : ∀ phase, ((do
      let failedAt ← dateNow
      return .internalError opts.requestId (isoText failedAt)) : ServiceProgram SettleAnswer).Sat
        (routeRules opts) phase fun _ _ => True := by
    intro phase
    rw [dateNow, Program.sat_bind', sat_op]
    refine ⟨.aside _ _ trivial, ?_⟩
    rintro (error | failedAt) phase' - <;> trivial
  rw [settleParsed, Program.sat_tryCatch, settleNotified, Program.sat_bind']
  apply (sat_runSettle_lookup imports opts).mono
  rintro phase (error | response) hreply
  · exact hcaught phase
  · rw [Program.thenSat_ok, notifyWebhook, Program.sat_bind', sat_op]
    refine ⟨hreply.awaits, ?_⟩
    rintro (error | told) phase' -
    · exact hcaught phase'
    · trivial

end Sat

/-! ### What is told, and what the rows say -/

namespace Db

/-- A row of the request has the status. -/
def HasRow (db : Db) (requestId : String) (status : SettlementStatus) : Prop :=
  ∃ row ∈ db.settlements, row.requestId = requestId ∧ row.settlementStatus = status

/-- The row is there, for this request, and has not failed. -/
def OpenRow (db : Db) (settlementId requestId : String) : Prop :=
  ∃ row ∈ db.settlements, row.id = settlementId ∧ row.requestId = requestId ∧
    row.settlementStatus ≠ .failed

theorem HasRow.evolves {db db' : Db} {requestId : String} {status : SettlementStatus}
    (h : db.HasRow requestId status) (hstatus : status = .confirmed ∨ status = .failed)
    (hrows : Evolves (·.id) Stays db.settlements db'.settlements) : db'.HasRow requestId status := by
  obtain ⟨row, hrow, hrequest, hrowStatus⟩ := h
  obtain ⟨row', hrow', -, hsame, hstays⟩ := hrows row hrow
  exact ⟨row', hrow', hsame.trans hrequest, hstays status hstatus hrowStatus⟩

theorem HasRow.status_eq {db : Db} (hsingle : Unique (·.requestId) db.settlements)
    {requestId : String} {status status' : SettlementStatus} (h : db.HasRow requestId status)
    (h' : db.HasRow requestId status') : status = status' := by
  obtain ⟨row, hrow, hrequest, rfl⟩ := h
  obtain ⟨row', hrow', hrequest', rfl⟩ := h'
  rw [hsingle.eq hrow hrow' (hrequest.trans hrequest'.symm)]

end Db

/-- What a notice says is what a row says. -/
def WebhookNotice.Accords (db : Db) (notice : WebhookNotice) : Prop :=
  (∀ requestId, notice.failedRequest? = some requestId → db.HasRow requestId .failed) ∧
    ∀ requestId, notice.settledRequest? = some requestId → db.HasRow requestId .confirmed

theorem WebhookNotice.Accords.evolves {db db' : Db} {notice : WebhookNotice} (h : notice.Accords db)
    (hrows : Evolves (·.id) Stays db.settlements db'.settlements) : notice.Accords db' :=
  ⟨fun requestId hrequest => (h.1 requestId hrequest).evolves (.inr rfl) hrows,
    fun requestId hrequest => (h.2 requestId hrequest).evolves (.inl rfl) hrows⟩

/-- What a phase says about the rows of its request. -/
def RoutePhase.Fits (requestId : String) (db : Db) : RoutePhase → Prop
  | body settlementId => db.OpenRow settlementId requestId
  | confirmed settlementId => ∃ row ∈ db.settlements, row.id = settlementId ∧
      row.requestId = requestId ∧ row.settlementStatus = .confirmed
  | found status => (status = .confirmed ∨ status = .failed) ∧ db.HasRow requestId status
  | _ => True

section Runs

variable {ι : Type} {faults : Faults}

/-- Nothing overlaps: a lookup finds no row that is undecided, a lock that is asked for is free, a row
is created for a request without one, and an update to failed is answered and finds the row not
confirmed. -/
structure Orderly (cfg : Config (machine ι faults) SettleAnswer)
    (event : Event interface Err ι) : Prop where
  decided : ∀ requestId, event.op = .findSettlement requestId →
    ∀ row ∈ cfg.world.db.settlementsOf requestId,
      row.settlementStatus = .confirmed ∨ row.settlementStatus = .failed
  free : ∀ requestId, event.op = .redis (.setNx (lockKey requestId)) →
    cfg.world.redis (lockKey requestId) = none
  vacant : ∀ id requestId referralCode,
    event.op = .createSettlement id requestId referralCode →
    cfg.world.db.settlementsOf requestId = []
  failing : ∀ id, event.op = .failSettlement id → event.answer.isOk = true ∧
    ∀ row ∈ cfg.world.db.settlements, row.id = id → row.settlementStatus ≠ .confirmed

/-- The rows are keyed, one for each request; every phase fits them, no two calls work on one row,
and everything told accords with them. -/
structure RouteInv (opts : ι → SettleOpts) (cfg : Config (machine ι faults) SettleAnswer)
    (phase : ι → RoutePhase) : Prop where
  ids : Unique (·.id) cfg.world.db.settlements
  single : Unique (·.requestId) cfg.world.db.settlements
  accepted : ∀ who, cfg.world.db.acceptedVerifications (opts who).verificationId
    (opts who).requestId ≠ []
  fits : ∀ who, (phase who).Fits (opts who).requestId cfg.world.db
  apart : ∀ who other settlementId, who ≠ other → phase who = .body settlementId →
    phase other ≠ .body settlementId
  told : ∀ event ∈ cfg.history, ∀ notice, event.op = .notifyWebhook notice →
    notice.Accords cfg.world.db

section Step

variable [DecidableEq ι] {opts : ι → SettleOpts} {cfg : Config (machine ι faults) SettleAnswer}
  {phase : ι → RoutePhase} {who : ι} {op : Op}
  {next : Except Err (interface.Ans op) → ServiceProgram SettleAnswer}
  {answer : Except Err (interface.Ans op)} {world : World ι} {phase' : RoutePhase}

theorem RouteInv.perform (h : RouteInv opts cfg phase)
    (hrows : Evolves (·.id) Stays cfg.world.db.settlements world.db.settlements)
    (hids : Unique (·.id) world.db.settlements)
    (hsingle : Unique (·.requestId) world.db.settlements)
    (haccepted : world.db.acceptedVerifications = cfg.world.db.acceptedVerifications)
    (hother : ∀ other settlementId, other ≠ who → phase other = .body settlementId →
      world.db.OpenRow settlementId (opts other).requestId)
    (hfits : phase'.Fits (opts who).requestId world.db)
    (hapart : ∀ other settlementId, other ≠ who → phase' = .body settlementId →
      phase other ≠ .body settlementId)
    (htold : ∀ notice, op = .notifyWebhook notice → notice.Accords world.db) :
    RouteInv opts (cfg.perform who op next answer world) (Function.update phase who phase') := by
  have hfitsOther : ∀ other, other ≠ who → (phase other).Fits (opts other).requestId world.db := by
    intro other hne
    have hbefore := h.fits other
    cases hphase : phase other with
    | body settlementId => exact hother other settlementId hne hphase
    | confirmed settlementId =>
        rw [hphase] at hbefore
        obtain ⟨row, hrow, hid, hrequest, hstatus⟩ := hbefore
        obtain ⟨row', hrow', hid', hsame, hstays⟩ := hrows row hrow
        exact ⟨row', hrow', hid'.trans hid, hsame.trans hrequest, hstays _ (.inl rfl) hstatus⟩
    | found status =>
        rw [hphase] at hbefore
        exact ⟨hbefore.1, hbefore.2.evolves hbefore.1 hrows⟩
    | _ => trivial
  constructor
  · exact hids
  · exact hsingle
  · intro other
    rw [Config.perform_world, haccepted]
    exact h.accepted other
  · exact (Function.forall_update_iff phase fun other phase =>
      phase.Fits (opts other).requestId world.db).mpr ⟨hfits, hfitsOther⟩
  · intro left right settlementId hne hleft hright
    by_cases heq : left = who
    · subst heq
      rw [Function.update_self] at hleft
      rw [Function.update_of_ne hne.symm] at hright
      exact hapart right settlementId hne.symm hleft hright
    · rw [Function.update_of_ne heq] at hleft
      by_cases heq' : right = who
      · subst heq'
        rw [Function.update_self] at hright
        exact hapart left settlementId heq hright hleft
      · rw [Function.update_of_ne heq'] at hright
        exact h.apart left right settlementId hne hleft hright
  · intro event hevent notice hnotice
    rw [Config.perform_history, List.mem_cons] at hevent
    rcases hevent with rfl | hevent
    · exact htold notice hnotice
    · exact (h.told event hevent notice hnotice).evolves hrows

theorem RouteInv.perform_same (h : RouteInv opts cfg phase) (hdb : world.db = cfg.world.db)
    (hfits : phase'.Fits (opts who).requestId cfg.world.db)
    (hphase : ∀ settlementId, phase' = .body settlementId → phase who = .body settlementId)
    (htold : ∀ notice, op = .notifyWebhook notice → notice.Accords cfg.world.db) :
    RouteInv opts (cfg.perform who op next answer world) (Function.update phase who phase') := by
  apply h.perform
  · rw [hdb]
    exact .refl Stays.refl _
  · exact hdb ▸ h.ids
  · exact hdb ▸ h.single
  · rw [hdb]
  · intro other settlementId hne hother
    have hfits := h.fits other
    rw [hother] at hfits
    exact hdb ▸ hfits
  · exact hdb ▸ hfits
  · exact fun other settlementId hne hbody =>
      h.apart who other settlementId hne.symm (hphase settlementId hbody)
  · exact hdb ▸ htold

omit [DecidableEq ι] in
theorem Op.Aside.exec_db (h : op.Aside) {outcome : Outcome}
    (hexec : (machine ι faults).exec who cfg.world op outcome = some (answer, world)) :
    world.db = cfg.world.db := by
  cases exec_effect hexec with
  | upsertPaymentRequest row => exact h.elim
  | createVerification row => exact h.elim
  | createSettlement id requestId referralCode => exact h.elim
  | failSettlement id => exact h.elim
  | confirmSettlement id data receipt => exact h.elim
  | confirmByWorker id data receipt => exact h.elim
  | _ => rfl

/-- An operation aside leaves the phase, or names the row. -/
theorem Op.Aside.next_cases (h : op.Aside) (current : RoutePhase) :
    current.next op answer = current ∨
      ∃ settlementId, current.next op answer = .create settlementId := by
  by_cases hname : current = .name
  · subst hname
    cases op with
    | generateId =>
        cases answer with
        | ok settlementId => exact .inr ⟨settlementId, rfl⟩
        | error error => exact .inl rfl
    | _ => first | exact h.elim | exact .inl rfl
  · exact .inl (h.next_eq hname answer)

theorem RouteInv.create (h : RouteInv opts cfg phase) {settlementId : String} {outcome : Outcome}
    {answer : Except Err Unit} {next : Except Err Unit → ServiceProgram SettleAnswer}
    (hexec : (machine ι faults).exec who cfg.world (.createSettlement settlementId
      (opts who).requestId (opts who).referralCode) outcome = some (answer, world))
    (hvacant : cfg.world.db.settlementsOf (opts who).requestId = []) :
    RouteInv opts (cfg.perform who (.createSettlement settlementId (opts who).requestId
      (opts who).referralCode) next answer world)
      (Function.update phase who (RoutePhase.next (.create settlementId)
        (.createSettlement settlementId (opts who).requestId (opts who).referralCode) answer)) := by
  rcases statement_cases hexec with ⟨hcan, rfl, -⟩ | ⟨⟨error, rfl⟩, rfl⟩
  · simp only [Db.canSettle, Bool.and_eq_true, List.all_eq_true, decide_eq_true_eq] at hcan
    have hfresh : ∀ other ∈ cfg.world.db.settlements, other.id ≠ settlementId :=
      fun other hother => (hcan.2 other hother).1
    have hnone : ∀ other ∈ cfg.world.db.settlements, other.requestId ≠ (opts who).requestId := by
      intro other hother hrequest
      have hmem : other ∈ cfg.world.db.settlementsOf (opts who).requestId :=
        List.mem_filter.mpr ⟨hother, decide_eq_true hrequest⟩
      rw [hvacant] at hmem
      cases hmem
    apply h.perform
    · exact .append Stays.refl _ _
    · exact h.ids.append hfresh
    · exact h.single.append hnone
    · rfl
    · intro other otherId hne hbody
      have hfits := h.fits other
      rw [hbody] at hfits
      obtain ⟨row, hrow, hfits⟩ := hfits
      exact ⟨row, List.mem_append_left _ hrow, hfits⟩
    · cases answer with
      | ok created =>
          exact ⟨_, List.mem_append_right _ (List.mem_singleton_self _), rfl, rfl, nofun⟩
      | error error => trivial
    · rintro other otherId hne hcreated hbody
      have hfits := h.fits other
      rw [hbody] at hfits
      obtain ⟨row, hrow, hid, -⟩ := hfits
      cases answer with
      | ok created => exact hfresh row hrow (hid.trans (RoutePhase.body.inj hcreated).symm)
      | error error => cases hcreated
    · intro notice hnotice
      cases hnotice
  · apply h.perform_same rfl
    · trivial
    · intro otherId hbody
      cases hbody
    · intro notice hnotice
      cases hnotice

theorem RouteInv.update (h : RouteInv opts cfg phase) {settlementId : String}
    (hbody : phase who = .body settlementId) {f : PaymentSettlement → PaymentSettlement}
    (hid : ∀ row, (f row).id = row.id) (hrequest : ∀ row, (f row).requestId = row.requestId)
    (hstays : ∀ row, row.settlementStatus ≠ .failed → row ∈ cfg.world.db.settlements →
      row.id = settlementId → Stays row (f row))
    (hrows : world.db.settlements = update (·.id) settlementId f cfg.world.db.settlements)
    (haccepted : world.db.acceptedVerifications = cfg.world.db.acceptedVerifications)
    (hfits : ∀ row ∈ world.db.settlements, row.id = settlementId →
      row.requestId = (opts who).requestId → (∃ old, row = f old) →
      phase'.Fits (opts who).requestId world.db)
    (hphase : ∀ otherId, phase' = .body otherId → otherId = settlementId)
    (hop : ∀ notice, op ≠ .notifyWebhook notice) :
    RouteInv opts (cfg.perform who op next answer world) (Function.update phase who phase') := by
  obtain ⟨row, hrow, hrowId, hrowRequest, hopen⟩ : cfg.world.db.OpenRow settlementId
      (opts who).requestId := by
    have hfits := h.fits who
    rwa [hbody] at hfits
  apply h.perform
  · rw [hrows]
    apply Evolves.update Stays.refl hid
    intro old hold holdId
    obtain rfl : row = old := h.ids.eq hrow hold (hrowId.trans holdId.symm)
    exact hstays row hopen hrow hrowId
  · exact hrows ▸ h.ids.update hid settlementId
  · exact hrows ▸ h.single.update_other hrequest settlementId
  · exact haccepted
  · intro other otherId hne hother
    have hfits := h.fits other
    rw [hother] at hfits
    obtain ⟨old, hold, holdId, hfits⟩ := hfits
    refine ⟨old, ?_, holdId, hfits⟩
    rw [hrows]
    apply mem_update_of_ne hold
    rintro rfl
    exact h.apart other who _ hne (holdId ▸ hother) hbody
  · apply hfits (f row) _ ((hid row).trans hrowId) ((hrequest row).trans hrowRequest) ⟨row, rfl⟩
    rw [hrows]
    exact mem_update_of_eq hrow hrowId
  · rintro other otherId hne hcurrent
    rw [hphase otherId hcurrent]
    exact h.apart who other settlementId hne.symm hbody
  · exact fun notice hnotice => absurd hnotice (hop notice)

theorem RouteInv.confirm (h : RouteInv opts cfg phase) {settlementId : String}
    (hbody : phase who = .body settlementId) {data : Confirmation} {receipt : PaymentReceipt}
    {outcome : Outcome} {answer : Except Err Unit}
    {next : Except Err Unit → ServiceProgram SettleAnswer}
    (hexec : (machine ι faults).exec who cfg.world (.confirmSettlement settlementId data receipt)
      outcome = some (answer, world)) :
    RouteInv opts (cfg.perform who (.confirmSettlement settlementId data receipt) next answer world)
      (Function.update phase who (RoutePhase.next (.body settlementId)
        (.confirmSettlement settlementId data receipt) answer)) := by
  rcases statement_cases (statement_of_transaction hexec) with ⟨-, rfl, -⟩ | ⟨⟨error, rfl⟩, rfl⟩
  · apply h.update hbody (f := fun row => row.confirm data)
    · exact fun row => rfl
    · exact fun row => rfl
    · exact fun row hopen _ _ => stays_confirm data hopen
    · rfl
    · rfl
    · rintro row hrow hid hrequest ⟨old, rfl⟩
      cases answer with
      | ok confirmed => exact ⟨_, hrow, hid, hrequest, rfl⟩
      | error error => exact ⟨_, hrow, hid, hrequest, nofun⟩
    · intro otherId hcurrent
      cases answer with
      | ok confirmed => cases hcurrent
      | error error => exact (RoutePhase.body.inj hcurrent).symm
    · exact fun notice hnotice => nomatch hnotice
  · have hfits := h.fits who
    rw [hbody] at hfits
    apply h.perform_same rfl hfits
    · exact fun otherId hcurrent => hbody.trans hcurrent
    · intro notice hnotice
      cases hnotice

theorem RouteInv.fail (h : RouteInv opts cfg phase) {settlementId : String}
    (hbody : phase who = .body settlementId) {outcome : Outcome} {answer : Except Err Unit}
    {next : Except Err Unit → ServiceProgram SettleAnswer}
    (hexec : (machine ι faults).exec who cfg.world (.failSettlement settlementId) outcome
      = some (answer, world)) (hanswered : answer.isOk = true)
    (hopen : ∀ row ∈ cfg.world.db.settlements, row.id = settlementId →
      row.settlementStatus ≠ .confirmed) :
    RouteInv opts (cfg.perform who (.failSettlement settlementId) next answer world)
      (Function.update phase who (.found .failed)) := by
  rcases statement_cases hexec with ⟨-, rfl, -⟩ | ⟨⟨error, rfl⟩, rfl⟩
  · apply h.update hbody (f := PaymentSettlement.fail)
    · exact fun row => rfl
    · exact fun row => rfl
    · exact fun row _ hrow hid => stays_fail (hopen row hrow hid)
    · rfl
    · rfl
    · rintro row hrow hid hrequest ⟨old, rfl⟩
      exact ⟨.inr rfl, _, hrow, hrequest, rfl⟩
    · intro otherId hcurrent
      cases hcurrent
    · exact fun notice hnotice => nomatch hnotice
  · cases hanswered

theorem RouteInv.tell (h : RouteInv opts cfg phase) {notice : WebhookNotice} {outcome : Outcome}
    {answer : Except Err Unit} {next : Except Err Unit → ServiceProgram SettleAnswer}
    (hexec : (machine ι faults).exec who cfg.world (.notifyWebhook notice) outcome
      = some (answer, world))
    (hnext : (phase who).next (.notifyWebhook notice) answer = phase who)
    (haccords : notice.Accords cfg.world.db) :
    RouteInv opts (cfg.perform who (.notifyWebhook notice) next answer world)
      (Function.update phase who ((phase who).next (.notifyWebhook notice) answer)) := by
  have hdb : world.db = cfg.world.db := by
    cases exec_effect hexec
    rfl
  rw [hnext]
  apply h.perform_same hdb (h.fits who)
  · exact fun settlementId hbody => hbody
  · intro told htold
    obtain rfl := Op.notifyWebhook.inj htold
    exact haccords

/-- What a phase says about its rows is what it may tell. -/
theorem RoutePhase.Awaits.accords {opts : SettleOpts} {current : RoutePhase} {db : Db}
    {notice : WebhookNotice} (h : current.Awaits opts (.notifyWebhook notice))
    (hfits : current.Fits opts.requestId db) : notice.Accords db := by
  have hsettled (hstatus : db.HasRow opts.requestId .confirmed)
      (hrequest : notice.settledRequest? = some opts.requestId) : notice.Accords db := by
    constructor
    · intro requestId hfailed
      cases notice <;> cases hfailed
      cases hrequest
    · intro requestId hsettled
      obtain rfl := Option.some.inj (hsettled.symm.trans hrequest)
      exact hstatus
  cases h with
  | aside _ _ haside => exact haside.elim
  | tellConfirmed settlementId _ hrequest =>
      obtain ⟨row, hrow, -, hsame, hstatus⟩ := hfits
      exact hsettled ⟨row, hrow, hsame, hstatus⟩ hrequest
  | tellSettled _ hrequest => exact hsettled hfits.2 hrequest
  | tellFailed status hstatus _ hrequest =>
      obtain ⟨rfl | rfl, hrow⟩ := hfits
      · exact absurd rfl hstatus
      · constructor
        · intro requestId hfailed
          obtain rfl := Option.some.inj (hfailed.symm.trans hrequest)
          exact hrow
        · intro requestId hsettled
          cases notice <;> cases hsettled
          cases hrequest

theorem RouteInv.step (h : RouteInv opts cfg phase)
    (hallowed : (phase who).Awaits (opts who) op) {outcome : Outcome}
    (hexec : (machine ι faults).exec who cfg.world op outcome = some (answer, world))
    (hgood : Orderly cfg ⟨who, op, answer⟩) :
    RouteInv opts (cfg.perform who op next answer world)
      (Function.update phase who ((phase who).next op answer)) := by
  have haccords (notice : WebhookNotice) (hop : op = .notifyWebhook notice) :
      notice.Accords cfg.world.db := by
    subst hop
    exact hallowed.accords (h.fits who)
  have hfits := h.fits who
  have hsame (hdb : world.db = cfg.world.db)
      (hfits' : ((phase who).next op answer).Fits (opts who).requestId cfg.world.db)
      (hbody : ∀ settlementId, (phase who).next op answer = .body settlementId →
        phase who = .body settlementId) :
      RouteInv opts (cfg.perform who op next answer world)
        (Function.update phase who ((phase who).next op answer)) :=
    h.perform_same hdb hfits' hbody haccords
  generalize hphase : phase who = current at hallowed hfits hsame ⊢
  cases hallowed with
  | aside _ _ haside =>
      apply hsame (haside.exec_db hexec)
      · rcases haside.next_cases current with heq | ⟨settlementId, heq⟩ <;> rw [heq]
        · exact hfits
        · trivial
      · rcases haside.next_cases current with heq | ⟨settlementId, heq⟩ <;> rw [heq]
        · exact fun _ hbody => hbody
        · intro _ hbody
          cases hbody
  | lookup =>
      obtain ⟨rfl, ⟨-, hnone⟩ | ⟨found, -, rfl⟩ | ⟨error, rfl⟩⟩ := findFirst_cases hexec
      · exact absurd hnone (h.accepted who)
      · exact hsame rfl trivial nofun
      · exact hsame rfl trivial nofun
  | check =>
      obtain ⟨rfl, ⟨rfl, -⟩ | ⟨found, hfound, rfl⟩ | ⟨error, rfl⟩⟩ := findFirst_cases hexec
      · exact hsame rfl trivial nofun
      · obtain ⟨row, hrow, rfl⟩ := List.mem_map.mp hfound
        have hdecided := hgood.decided _ rfl row hrow
        obtain ⟨hmem, hrequest⟩ := List.mem_filter.mp hrow
        apply hsame rfl
        · exact ⟨hdecided, row, hmem, of_decide_eq_true hrequest, rfl⟩
        · intro _ hbody
          cases hbody
      · exact hsame rfl trivial nofun
  | lock =>
      obtain ⟨⟨fate, hcommand⟩, hdb⟩ := exec_redis hexec
      have hfree := hgood.free _ rfl
      rcases exec_setNx_cases hcommand with ⟨rfl, -⟩ | ⟨-, htaken, -⟩ | ⟨error, rfl, -⟩
      · exact hsame hdb trivial nofun
      · exact absurd hfree htaken
      · exact hsame hdb trivial nofun
  | create settlementId =>
      exact h.create hexec (hgood.vacant _ _ _ rfl)
  | confirm settlementId data receipt => exact h.confirm hphase hexec
  | fail settlementId =>
      obtain ⟨hanswered, hopen⟩ := hgood.failing settlementId rfl
      exact h.fail hphase hexec hanswered hopen
  | undo settlementId =>
      obtain ⟨row, hrow, hid, -, hstatus⟩ := hfits
      exact absurd hstatus ((hgood.failing settlementId rfl).2 row hrow hid)
  | tellConfirmed settlementId notice hrequest =>
      rw [← hphase]
      apply h.tell hexec _ (haccords notice rfl)
      rw [hphase]
      rfl
  | tellSettled notice hrequest =>
      rw [← hphase]
      apply h.tell hexec _ (haccords notice rfl)
      rw [hphase]
      rfl
  | tellFailed status hstatus notice hrequest =>
      rw [← hphase]
      apply h.tell hexec _ (haccords notice rfl)
      rw [hphase]
      cases status <;> rfl

end Step

/-- Every request passes the schema and names an accepted verification; the rows are keyed, at most
one for each request. -/
structure RouteStart (imports : ι → Imports) (opts : ι → SettleOpts)
    (start : Config (machine ι faults) SettleAnswer) : Prop where
  calls : ∀ who, ∃ body, parseSettleBody body = .ok (opts who) ∧
    start.calls who = settleRoute (imports who) body
  history : start.history = []
  accepted : ∀ who, start.world.db.acceptedVerifications (opts who).verificationId
    (opts who).requestId ≠ []
  ids : Unique (·.id) start.world.db.settlements
  single : Unique (·.requestId) start.world.db.settlements

variable {imports : ι → Imports} {opts : ι → SettleOpts}
  {start cfg : Config (machine ι faults) SettleAnswer}

theorem RouteStart.follows (h : RouteStart imports opts start) :
    Config.Follows (fun who => routeRules (opts who)) (fun _ _ _ => True) (RouteInv opts) start
      fun _ => .lookup := by
  constructor
  · intro who
    obtain ⟨body, hbody, hcall⟩ := h.calls who
    rw [hcall, settleRoute, hbody]
    exact sat_settleParsed (imports who) (opts who)
  · constructor
    · exact h.ids
    · exact h.single
    · exact h.accepted
    · exact fun _ => trivial
    · exact fun _ _ _ _ hbody => nomatch hbody
    · intro event hevent
      rw [h.history] at hevent
      cases hevent

variable [DecidableEq ι]

theorem preserved_routes :
    Config.Preserved (M := machine ι faults) (fun who => routeRules (opts who)) (fun _ _ _ => True)
      (RouteInv opts) Orderly where
  call _ _ _ _ _ _ _ _ hfollows _ hallowed hexec hgood :=
    ⟨_, rfl, hfollows.inv.step hallowed hexec hgood⟩
  env cfg phase event world hfollows henv := by
    obtain ⟨clock, hdb⟩ := machine_env_db henv
    have h := hfollows.inv
    constructor
    · exact hdb ▸ h.ids
    · exact hdb ▸ h.single
    · exact hdb ▸ h.accepted
    · intro who
      have hfits := h.fits who
      change (phase who).Fits _ world.db
      rw [hdb]
      cases hphase : phase who <;> rw [hphase] at hfits <;> exact hfits
    · exact h.apart
    · exact hdb ▸ h.told

/-- A notice that tells a failure of the request was sent. -/
def FailureTold (cfg : Config (machine ι faults) SettleAnswer) (requestId : String) : Prop :=
  ∃ event ∈ cfg.history, ∃ notice, event.op = .notifyWebhook notice ∧
    notice.failedRequest? = some requestId

/-- A notice that tells a settlement of the request was sent. -/
def SettlementTold (cfg : Config (machine ι faults) SettleAnswer) (requestId : String) : Prop :=
  ∃ event ∈ cfg.history, ∃ notice, event.op = .notifyWebhook notice ∧
    notice.settledRequest? = some requestId

/-- The call is about to tell a failure of the request. -/
def TellingFailure (cfg : Config (machine ι faults) SettleAnswer) (who : ι) (requestId : String) :
    Prop :=
  ∃ notice next, cfg.calls who = .perform (.notifyWebhook notice) next ∧
    notice.failedRequest? = some requestId

/-- **Outcome events.** As long as nothing overlaps, a failure is told only while a row of the request
has failed, and never besides a settlement. -/
theorem outcomes_told (hstart : RouteStart imports opts start)
    (hreach : Config.Reachable Orderly start cfg) (requestId : String) :
    (∀ who, TellingFailure cfg who requestId → cfg.world.db.HasRow requestId .failed) ∧
      ¬ (FailureTold cfg requestId ∧ SettlementTold cfg requestId) := by
  obtain ⟨phase, hfollows⟩ := hreach.follows preserved_routes hstart.follows
  constructor
  · rintro who ⟨notice, next, hcall, hfailed⟩
    have haccords := (hfollows.allowed hcall).accords (hfollows.inv.fits who)
    exact haccords.1 requestId hfailed
  · rintro ⟨⟨event, hevent, notice, hop, hfailed⟩, event', hevent', notice', hop', hsettled⟩
    have hrow := (hfollows.inv.told event hevent notice hop).1 requestId hfailed
    have hrow' := (hfollows.inv.told event' hevent' notice' hop').2 requestId hsettled
    cases hrow.status_eq hfollows.inv.single hrow'

end Runs

/-! ### Two requests for one verification -/

section Schedules

abbrev TwoRoutes := Config (machine (Fin 2) ⟨false, false⟩) SettleAnswer

def requestBody : Json :=
  .obj [("requestId", .str "req-0"), ("verificationId", .str "ver-0")]

def twoRoutes : TwoRoutes where
  world := verifiedWorld _
  calls _ := settleRoute sampleImports requestBody
  history := []

theorem twoRoutes_start :
    RouteStart (fun _ => sampleImports)
      (fun _ => { requestId := "req-0", verificationId := "ver-0", referralCode := none })
      twoRoutes where
  calls _ := ⟨requestBody, by decide, rfl⟩
  history := rfl
  accepted _ := by decide +kernel
  ids := List.nodup_nil
  single := List.nodup_nil

/-- Whether nothing overlaps at an event. -/
def orderlyTest (cfg : TwoRoutes) : Event interface Err (Fin 2) → Bool
  | ⟨_, .findSettlement requestId, _⟩ =>
      (cfg.world.db.settlementsOf requestId).all fun row =>
        row.settlementStatus = .confirmed ∨ row.settlementStatus = .failed
  | ⟨_, .redis (.setNx key), _⟩ => cfg.world.redis key = none
  | ⟨_, .createSettlement _ requestId _, _⟩ => (cfg.world.db.settlementsOf requestId).isEmpty
  | ⟨_, .failSettlement id, answer⟩ =>
      answer.isOk && cfg.world.db.settlements.all fun row =>
        row.id = id → row.settlementStatus ≠ .confirmed
  | _ => true

theorem orderly_of_test {cfg : TwoRoutes} {event : Event interface Err (Fin 2)}
    (h : orderlyTest cfg event = true) : Orderly cfg event := by
  obtain ⟨who, op, answer⟩ := event
  constructor
  · rintro requestId rfl row hrow
    simpa using List.all_eq_true.mp h row hrow
  · rintro requestId rfl
    exact of_decide_eq_true h
  · rintro id requestId referralCode rfl
    exact List.isEmpty_iff.mp h
  · rintro id rfl
    obtain ⟨hanswered, hrows⟩ := Bool.and_eq_true_iff.mp h
    exact ⟨hanswered, fun row hrow => of_decide_eq_true (List.all_eq_true.mp hrows row hrow)⟩

/-- A settlement whose broadcast fails, up to its notice. -/
def failToBroadcast (who : Fin 2) : List (Move (machine (Fin 2) ⟨false, false⟩)) :=
  lookups who ++ lockAndSubmit who "set-0" ++
    [.call who (.fate (.failed (.raised "execution reverted"))), .call who (.fate .done),
      .call who (.fate .done), .call who (.fate .done), .call who (.time 1700000000000)]

/-- Whether a call is about to tell a failure of the request. -/
def tellingFailure (cfg : TwoRoutes) (who : Fin 2) (requestId : String) : Bool :=
  match cfg.calls who with
  | .perform (.notifyWebhook notice) _ => notice.failedRequest? = some requestId
  | _ => false

theorem tellingFailure_sound {cfg : TwoRoutes} {who : Fin 2} {requestId : String}
    (h : tellingFailure cfg who requestId = true) : TellingFailure cfg who requestId := by
  simp only [tellingFailure] at h
  split at h
  · rename_i notice next hcall
    exact ⟨notice, next, hcall, of_decide_eq_true h⟩
  · cases h

theorem outcomes_told_failed :
    ∃ cfg : TwoRoutes, TellingFailure cfg 0 "req-0" ∧ cfg.world.db.HasRow "req-0" .failed := by
  obtain ⟨cfg, hrun, htelling⟩ := Option.map_eq_some_iff.mp
    (show (twoRoutes.runChecked orderlyTest (failToBroadcast 0)).map
      (tellingFailure · 0 "req-0") = some true by decide +kernel)
  have hreach := Config.reachable_of_runChecked (fun _ _ => orderly_of_test) hrun
  have htells := tellingFailure_sound htelling
  exact ⟨cfg, htells, (outcomes_told twoRoutes_start hreach "req-0").1 0 htells⟩

/-- Whether an event is a notice about the request. -/
def tells (about : WebhookNotice → Option String) (requestId : String) :
    Event interface Err (Fin 2) → Bool
  | ⟨_, .notifyWebhook notice, _⟩ => about notice = some requestId
  | _ => false

theorem tells_sound {about : WebhookNotice → Option String} {requestId : String}
    {history : List (Event interface Err (Fin 2))} (h : history.any (tells about requestId) = true) :
    ∃ event ∈ history, ∃ notice, event.op = .notifyWebhook notice ∧
      about notice = some requestId := by
  obtain ⟨⟨who, op, answer⟩, hevent, htells⟩ := List.any_eq_true.mp h
  refine ⟨_, hevent, ?_⟩
  cases op with
  | notifyWebhook notice => exact ⟨notice, rfl, of_decide_eq_true htells⟩
  | _ => cases htells

/-- One request is under way when the other comes in. -/
def comeInBetween : List (Move (machine (Fin 2) ⟨false, false⟩)) :=
  lookups 0 ++ lockAndSubmit 0 "set-0" ++ lookups 1 ++ [.call 1 (.time 1700000000000)]

/-- The other is told, then the first settles and is told. -/
def tellBoth : List (Move (machine (Fin 2) ⟨false, false⟩)) :=
  [.call 1 (.fate .done)] ++ mineAndConfirm 0 "0x01" "rec-0" ++ [.call 0 (.fate .done)]

theorem failure_told_of_settled :
    ∃ middle last : TwoRoutes, Config.Reachable Config.anyStep twoRoutes middle ∧
      TellingFailure middle 1 "req-0" ∧ ¬ middle.world.db.HasRow "req-0" .failed ∧
      Config.Reachable Config.anyStep middle last ∧
      FailureTold last "req-0" ∧ SettlementTold last "req-0" := by
  obtain ⟨middle, last, hreach, hmiddle, hreach', hlast⟩ := Config.exists_reachable_of_runs
    (show (twoRoutes.run comeInBetween).map (fun cfg => tellingFailure cfg 1 "req-0" &&
      cfg.world.db.settlements.all fun row => row.settlementStatus ≠ .failed) = some true by
        decide +kernel)
    (show (twoRoutes.run (comeInBetween ++ tellBoth)).map (fun cfg =>
      cfg.history.any (tells (·.failedRequest?) "req-0") &&
        cfg.history.any (tells (·.settledRequest?) "req-0")) = some true by decide +kernel)
  obtain ⟨htelling, hnone⟩ := Bool.and_eq_true_iff.mp hmiddle
  obtain ⟨hfailed, hsettled⟩ := Bool.and_eq_true_iff.mp hlast
  refine ⟨middle, last, hreach, tellingFailure_sound htelling, ?_, hreach', tells_sound hfailed,
    tells_sound hsettled⟩
  rintro ⟨row, hrow, -, hstatus⟩
  exact absurd hstatus (of_decide_eq_true (List.all_eq_true.mp hnone row hrow))

end Schedules

end Service

end FacilitatorX402
